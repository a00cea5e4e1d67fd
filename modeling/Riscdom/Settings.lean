import Riscdom.Fingerprint
import Riscdom.KeyedTable
import Riscdom.Local
import Riscdom.Text

/-!
The settings document: its versions, what reading one does, and what is written
back. An older document is migrated, a newer one refused.
-/
namespace Riscdom.Core
open KeyedTable Json

def SETTINGS_VERSION : UInt32 := 2
/-- The version of a document that declares none. -/
def OLDEST_VERSION : UInt32 := 1

/-- The last check of the environment, bound to the configuration it was made for. -/
structure PreflightCache where
  fingerprint : String
  ok : Bool
  failed_step : Option String
  detail : Option String
  suggestion : Option String
  checked_at_ms : Int
  overridden : Bool

structure ExecutorSpecSettings where
  label : String
  program : String
  args : List String

structure ServerRoleSettings where
  bind : String

structure NetworkSettings where
  remote_url : Option String
  lan_enabled : Bool
  lan_bind : Option String
  lan_allow_lan : Bool
  cross_region_server : Option String
  server_role : Option ServerRoleSettings

def NetworkSettings.to_value (network : NetworkSettings) : Value :=
  json [("remote_url", .ofOption network.remote_url), ("lan_enabled", .bool network.lan_enabled),
    ("lan_bind", .ofOption network.lan_bind), ("lan_allow_lan", .bool network.lan_allow_lan),
    ("cross_region_server", .ofOption network.cross_region_server),
    ("server_role", network.server_role.elim .null fun role => json [("bind", .string role.bind)])]

/-- One executor's model configuration as persisted: no key is in it. -/
structure LlmConfigEntry where
  provider_id : String
  base_url : String
  model : String
deriving DecidableEq

abbrev LlmConfigs := Table (Prod.fst : String × LlmConfigEntry → String)

structure LocalSettings where
  version : UInt32
  toolchain_path : Option String
  zig_path : Option String
  rust_sysroot : Option String
  qemu_path : Option String
  preflight : Option PreflightCache
  theme : Option String
  language : Option String
  alert_on_audit_failure : Bool
  sandboxes : List Provenance.SandboxDef
  default_sandbox : Option String
  executors : List ExecutorSpecSettings
  network : Option NetworkSettings
  llm_configs : LlmConfigs

def LocalSettings.default : LocalSettings where
  version := SETTINGS_VERSION
  toolchain_path := none
  zig_path := none
  rust_sysroot := none
  qemu_path := none
  preflight := none
  theme := none
  language := none
  alert_on_audit_failure := true
  sandboxes := []
  default_sandbox := none
  executors := []
  network := none
  llm_configs := .empty

/-- What reading a settings document did. -/
inductive SettingsLoad
  | Missing
  | Current
  | Migrated (from_version : UInt32)
  | TooNew (found : UInt32)
deriving DecidableEq

structure DataTooNew where
  found : UInt32
  supported : UInt32

/-- The JSON library's reader and printer for this document, the case of letters,
and that an empty text is no document. -/
structure SettingsFormat where
  from_str : String → Option Value
  from_value : Value → Option LocalSettings
  to_string_pretty : LocalSettings → String
  to_lowercase : String → String
  empty : from_str "" = none

/-! ### Reading -/

/-- A member set by index: null becomes an object, any other document that is not
one makes the library panic. -/
def index_mut (key : String) (value : Value) : Value → Option Value
  | .object members => some (.object (insert key value members))
  | .null => some (.object [(key, value)])
  | _ => none

def filled (path : String) : Bool := Text.trim path != ""

/-- An empty path is no path, and an executor needs both halves of a command line. -/
def LocalSettings.tidied (settings : LocalSettings) : LocalSettings :=
  { settings with
    toolchain_path := settings.toolchain_path.filter filled
    zig_path := settings.zig_path.filter filled
    rust_sysroot := settings.rust_sysroot.filter filled
    qemu_path := settings.qemu_path.filter filled
    executors := settings.executors.filter fun e => filled e.label && filled e.program }

/-- The members of the current format put into a document of an older one, which
carried no model configuration at all. Nothing when an indexing panics. -/
def renewed (from_version : UInt32) (value : Value) : Option Value :=
  (if from_version < 2 then index_mut "llm_configs" (.object []) value else some value).bind
    (index_mut "version" (.integer SETTINGS_VERSION.toNat))

section
variable (format : SettingsFormat)

/-- A document of the wrong shape was never a settings document. -/
def LocalSettings.of_value (value : Value) : LocalSettings :=
  match format.from_value value with
  | none => .default
  | some settings => settings.tidied

def LocalSettings.migrate (value : Value) (from_version : UInt32) : Option (Except DataTooNew LocalSettings) :=
  if SETTINGS_VERSION < from_version then some (.error ⟨from_version, SETTINGS_VERSION⟩)
  else (renewed from_version value).map fun value => .ok (LocalSettings.of_value format value)

/-- The version a document declares: nothing when what it declares is no number. -/
def declared_version (value : Value) : Option UInt32 :=
  match value.get "version" with
  | none => some OLDEST_VERSION
  | some v => (Net.as_u64 v).map UInt32.ofNat

/-- The settings in a text, with what reading them did; nothing when it panics. -/
def LocalSettings.load_text (raw : String) : Option (LocalSettings × SettingsLoad) :=
  match format.from_str raw with
  | none => some (.default, .Missing)
  | some value =>
    match declared_version value with
    | none => some (.default, .Missing)
    | some from_version =>
      match LocalSettings.migrate format value from_version with
      | none => none
      | some (.ok settings) =>
        some (settings, if from_version < SETTINGS_VERSION then .Migrated from_version else .Current)
      | some (.error e) => some (.default, .TooNew e.found)

variable {format}

theorem migrate_error {value : Value} {from_version : UInt32} {e : DataTooNew}
    (refused : LocalSettings.migrate format value from_version = some (.error e)) :
    e = ⟨from_version, SETTINGS_VERSION⟩ ∧ SETTINGS_VERSION < from_version := by
  unfold LocalSettings.migrate at refused
  split_ifs at refused with newer
  · simp only [Option.some.injEq, Except.error.injEq] at refused
    exact ⟨refused.symm, newer⟩
  · cases renewed from_version value <;> simp at refused

/-- Of a newer document nothing is applied. -/
theorem load_text_too_new {raw : String} {settings : LocalSettings} {found : UInt32}
    (loaded : LocalSettings.load_text format raw = some (settings, .TooNew found)) :
    settings = .default ∧ SETTINGS_VERSION < found := by
  unfold LocalSettings.load_text at loaded
  cases read : format.from_str raw with
  | none => simp [read] at loaded
  | some value =>
    cases declared : declared_version value with
    | none => simp [read, declared] at loaded
    | some from_version =>
      cases migrated : LocalSettings.migrate format value from_version with
      | none => simp [read, declared, migrated] at loaded
      | some result =>
        cases result with
        | ok settings =>
          simp only [read, declared, migrated, Option.some.injEq, Prod.mk.injEq] at loaded
          split_ifs at loaded <;> simp at loaded
        | error e =>
          obtain ⟨rfl, newer⟩ := migrate_error migrated
          simp only [read, declared, migrated, Option.some.injEq, Prod.mk.injEq, SettingsLoad.TooNew.injEq] at loaded
          obtain ⟨rfl, rfl⟩ := loaded
          exact ⟨rfl, newer⟩

/-- No document is refused or migrated that was not there. -/
theorem load_text_empty : LocalSettings.load_text format "" = some (.default, .Missing) := by
  simp [LocalSettings.load_text, format.empty]

end
end Riscdom.Core
