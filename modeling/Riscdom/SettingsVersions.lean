import Riscdom.JsonRecords
import Riscdom.SettingsFile

/-!
The settings document as it is written and read: its fields, with what each is
where it is left out, and which versions are taken, refused or migrated. The
version is read as 64 bits and kept as 32, so a newer document may pass for an
older one; a document of another kind than an object is not survived.
-/
namespace Riscdom.Provenance
open Json

def SandboxDef.to_value (definition : SandboxDef) : Value := json
  [("name", Codec.text.write definition.name), ("display_name", Codec.text.optional.write definition.display_name),
    ("memory_mb", (Codec.unsigned 32).optional.write definition.memory_mb),
    ("qemu_exe", Codec.text.optional.write definition.qemu_exe),
    ("toolchain_path", Codec.text.optional.write definition.toolchain_path),
    ("kernel", Codec.text.optional.write definition.kernel), ("notes", Codec.text.optional.write definition.notes),
    ("supports_multiplexing", Codec.flag.write definition.supports_multiplexing)]

def SandboxDef.from_value (v : Value) : Option SandboxDef := do
  let fields ← record ["name", "display_name", "memory_mb", "qemu_exe", "toolchain_path", "kernel", "notes",
    "supports_multiplexing"] v
  let name ← required Codec.text "name" fields
  let display_name ← defaulted Codec.text.optional none "display_name" fields
  let memory_mb ← defaulted (Codec.unsigned 32).optional none "memory_mb" fields
  let qemu_exe ← defaulted Codec.text.optional none "qemu_exe" fields
  let toolchain_path ← defaulted Codec.text.optional none "toolchain_path" fields
  let kernel ← defaulted Codec.text.optional none "kernel" fields
  let notes ← defaulted Codec.text.optional none "notes" fields
  let supports_multiplexing ← defaulted Codec.flag false "supports_multiplexing" fields
  return { name, display_name, memory_mb, qemu_exe, toolchain_path, kernel, notes, supports_multiplexing }

def SandboxDef.codec : Codec SandboxDef := ⟨to_value, from_value⟩

end Riscdom.Provenance

namespace Riscdom.Core
open Json Provenance

def PreflightCache.to_value (cache : PreflightCache) : Value := json
  [("fingerprint", Codec.text.write cache.fingerprint), ("ok", Codec.flag.write cache.ok),
    ("failed_step", Codec.text.optional.write cache.failed_step), ("detail", Codec.text.optional.write cache.detail),
    ("suggestion", Codec.text.optional.write cache.suggestion),
    ("checked_at_ms", Codec.i64.write cache.checked_at_ms),
    ("overridden", Codec.flag.write cache.overridden)]

def PreflightCache.from_value (v : Value) : Option PreflightCache := do
  let fields ← record ["fingerprint", "ok", "failed_step", "detail", "suggestion", "checked_at_ms", "overridden"] v
  let fingerprint ← required Codec.text "fingerprint" fields
  let ok ← required Codec.flag "ok" fields
  let failed_step ← defaulted Codec.text.optional none "failed_step" fields
  let detail ← defaulted Codec.text.optional none "detail" fields
  let suggestion ← defaulted Codec.text.optional none "suggestion" fields
  let checked_at_ms ← required Codec.i64 "checked_at_ms" fields
  let overridden ← defaulted Codec.flag false "overridden" fields
  return { fingerprint, ok, failed_step, detail, suggestion, checked_at_ms, overridden }

def PreflightCache.codec : Codec PreflightCache := ⟨to_value, from_value⟩

def ExecutorSpecSettings.to_value (executor : ExecutorSpecSettings) : Value := json
  [("label", Codec.text.write executor.label), ("program", Codec.text.write executor.program),
    ("args", Codec.text.list.write executor.args)]

def ExecutorSpecSettings.from_value (v : Value) : Option ExecutorSpecSettings := do
  let fields ← record ["label", "program", "args"] v
  let label ← required Codec.text "label" fields
  let program ← required Codec.text "program" fields
  let args ← defaulted Codec.text.list [] "args" fields
  return { label, program, args }

def ExecutorSpecSettings.codec : Codec ExecutorSpecSettings := ⟨to_value, from_value⟩

def ServerRoleSettings.from_value (v : Value) : Option ServerRoleSettings := do
  let fields ← record ["bind"] v
  let bind ← required Codec.text "bind" fields
  return { bind }

def ServerRoleSettings.codec : Codec ServerRoleSettings := ⟨fun role => json [("bind", .string role.bind)], from_value⟩

def NetworkSettings.from_value (v : Value) : Option NetworkSettings := do
  let fields ← record ["remote_url", "lan_enabled", "lan_bind", "lan_allow_lan", "cross_region_server", "server_role"] v
  let remote_url ← defaulted Codec.text.optional none "remote_url" fields
  let lan_enabled ← defaulted Codec.flag false "lan_enabled" fields
  let lan_bind ← defaulted Codec.text.optional none "lan_bind" fields
  let lan_allow_lan ← defaulted Codec.flag false "lan_allow_lan" fields
  let cross_region_server ← defaulted Codec.text.optional none "cross_region_server" fields
  let server_role ← defaulted ServerRoleSettings.codec.optional none "server_role" fields
  return { remote_url, lan_enabled, lan_bind, lan_allow_lan, cross_region_server, server_role }

def NetworkSettings.codec : Codec NetworkSettings := ⟨to_value, from_value⟩

def LlmConfigEntry.to_value (entry : LlmConfigEntry) : Value := json
  [("provider_id", Codec.text.write entry.provider_id), ("base_url", Codec.text.write entry.base_url),
    ("model", Codec.text.write entry.model)]

def LlmConfigEntry.from_value (v : Value) : Option LlmConfigEntry := do
  let fields ← record ["provider_id", "base_url", "model"] v
  let provider_id ← defaulted Codec.text "" "provider_id" fields
  let base_url ← defaulted Codec.text "" "base_url" fields
  let model ← defaulted Codec.text "" "model" fields
  return { provider_id, base_url, model }

def LlmConfigEntry.codec : Codec LlmConfigEntry := ⟨to_value, from_value⟩

/-- The entries put into a map one after another. -/
def LlmConfigs.collect (rows : List (String × LlmConfigEntry)) : LlmConfigs := rows.foldl .replace .empty

/-- The members of the document, in the order they are written. -/
def LocalSettings.fields (settings : LocalSettings) : List (String × Value) :=
  [("version", (Codec.unsigned 32).write settings.version.toNat),
    ("toolchain_path", Codec.text.optional.write settings.toolchain_path),
    ("zig_path", Codec.text.optional.write settings.zig_path),
    ("rust_sysroot", Codec.text.optional.write settings.rust_sysroot),
    ("qemu_path", Codec.text.optional.write settings.qemu_path),
    ("preflight", PreflightCache.codec.optional.write settings.preflight),
    ("theme", Codec.text.optional.write settings.theme), ("language", Codec.text.optional.write settings.language),
    ("alert_on_audit_failure", Codec.flag.write settings.alert_on_audit_failure),
    ("sandboxes", SandboxDef.codec.list.write settings.sandboxes),
    ("default_sandbox", Codec.text.optional.write settings.default_sandbox),
    ("executors", ExecutorSpecSettings.codec.list.write settings.executors),
    ("network", NetworkSettings.codec.optional.write settings.network),
    ("llm_configs", LlmConfigEntry.codec.entries.write settings.llm_configs.rows)]

def LocalSettings.to_value (settings : LocalSettings) : Value := json settings.fields

/-- The fields a document has carried since version 1; the version and the configurations are not among them. -/
def LocalSettings.since_v1 (fields : Value) : Option LocalSettings := do
  let toolchain_path ← defaulted Codec.text.optional none "toolchain_path" fields
  let zig_path ← defaulted Codec.text.optional none "zig_path" fields
  let rust_sysroot ← defaulted Codec.text.optional none "rust_sysroot" fields
  let qemu_path ← defaulted Codec.text.optional none "qemu_path" fields
  let preflight ← defaulted PreflightCache.codec.optional none "preflight" fields
  let theme ← defaulted Codec.text.optional none "theme" fields
  let language ← defaulted Codec.text.optional none "language" fields
  -- the alert is on unless the document turns it off
  let alert_on_audit_failure ← defaulted Codec.flag true "alert_on_audit_failure" fields
  let sandboxes ← defaulted SandboxDef.codec.list [] "sandboxes" fields
  let default_sandbox ← defaulted Codec.text.optional none "default_sandbox" fields
  let executors ← defaulted ExecutorSpecSettings.codec.list [] "executors" fields
  let network ← defaulted NetworkSettings.codec.optional none "network" fields
  return { LocalSettings.default with
    toolchain_path, zig_path, rust_sysroot, qemu_path, preflight, theme, language, alert_on_audit_failure, sandboxes
    default_sandbox, executors, network }

def LocalSettings.from_value (v : Value) : Option LocalSettings := do
  let fields ← record ["version", "toolchain_path", "zig_path", "rust_sysroot", "qemu_path", "preflight", "theme", "language",
    "alert_on_audit_failure", "sandboxes", "default_sandbox", "executors", "network", "llm_configs"] v
  let version ← required (Codec.unsigned 32) "version" fields
  let settings ← LocalSettings.since_v1 fields
  let llm_configs ← defaulted LlmConfigEntry.codec.entries [] "llm_configs" fields
  return { settings with
    version := .ofNat version
    llm_configs := .collect llm_configs }

/-! ### What is written is read back -/

/-- The numbers in the settings are of the width they are declared with. -/
structure LocalSettings.Fits (settings : LocalSettings) : Prop where
  preflight : ∀ cache, settings.preflight = some cache → -2 ^ 63 ≤ cache.checked_at_ms ∧ cache.checked_at_ms < 2 ^ 63
  sandboxes : ∀ definition ∈ settings.sandboxes, ∀ memory_mb, definition.memory_mb = some memory_mb → memory_mb < 2 ^ 32

theorem sandbox_keeps {definition : SandboxDef} (fits : ∀ memory_mb, definition.memory_mb = some memory_mb → memory_mb < 2 ^ 32) :
    SandboxDef.codec.Keeps definition := by
  have memory : (Codec.unsigned 32).optional.Keeps definition.memory_mb :=
    Codec.optional_keeps fun n given => ⟨Codec.unsigned_keeps (fits n given), nofun⟩
  show SandboxDef.from_value definition.to_value = some definition
  simp [SandboxDef.from_value, SandboxDef.to_value, required, defaulted, get_json, lookup, memory.back]

theorem preflight_keeps {cache : PreflightCache} (low : -2 ^ 63 ≤ cache.checked_at_ms) (high : cache.checked_at_ms < 2 ^ 63) :
    PreflightCache.codec.Keeps cache := by
  have checked : Codec.i64.Keeps cache.checked_at_ms := Codec.i64_keeps low high
  show PreflightCache.from_value cache.to_value = some cache
  simp [PreflightCache.from_value, PreflightCache.to_value, required, defaulted, get_json, lookup, checked.back]

theorem executor_keeps (executor : ExecutorSpecSettings) : ExecutorSpecSettings.codec.Keeps executor := by
  have args : Codec.text.list.Keeps executor.args := Codec.list_keeps fun t _ => Codec.text_back t
  show ExecutorSpecSettings.from_value executor.to_value = some executor
  simp [ExecutorSpecSettings.from_value, ExecutorSpecSettings.to_value, required, defaulted, get_json, lookup, args.back]

theorem role_keeps (role : ServerRoleSettings) : ServerRoleSettings.codec.Keeps role := rfl

theorem ofOption_eq (t : Option String) : Value.ofOption t = Codec.text.optional.write t := by
  cases t with
  | none => rfl
  | some t => rfl

theorem network_keeps (network : NetworkSettings) : NetworkSettings.codec.Keeps network := by
  have role : ServerRoleSettings.codec.optional.Keeps network.server_role :=
    Codec.optional_keeps fun role _ => ⟨role_keeps role, nofun⟩
  have written : (network.server_role.elim .null fun role => json [("bind", .string role.bind)]) =
      ServerRoleSettings.codec.optional.write network.server_role := by
    cases network.server_role with
    | none => rfl
    | some role => rfl
  have on : Codec.flag.read (.bool network.lan_enabled) = some network.lan_enabled := rfl
  have wide : Codec.flag.read (.bool network.lan_allow_lan) = some network.lan_allow_lan := rfl
  show NetworkSettings.from_value network.to_value = some network
  simp [NetworkSettings.from_value, NetworkSettings.to_value, defaulted, get_json, lookup, ofOption_eq, written, role.back,
    on, wide]

theorem entry_keeps (entry : LlmConfigEntry) : LlmConfigEntry.codec.Keeps entry := by
  show LlmConfigEntry.from_value entry.to_value = some entry
  simp [LlmConfigEntry.from_value, LlmConfigEntry.to_value, defaulted, get_json, lookup]

/-- Every field of the settings is found in the document. -/
theorem get_to_value (settings : LocalSettings) {key : String} {value : Value} (i : Nat)
    (there : settings.fields[i]? = some (key, value)) : settings.to_value.get key = some value := by
  have distinct : (settings.fields.map Prod.fst).Nodup := by
    show ["version", "toolchain_path", "zig_path", "rust_sysroot", "qemu_path", "preflight", "theme", "language",
      "alert_on_audit_failure", "sandboxes", "default_sandbox", "executors", "network", "llm_configs"].Nodup
    decide
  exact get_json_mem distinct (List.mem_of_getElem? there)

/-- The settings come back, with the configurations in the order of their executors. -/
theorem from_to_value {settings : LocalSettings} (fits : settings.Fits) : LocalSettings.from_value settings.to_value =
    some { settings with llm_configs := .collect (arranged settings.llm_configs.rows) } := by
  have record : ∀ keys, record keys settings.to_value = some settings.to_value := fun keys => record_json keys _
  have version := required_of (get_to_value settings 0 rfl) (Codec.unsigned_keeps settings.version.toNat_lt)
  have words {key : String} {t : Option String} (i : Nat)
      (there : settings.fields[i]? = some (key, Codec.text.optional.write t)) :
      defaulted Codec.text.optional none key settings.to_value = some t :=
    defaulted_of (get_to_value settings i there) (Codec.text_optional_back t)
  have preflight : defaulted PreflightCache.codec.optional none "preflight" settings.to_value = some settings.preflight :=
    defaulted_of (get_to_value settings 5 rfl) (Codec.optional_keeps fun cache given =>
      ⟨preflight_keeps (fits.preflight cache given).1 (fits.preflight cache given).2, nofun⟩)
  have alert : defaulted Codec.flag true "alert_on_audit_failure" settings.to_value = some settings.alert_on_audit_failure :=
    defaulted_of (get_to_value settings 8 rfl) (Codec.flag_back _)
  have sandboxes : defaulted SandboxDef.codec.list [] "sandboxes" settings.to_value = some settings.sandboxes :=
    defaulted_of (get_to_value settings 9 rfl) (Codec.list_keeps fun definition inside =>
      sandbox_keeps (fits.sandboxes definition inside))
  have executors : defaulted ExecutorSpecSettings.codec.list [] "executors" settings.to_value = some settings.executors :=
    defaulted_of (get_to_value settings 11 rfl) (Codec.list_keeps fun executor _ => executor_keeps executor)
  have network : defaulted NetworkSettings.codec.optional none "network" settings.to_value = some settings.network :=
    defaulted_of (get_to_value settings 12 rfl) (Codec.optional_keeps fun network _ => ⟨network_keeps network, nofun⟩)
  have configs : defaulted LlmConfigEntry.codec.entries [] "llm_configs" settings.to_value =
      some (arranged settings.llm_configs.rows) := by
    rw [defaulted, get_to_value settings 13 rfl]
    exact entries_read fun row _ => entry_keeps row.2
  have since_v1 : LocalSettings.since_v1 settings.to_value =
      some { settings with version := SETTINGS_VERSION, llm_configs := .empty } := by
    refine reads (words 1 rfl) <| reads (words 2 rfl) <| reads (words 3 rfl) <| reads (words 4 rfl) <| reads preflight <|
      reads (words 6 rfl) <| reads (words 7 rfl) <| reads alert <| reads sandboxes <| reads (words 10 rfl) <|
      reads executors <| reads network ?_
    rfl
  refine reads (record _) <| reads version <| reads since_v1 <| reads configs ?_
  rw [UInt32.ofNat_toNat]
  rfl

/-- The same settings: maps of the same entries are one map. -/
def LocalSettings.Same (settings others : LocalSettings) : Prop :=
  { settings with llm_configs := .empty } = { others with llm_configs := .empty } ∧
    ∀ executor, settings.llm_configs.find executor = others.llm_configs.find executor

theorem find_collect (executor : String) (rows : List (String × LlmConfigEntry)) (table : LlmConfigs) :
    (rows.foldl .replace table).find executor = ((lookup executor rows.reverse).map (executor, ·)).or (table.find executor) := by
  induction rows generalizing table with
  | nil => rfl
  | cons row rows ih =>
    obtain ⟨key, entry⟩ := row
    rw [List.foldl_cons, ih, List.reverse_cons, lookup_append, KeyedTable.Table.find_replace, lookup, lookup]
    cases lookup executor rows.reverse with
    | some found => rfl
    | none =>
      by_cases same : executor = key
      · simp [same]
      · simp [same]

theorem lookup_entry (executor : String) (rows : List (String × LlmConfigEntry)) :
    (lookup executor rows).map (executor, ·) = rows.find? fun row => row.1 = executor := by
  induction rows with
  | nil => rfl
  | cons row rows ih =>
    obtain ⟨key, entry⟩ := row
    by_cases same : executor = key
    · simp [lookup, same]
    · simp [lookup, same, Ne.symm same, ih]

/-- A map put together from its arranged entries is the map. -/
theorem find_collect_arranged (configs : LlmConfigs) (executor : String) :
    (LlmConfigs.collect (arranged configs.rows)).find executor = configs.find executor := by
  have distinct : ((arranged configs.rows).map Prod.fst).Nodup :=
    List.pairwise_map.mpr ((sorted_arranged configs.rows).imp fun below => ne_of_lt below)
  rw [LlmConfigs.collect, find_collect, lookup_reverse executor distinct, lookup_arranged, lookup_reverse executor configs.distinct,
    KeyedTable.Table.find_empty, Option.or_none, lookup_entry]
  rfl

/-! ### A format that is run -/

/-- A new line, and two blanks for every level. -/
def new_line (level : Nat) : List Char := '\n' :: List.replicate (2 * level) ' '

mutual
/-- The text of a document over several lines. -/
def pretty (level : Nat) : Value → List Char
  | .array (item :: rest) =>
    '[' :: (new_line (level + 1) ++ pretty (level + 1) item ++ pretty_items (level + 1) rest ++ new_line level ++ [']'])
  | .object ((key, value) :: rest) =>
    '\x7b' :: (new_line (level + 1) ++ quoted key ++ [':', ' '] ++ pretty (level + 1) value ++
      pretty_members (level + 1) rest ++ new_line level ++ ['\x7d'])
  | other => print other
def pretty_items (level : Nat) : List Value → List Char
  | [] => []
  | item :: rest => ',' :: (new_line level ++ pretty level item ++ pretty_items level rest)
def pretty_members (level : Nat) : List (String × Value) → List Char
  | [] => []
  | (key, value) :: rest =>
    ',' :: (new_line level ++ quoted key ++ [':', ' '] ++ pretty level value ++ pretty_members level rest)
end

/-- The text without the blanks and new lines outside its strings. -/
def unspaced (quote : Bool) : List Char → List Char
  | [] => []
  | c :: rest =>
    if quote then
      if c = '\\' then
        match rest with
        | [] => [c]
        | e :: rest => c :: e :: unspaced true rest
      else c :: unspaced (c != '"') rest
    else if c = ' ' ∨ c = '\n' then unspaced false rest else c :: unspaced (c == '"') rest

/-- The documents of this library are printed over several lines, the settings in the order of their fields. -/
def serde_format : SettingsFormat where
  from_str text := (parse (String.ofList (unspaced false text.toList))).toOption
  from_value := LocalSettings.from_value
  to_string_pretty settings := String.ofList (pretty 0 (.object settings.fields))
  to_lowercase := String.toLower
  empty := by rfl

theorem print_injective {v w : Value} (plain : Plain v) (other : Plain w) (same : print v = print w) : v = w := by
  have first := parse_print plain
  rw [same, parse_print other] at first
  exact (Except.ok.inj first).symm

/-- A text that is read to its end, as what is printed like the document, is read as the document. -/
theorem reads_printed {chars : List Char} {v : Value} (plain : Plain v)
    (whole : (Json.read (unspaced false chars).length (unspaced false chars)).map (fun read => (print read.1, read.2)) =
      some (print v, [])) : serde_format.from_str (.ofList chars) = some v := by
  obtain ⟨⟨w, rest⟩, read, same⟩ := Option.map_eq_some_iff.mp whole
  obtain ⟨printed, rfl⟩ := Prod.mk.inj same
  have parsed : parse (String.ofList (unspaced false chars)) = .ok w := by rw [parse, String.toList_ofList, read]
  have text : serde_format.from_str (.ofList chars) =
      (parse (String.ofList (unspaced false (String.ofList chars).toList))).toOption := by simp only [serde_format]
  rw [text, String.toList_ofList, parsed, print_injective plain (plain_parse parsed) printed.symm]
  rfl

/-! ### Which documents are survived -/

/-- A document whose members can be set: an object, or null, which becomes one. -/
def Settable : Value → Prop
  | .object _ => True
  | .null => True
  | _ => False

theorem index_mut_isSome (key : String) (value document : Value) : (index_mut key value document).isSome ↔ Settable document := by
  cases document <;> simp [index_mut, Settable]

theorem settable_index_mut {key : String} {value document after : Value} (set : index_mut key value document = some after) :
    Settable after := by
  cases document <;> simp only [index_mut, Option.some.injEq, reduceCtorEq] at set <;> subst set <;> trivial

theorem renewed_isSome (from_version : UInt32) (document : Value) : (renewed from_version document).isSome ↔ Settable document := by
  unfold renewed
  split_ifs
  · constructor
    · intro there
      cases set : index_mut "llm_configs" (.object []) document with
      | none =>
        rw [set] at there
        cases there
      | some after => exact (index_mut_isSome "llm_configs" (.object []) document).mp (by rw [set]; rfl)
    · intro settable
      obtain ⟨after, set⟩ := Option.isSome_iff_exists.mp ((index_mut_isSome "llm_configs" (.object []) document).mpr settable)
      rw [set, Option.bind_some, index_mut_isSome]
      exact settable_index_mut set
  · rw [Option.bind_some, index_mut_isSome]

/-- Only an object or null is migrated, and what declares no version is. -/
theorem declared_unsettable {document : Value} (closed : ¬ Settable document) : declared_version document = some OLDEST_VERSION := by
  cases document <;> first | rfl | exact absurd trivial closed

/-- Reading the text panics exactly at a document that is neither an object nor null. -/
theorem load_text_total_iff (format : SettingsFormat) (raw : String) :
    (LocalSettings.load_text format raw).isSome ↔ ∀ document, format.from_str raw = some document → Settable document := by
  unfold LocalSettings.load_text
  cases read : format.from_str raw with
  | none => simp
  | some document =>
    simp only [Option.some.injEq, forall_eq']
    by_cases settable : Settable document
    · refine iff_of_true ?_ settable
      cases declared_version document with
      | none => rfl
      | some from_version =>
        obtain ⟨after, set⟩ := Option.isSome_iff_exists.mp ((renewed_isSome from_version document).mpr settable)
        by_cases newer : SETTINGS_VERSION < from_version
        · simp [LocalSettings.migrate, newer]
        · simp [LocalSettings.migrate, newer, set]
    · refine iff_of_false ?_ settable
      have stuck : renewed OLDEST_VERSION document = none :=
        Option.not_isSome_iff_eq_none.mp (mt (renewed_isSome OLDEST_VERSION document).mp settable)
      have current : ¬ SETTINGS_VERSION < OLDEST_VERSION := by decide
      simp [declared_unsettable settable, LocalSettings.migrate, current, stuck]

/-- A list is a document as well, and a node that finds one for its settings does not start. -/
theorem list_document_panics : LocalSettings.load_text serde_format "[]" = none ∧
    (SettingsState.start "" ⟨some "[]".toUTF8, none⟩ []).load_settings serde_format = none := by
  have there : serde_format.from_str "[]" = some (.array []) :=
    @reads_printed ['[', ']'] (.array []) (by simp [Plain, PlainItems]) (by decide +kernel)
  have panics : LocalSettings.load_text serde_format "[]" = none := by
    unfold LocalSettings.load_text
    rw [there]
    rfl
  refine ⟨panics, ?_⟩
  rw [SettingsState.load_settings, raw_start, panics, Option.map_none]

/-! ### Versions -/

mutual
/-- What the library holds for a document: an integer that does not fit 64 bits becomes a binary64. -/
def held (round : Int → UInt64) : Value → Value
  | .integer n => if -2 ^ 63 ≤ n ∧ n < 2 ^ 64 then .integer n else .float (round n)
  | .array items => .array (held_items round items)
  | .object members => .object (held_members round members)
  | other => other
def held_items (round : Int → UInt64) : List Value → List Value
  | [] => []
  | item :: rest => held round item :: held_items round rest
def held_members (round : Int → UInt64) : List (String × Value) → List (String × Value)
  | [] => []
  | (key, value) :: rest => (key, held round value) :: held_members round rest
end

theorem lookup_held_members (round : Int → UInt64) (key : String) (members : List (String × Value)) :
    lookup key (held_members round members) = (lookup key members).map (held round) := by
  induction members with
  | nil => simp [held_members, lookup]
  | cons head rest ih =>
    obtain ⟨k, v⟩ := head
    rw [held_members, lookup, lookup, ih]
    split_ifs
    · rfl
    · rfl

/-- The text is one of the document: whatever the library reads from it, it holds for that document. -/
def Spells (format : SettingsFormat) (round : Int → UInt64) (raw : String) (document : Value) : Prop :=
  ∀ value, format.from_str raw = some value → value = held round document

/-- Defaults and a refusal are the answer exactly to a document whose version is a number above the current one. -/
def RefusesNewer (format : SettingsFormat) (raw : String) (document : Value) : Prop :=
  (∃ found, LocalSettings.load_text format raw = some (.default, .TooNew found)) ↔
    ∃ n : Nat, document.get "version" = some (.integer n) ∧ SETTINGS_VERSION.toNat < n

section
variable {format : SettingsFormat} {raw : String} {document : Value} {from_version : UInt32}

theorem load_text_declared (read : format.from_str raw = some document) (declared : declared_version document = some from_version) :
    LocalSettings.load_text format raw = (LocalSettings.migrate format document from_version).map fun result =>
      match result with
      | .ok settings => (settings, if from_version < SETTINGS_VERSION then .Migrated from_version else .Current)
      | .error e => (.default, .TooNew e.found) := by
  simp only [LocalSettings.load_text, read, declared]
  cases LocalSettings.migrate format document from_version with
  | none => rfl
  | some result => cases result <;> rfl

/-- A document of a version that is not above the current one is taken, current or migrated. -/
theorem load_text_known (read : format.from_str raw = some document) (declared : declared_version document = some from_version)
    (known : ¬ SETTINGS_VERSION < from_version) : LocalSettings.load_text format raw =
      (renewed from_version document).map fun value =>
        (LocalSettings.of_value format value, if from_version < SETTINGS_VERSION then .Migrated from_version else .Current) := by
  rw [load_text_declared read declared, LocalSettings.migrate, if_neg known, Option.map_map]
  rfl

/-- What is read is refused exactly where the 32 bits its version is kept in are above the current one. -/
theorem refused_iff (read : format.from_str raw = some document) :
    (∃ found, LocalSettings.load_text format raw = some (.default, .TooNew found)) ↔
      ∃ from_version, declared_version document = some from_version ∧ SETTINGS_VERSION < from_version := by
  cases declared : declared_version document with
  | none => simp [LocalSettings.load_text, read, declared]
  | some from_version =>
    by_cases newer : SETTINGS_VERSION < from_version
    · simp [load_text_declared read declared, LocalSettings.migrate, newer]
    · rw [load_text_known read declared newer]
      cases renewed from_version document with
      | none => simp [newer]
      | some value =>
        by_cases older : from_version < SETTINGS_VERSION
        · simp [older, newer]
        · simp [older, newer]

theorem above_current (n : Nat) : SETTINGS_VERSION < UInt32.ofNat n ↔ 2 < n % 2 ^ 32 := by
  rw [UInt32.lt_iff_toNat_lt, UInt32.toNat_ofNat']
  rfl

/-- A number is read as 64 bits if it fits, and not at all otherwise. -/
theorem as_u64_held (round : Int → UInt64) (n : Nat) :
    Net.as_u64 (held round (.integer n)) = if n < 2 ^ 64 then some n else none := by
  by_cases fits : n < 2 ^ 64
  · have inside : -2 ^ 63 ≤ (n : Int) ∧ (n : Int) < 2 ^ 64 := by omega
    have natural : (0 : Int) ≤ n ∧ (n : Int) < 2 ^ 64 := by omega
    rw [held, if_pos inside, Net.as_u64, if_pos natural, if_pos fits, Int.toNat_natCast]
  · have outside : ¬ (-2 ^ 63 ≤ (n : Int) ∧ (n : Int) < 2 ^ 64) := by omega
    rw [held, if_neg outside, if_neg fits, Net.as_u64]
    rintro _ ⟨⟩

theorem as_u64_negative (round : Int → UInt64) {n : Int} (negative : n < 0) : Net.as_u64 (held round (.integer n)) = none := by
  rw [held]
  split_ifs with inside
  · rw [Net.as_u64, if_neg (by omega)]
  · rfl

/-- A newer document is refused exactly where the library reads it and its version keeps its size in 64 and in 32 bits. -/
theorem refuses_newer_iff {round : Int → UInt64} {members : List (String × Value)}
    (spells : Spells format round raw (.object members)) :
    RefusesNewer format raw (.object members) ↔ ∀ n : Nat, lookup "version" members = some (.integer n) → 2 < n →
      (format.from_str raw).isSome ∧ n < 2 ^ 64 ∧ 2 < n % 2 ^ 32 := by
  have exact : RefusesNewer format raw (.object members) ↔
      ((∃ found, LocalSettings.load_text format raw = some (.default, .TooNew found)) ↔
        ∃ n : Nat, lookup "version" members = some (.integer n) ∧ 2 < n) := Iff.rfl
  rw [exact]
  cases read : format.from_str raw with
  | none =>
    have missing : ¬ ∃ found, LocalSettings.load_text format raw = some (.default, .TooNew found) := by
      simp [LocalSettings.load_text, read]
    simp only [missing, Option.isSome_none, Bool.false_eq_true, false_and, imp_false, false_iff, not_exists, not_and]
  | some value =>
    have held_doc : value = .object (held_members round members) := by rw [spells value read, held]
    have found : value.get "version" = (lookup "version" members).map (held round) := by
      rw [held_doc, Value.get, lookup_held_members]
    rw [refused_iff read, declared_version, found]
    simp only [Option.isSome_some, true_and]
    cases version : lookup "version" members with
    | none => simp [OLDEST_VERSION, SETTINGS_VERSION]
    | some v =>
      cases v with
      | integer n =>
        by_cases negative : n < 0
        · have no_number (m : Nat) : n ≠ m := by omega
          simp [as_u64_negative round negative, no_number]
        · obtain ⟨m, rfl⟩ := Int.eq_ofNat_of_zero_le (not_lt.mp negative)
          simp only [Option.map_some, as_u64_held, Option.some.injEq, Value.integer.injEq, Int.natCast_inj,
            exists_eq_left', forall_eq']
          by_cases fits : m < 2 ^ 64
          · simp only [if_pos fits, Option.map_some, Option.some.injEq, exists_eq_left', above_current]
            omega
          · simp only [if_neg fits, Option.map_none, reduceCtorEq, false_and, exists_false, false_iff]
            omega
      | _ => simp [held, Net.as_u64]

/-! ### A save and a load -/

/-- What is tidy is left alone. -/
theorem tidied_tidied (settings : LocalSettings) : settings.tidied.tidied = settings.tidied := by
  simp [LocalSettings.tidied, List.filter_filter]

theorem declared_to_value (settings : LocalSettings) : declared_version settings.to_value = some settings.version := by
  have number : settings.to_value.get "version" = some (.integer settings.version.toNat) := get_to_value settings 0 rfl
  have small := settings.version.toNat_lt
  have fits : (0 : Int) ≤ settings.version.toNat ∧ (settings.version.toNat : Int) < 2 ^ 64 := by omega
  rw [declared_version, number]
  dsimp only
  rw [Net.as_u64, if_pos fits, Option.map_some, Int.toNat_natCast, UInt32.ofNat_toNat]

/-- Settings of the current version come back as they were, tidied. -/
theorem of_to_value (serde : format.from_value = LocalSettings.from_value) {settings : LocalSettings} (fits : settings.Fits)
    (current : settings.version = SETTINGS_VERSION) :
    ∃ loaded : LocalSettings, (renewed settings.version settings.to_value).map (LocalSettings.of_value format) = some loaded ∧
      loaded.Same settings.tidied := by
  obtain ⟨members, there⟩ : ∃ members, settings.to_value = .object members := ⟨_, rfl⟩
  have sorted : Sorted members := by
    have written : members = arranged settings.fields := (Value.object.inj there).symm
    rw [written]
    exact sorted_arranged _
  have version : lookup "version" members = some (.integer SETTINGS_VERSION.toNat) := by
    have found := get_to_value settings 0 rfl
    rw [there, current] at found
    exact found
  have same : renewed settings.version settings.to_value = some settings.to_value := by
    have newest : ¬ SETTINGS_VERSION < 2 := by decide
    rw [current, renewed, if_neg newest, Option.bind_some, there, index_mut, insert_lookup sorted version]
  refine ⟨{ settings with llm_configs := .collect (arranged settings.llm_configs.rows) }.tidied, ?_, rfl, ?_⟩
  · rw [same, Option.map_some, LocalSettings.of_value, serde, from_to_value fits]
  · exact find_collect_arranged settings.llm_configs

/-- Settings are loaded as current, and as they were, exactly when they carry the current version. -/
theorem saved_loads_iff (serde : format.from_value = LocalSettings.from_value) {settings : LocalSettings} (fits : settings.Fits)
    (read : format.from_str (format.to_string_pretty settings) = some settings.to_value) :
    (∃ loaded, LocalSettings.load_text format (format.to_string_pretty settings) = some (loaded, .Current) ∧
      loaded.Same settings.tidied) ↔ settings.version = SETTINGS_VERSION := by
  have declared := declared_to_value settings
  constructor
  · rintro ⟨loaded, found, -⟩
    by_cases newer : SETTINGS_VERSION < settings.version
    · simp [load_text_declared read declared, LocalSettings.migrate, newer] at found
    · rw [load_text_known read declared newer] at found
      by_cases older : settings.version < SETTINGS_VERSION
      · simp [older] at found
      · rw [UInt32.lt_iff_toNat_lt] at newer older
        exact UInt32.toNat_inj.mp (by omega)
  · intro current
    obtain ⟨loaded, came, same⟩ := of_to_value serde fits current
    obtain ⟨value, renew, rfl⟩ := Option.map_eq_some_iff.mp came
    have known : ¬ SETTINGS_VERSION < settings.version := by
      rw [current]
      decide
    have newest : ¬ settings.version < SETTINGS_VERSION := by
      rw [current]
      decide
    refine ⟨_, ?_, same⟩
    rw [load_text_known read declared known, renew, Option.map_some, if_neg newest]

/-! ### A migration -/

/-- The fields that were there in version 1 are read without a look at the others. -/
theorem since_v1_congr {fields others : Value}
    (same : ∀ key, key ≠ "version" → key ≠ "llm_configs" → fields.get key = others.get key) :
    LocalSettings.since_v1 fields = LocalSettings.since_v1 others := by
  have field {α : Type} (codec : Codec α) (fallback : α) (key : String) (a : key ≠ "version") (b : key ≠ "llm_configs") :
      defaulted codec fallback key fields = defaulted codec fallback key others := defaulted_congr codec fallback (same key a b)
  unfold LocalSettings.since_v1
  repeat rw [field _ _ _ (by decide) (by decide)]

/-- A document of an older version is migrated with every field that was there in version 1. -/
theorem migration_keeps (serde : format.from_value = LocalSettings.from_value) {members : List (String × Value)}
    {old : LocalSettings} (read : format.from_str raw = some (.object members))
    (declared : declared_version (.object members) = some from_version) (older : from_version < SETTINGS_VERSION)
    (fields : LocalSettings.since_v1 (.object members) = some old) : LocalSettings.load_text format raw =
      some ({ old with version := SETTINGS_VERSION, llm_configs := .empty }.tidied, .Migrated from_version) := by
  let members' := insert "version" (.integer SETTINGS_VERSION.toNat) (insert "llm_configs" (.object []) members)
  have known : ¬ SETTINGS_VERSION < from_version := by
    rw [UInt32.lt_iff_toNat_lt] at older ⊢
    omega
  have renew : renewed from_version (.object members) = some (.object members') := by
    have second : from_version < 2 := older
    rw [renewed, if_pos second]
    rfl
  have found (key : String) : Value.get key (.object members') = if key = "version" then some (.integer SETTINGS_VERSION.toNat)
      else if key = "llm_configs" then some (.object []) else lookup key members := by
    rw [Value.get, lookup_insert, lookup_insert]
  have version : required (Codec.unsigned 32) "version" (.object members') = some SETTINGS_VERSION.toNat :=
    required_of (found "version") (Codec.unsigned_keeps (by decide))
  have others : LocalSettings.since_v1 (.object members') = some old := by
    rw [← fields]
    refine since_v1_congr fun key first second => ?_
    rw [found, if_neg first, if_neg second, Value.get]
  have configs : defaulted LlmConfigEntry.codec.entries [] "llm_configs" (.object members') = some [] := by
    rw [defaulted, found, if_neg (by decide), if_pos rfl]
    rfl
  have whole : LocalSettings.from_value (.object members') =
      some { old with version := SETTINGS_VERSION, llm_configs := .empty } := by
    refine reads (record_object _ _) <| reads version <| reads others <| reads configs ?_
    rfl
  rw [load_text_known read declared known, renew, Option.map_some, if_pos older, LocalSettings.of_value, serde, whole]

/-- Newer documents are refused as they should be exactly where the library reads them and the version fits its 64 and 32
    bits; settings survive a save and a load exactly where they carry the current version; the tidying is idempotent; and
    a migration keeps every field there was in version 1. -/
theorem settings_versions_iff (serde : format.from_value = LocalSettings.from_value) :
    (∀ (round : Int → UInt64) (raw : String) (members : List (String × Value)), Spells format round raw (.object members) →
      (RefusesNewer format raw (.object members) ↔ ∀ n : Nat, lookup "version" members = some (.integer n) → 2 < n →
        (format.from_str raw).isSome ∧ n < 2 ^ 64 ∧ 2 < n % 2 ^ 32)) ∧
    (∀ settings : LocalSettings, settings.Fits → format.from_str (format.to_string_pretty settings) = some settings.to_value →
      ((∃ loaded, LocalSettings.load_text format (format.to_string_pretty settings) = some (loaded, .Current) ∧
        loaded.Same settings.tidied) ↔ settings.version = SETTINGS_VERSION)) ∧
    (∀ settings : LocalSettings, settings.tidied.tidied = settings.tidied) ∧
    ∀ (raw : String) (members : List (String × Value)) (from_version : UInt32) (old : LocalSettings),
      format.from_str raw = some (.object members) → declared_version (.object members) = some from_version →
      from_version < SETTINGS_VERSION → LocalSettings.since_v1 (.object members) = some old →
        LocalSettings.load_text format raw =
          some ({ old with version := SETTINGS_VERSION, llm_configs := .empty }.tidied, .Migrated from_version) :=
  ⟨fun _ _ _ spells => refuses_newer_iff spells, fun _ fits read => saved_loads_iff serde fits read, tidied_tidied,
    fun _ _ _ _ read declared older fields => migration_keeps serde read declared older fields⟩

end

/-- Settings with a theme and nothing else. -/
def dark_settings : LocalSettings := { LocalSettings.default with theme := some "dark" }

theorem dark_fits : dark_settings.Fits where
  preflight cache given := by cases given
  sandboxes definition inside := by cases inside

/-- A document of version 3, settings that are saved and loaded again, and a document of version 1. -/
theorem some_versions_settled :
    RefusesNewer serde_format "\x7b\"version\":3\x7d" (.object [("version", .integer 3)]) ∧
    (∃ loaded, LocalSettings.load_text serde_format (serde_format.to_string_pretty dark_settings) = some (loaded, .Current) ∧
      loaded.Same dark_settings.tidied) ∧
    LocalSettings.load_text serde_format "\x7b\"theme\":\"dark\"\x7d" = some (dark_settings.tidied, .Migrated 1) := by
  obtain ⟨newer, saved, -, older⟩ := @settings_versions_iff serde_format rfl
  refine ⟨?_, ?_, ?_⟩
  · have there : serde_format.from_str "\x7b\"version\":3\x7d" = some (.object [("version", .integer 3)]) :=
      @reads_printed ['\x7b', '"', 'v', 'e', 'r', 's', 'i', 'o', 'n', '"', ':', '3', '\x7d'] _
        (by simp [Plain, PlainMembers, Sorted]) (by decide +kernel)
    refine (newer (fun _ => 0) _ [("version", .integer 3)] ?_).mpr ?_
    · intro value read
      cases there.symm.trans read
      simp [held, held_members]
    · intro n declared _
      have three : n = 3 := by
        simp only [lookup, if_true, Option.some.injEq, Value.integer.injEq] at declared
        omega
      rw [there, three]
      exact ⟨rfl, by decide, by decide⟩
  · refine (saved dark_settings dark_fits (reads_printed ?_ (by decide +kernel))).mpr rfl
    exact plain_json (by simp [dark_settings, LocalSettings.fields, LocalSettings.default, Codec.optional, Codec.text, Codec.unsigned,
      Codec.flag, Codec.list, Codec.entries, KeyedTable.Table.empty, Plain, PlainItems, PlainMembers, json, Sorted])
  · have there : serde_format.from_str "\x7b\"theme\":\"dark\"\x7d" = some (.object [("theme", .string "dark")]) :=
      @reads_printed ['\x7b', '"', 't', 'h', 'e', 'm', 'e', '"', ':', '"', 'd', 'a', 'r', 'k', '"', '\x7d'] _
        (by simp [Plain, PlainMembers, Sorted]) (by decide +kernel)
    exact older _ [("theme", .string "dark")] 1 dark_settings there rfl (by decide) rfl

/-- A version of 2³² + 1 passes for version 1. -/
theorem wrapped_version_migrated :
    (∀ round, Spells serde_format round "\x7b\"version\":4294967297\x7d" (.object [("version", .integer 4294967297)])) ∧
    ¬ RefusesNewer serde_format "\x7b\"version\":4294967297\x7d" (.object [("version", .integer 4294967297)]) := by
  have there : serde_format.from_str "\x7b\"version\":4294967297\x7d" = some (.object [("version", .integer 4294967297)]) :=
    @reads_printed ['\x7b', '"', 'v', 'e', 'r', 's', 'i', 'o', 'n', '"', ':', '4', '2', '9', '4', '9', '6', '7', '2', '9', '7',
      '\x7d'] _ (by simp [Plain, PlainMembers, Sorted]) (by decide +kernel)
  constructor
  · intro round value read
    cases there.symm.trans read
    simp [held, held_members]
  · intro refuses
    obtain ⟨found, refused⟩ := refuses.mpr ⟨4294967297, rfl, by decide⟩
    have declared : declared_version (.object [("version", .integer 4294967297)]) = some 1 := by decide
    rw [load_text_known there declared (by decide)] at refused
    obtain ⟨value, -, same⟩ := Option.map_eq_some_iff.mp refused
    cases (Prod.mk.inj same).2

end Riscdom.Core
