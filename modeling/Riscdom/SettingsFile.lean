import Mathlib.Algebra.Group.Int.Defs
import Mathlib.Algebra.GroupWithZero.Nat
import Riscdom.Settings

/-!
The settings file of a node: what start-up does with the document it meets, and
the setters and clears, which all reach the file through one save.
-/
namespace Riscdom.Core
open Json Provenance

/-! ### Files -/

/-- What a write of a file comes to: it is carried out, refused with the file as
it was, or broken off with something else left in it. -/
inductive Writing
  | Written
  | Refused (why : String)
  | Torn (why : String) (left : ByteArray)

def Writing.leaves (before : Option ByteArray) (text : ByteArray) : Writing → Option ByteArray
  | .Written => some text
  | .Refused _ => before
  | .Torn _ left => some left

def Writing.problem : Writing → Option String
  | .Written => none
  | .Refused why => some why
  | .Torn why _ => some why

/-- The two files: `settings.json` and `settings.json.bak`. -/
structure Disk where
  settings : Option ByteArray
  backup : Option ByteArray

/-- The part of a node's state that its settings are in, with the contents the two
files have had, latest last, and what the coming writes come to. -/
structure SettingsState where
  data_dir : String
  disk : Disk
  seen : List Disk
  writes : List Writing
  settings : LocalSettings
  settings_problem : Option String
  toolchain_path : Option String
  zig_path : Option String
  rust_sysroot : Option String
  qemu_path : Option String
  events : List (String × Value)

namespace SettingsState

/-- A node about to read its settings. -/
def start (data_dir : String) (disk : Disk) (writes : List Writing) : SettingsState where
  data_dir := data_dir
  disk := disk
  seen := [disk]
  writes := writes
  settings := .default
  settings_problem := none
  toolchain_path := none
  zig_path := none
  rust_sysroot := none
  qemu_path := none
  events := []

def settings_path (s : SettingsState) : String := s.data_dir ++ "/settings.json"
def backup_path (s : SettingsState) : String := s.data_dir ++ "/settings.json.bak"

/-- The text of the file; none that can be read is an empty one. -/
def raw (s : SettingsState) : String := (s.disk.settings.bind String.fromUTF8?).getD ""

def emit_host (action : String) (detail : Value) (s : SettingsState) : SettingsState :=
  { s with events := s.events ++ [(action, detail)] }

/-- What the next write comes to. -/
def next_write (s : SettingsState) : Writing := s.writes.head?.getD .Written

def write_settings (text : String) (s : SettingsState) : SettingsState :=
  let disk := { s.disk with settings := s.next_write.leaves s.disk.settings text.toUTF8 }
  { s with disk := disk, seen := s.seen ++ [disk], writes := s.writes.tail }

def write_backup (text : String) (s : SettingsState) : SettingsState :=
  let disk := { s.disk with backup := s.next_write.leaves s.disk.backup text.toUTF8 }
  { s with disk := disk, seen := s.seen ++ [disk], writes := s.writes.tail }

section
variable (format : SettingsFormat)

/-- Persist the settings: a failure is told, never fatal. -/
def save_settings (s : SettingsState) : SettingsState :=
  let written := s.write_settings (format.to_string_pretty s.settings)
  match s.next_write.problem with
  | none => written
  | some why =>
    written.emit_host "host.settings.save_failed" (json [("error", .string why), ("path", .string s.settings_path)])

/-! ### Start-up -/

def too_new_message (found : UInt32) : String :=
  s!"settings.json is version {found}, this build reads {SETTINGS_VERSION}; nothing was applied and nothing was written"

/-- The refusal of a newer document, made visible. -/
def report_too_new (found : UInt32) (s : SettingsState) : SettingsState :=
  { s with settings_problem := some (too_new_message found) }.emit_host "host.settings.data_too_new"
    (json [("found", .integer found.toNat), ("supported", .integer SETTINGS_VERSION.toNat)])

/-- The bytes from before a migration put beside the file; a failure is told. -/
def back_up (raw : String) (from_version : UInt32) (s : SettingsState) : SettingsState :=
  let written := s.write_backup raw
  let told := match s.next_write.problem with
    | none => written
    | some why =>
      written.emit_host "host.settings.backup_failed" (json [("error", .string why), ("path", .string s.backup_path)])
  told.emit_host "host.settings.migrated" (json [("from", .integer from_version.toNat),
    ("to", .integer SETTINGS_VERSION.toNat), ("backup", .string s.backup_path)])

def apply_settings (loaded : LocalSettings) (s : SettingsState) : SettingsState :=
  { s with
    settings := loaded
    toolchain_path := loaded.toolchain_path
    zig_path := loaded.zig_path
    rust_sysroot := loaded.rust_sysroot
    qemu_path := loaded.qemu_path }

/-- What start-up does once the text is read. -/
def settle_load (loaded : LocalSettings) (outcome : SettingsLoad) (s : SettingsState) : SettingsState :=
  match outcome with
  | .TooNew found => (s.report_too_new found).apply_settings loaded
  | .Migrated from_version => ((s.back_up s.raw from_version).apply_settings loaded).save_settings format
  | .Missing => s.apply_settings loaded
  | .Current => s.apply_settings loaded

/-- Nothing when reading the text panics. -/
def load_settings (s : SettingsState) : Option SettingsState :=
  (LocalSettings.load_text format s.raw).map fun load => s.settle_load format load.1 load.2

/-! ### Setters and clears -/

/-- The cached settings changed, and the whole of them saved. -/
def change_settings (change : LocalSettings → LocalSettings) (s : SettingsState) : SettingsState :=
  { s with settings := change s.settings }.save_settings format

@[simp] theorem change_settings_settings (change : LocalSettings → LocalSettings) (s : SettingsState) :
    (s.change_settings format change).settings = change s.settings := by
  unfold change_settings save_settings
  split <;> rfl

/-- Where a path chosen by hand is held: in the node, and in its settings. -/
structure Slot where
  hold : Option String → SettingsState → SettingsState
  keep : Option String → LocalSettings → LocalSettings
  files_stay : ∀ p s, (hold p s).disk = s.disk ∧ (hold p s).seen = s.seen ∧ (hold p s).writes = s.writes

def toolchain_slot : Slot where
  hold p s := { s with toolchain_path := p }
  keep p g := { g with toolchain_path := p }
  files_stay _ _ := ⟨rfl, rfl, rfl⟩

def zig_slot : Slot where
  hold p s := { s with zig_path := p }
  keep p g := { g with zig_path := p }
  files_stay _ _ := ⟨rfl, rfl, rfl⟩

def rust_slot : Slot where
  hold p s := { s with rust_sysroot := p }
  keep p g := { g with rust_sysroot := p }
  files_stay _ _ := ⟨rfl, rfl, rfl⟩

def qemu_slot : Slot where
  hold p s := { s with qemu_path := p }
  keep p g := { g with qemu_path := p }
  files_stay _ _ := ⟨rfl, rfl, rfl⟩

def put_slot (slot : Slot) (path : Option String) (s : SettingsState) : SettingsState :=
  (slot.hold path s).change_settings format (slot.keep path)

def clear_preflight_cache (s : SettingsState) : SettingsState :=
  s.change_settings format fun g => { g with preflight := none }

/-- The event of a path that was set: the path, and the version it reported. -/
def path_set (path : String) (version : Option String) : Value :=
  json [("path", .string path), ("version", .ofOption version)]

/-- An executable stored after a check that it is a file and runs. -/
def set_executable (slot : Slot) (stale_preflight : Bool) (action path : String) (is_file : Bool)
    (runs : Except String String) (s : SettingsState) : Except String SettingsState :=
  let path := Text.trim path
  if !is_file then .error ("not a file: " ++ path) else
  match runs with
  | .error e => .error ("not runnable: " ++ e)
  | .ok version =>
    let saved := s.put_slot format slot (some path)
    let saved := if stale_preflight then saved.clear_preflight_cache format else saved
    .ok (saved.emit_host action (path_set path (some version)))

def clear_slot (slot : Slot) (action : String) (s : SettingsState) : SettingsState :=
  (s.put_slot format slot none).emit_host action (json [])

def set_toolchain_path (path : String) (is_file : Bool) (runs : Except String String) (s : SettingsState) :
    Except String SettingsState :=
  s.set_executable format toolchain_slot true "host.toolchain.set" path is_file runs

def clear_toolchain_path (s : SettingsState) : SettingsState := s.clear_slot format toolchain_slot "host.toolchain.clear"

/-- A Zig path does not make the check of the environment stale. -/
def set_zig_path (path : String) (is_file : Bool) (runs : Except String String) (s : SettingsState) :
    Except String SettingsState :=
  s.set_executable format zig_slot false "host.zig.set" path is_file runs

def clear_zig_path (s : SettingsState) : SettingsState := s.clear_slot format zig_slot "host.zig.clear"

def set_qemu_path (path : String) (is_file : Bool) (runs : Except String String) (s : SettingsState) :
    Except String SettingsState :=
  s.set_executable format qemu_slot true "host.qemu.set" path is_file runs

def clear_qemu_path (s : SettingsState) : SettingsState := s.clear_slot format qemu_slot "host.qemu.clear"

/-- A sysroot is checked for its shape: the libraries of the target are inside. -/
def set_rust_sysroot (path target : String) (is_dir has_libs : Bool) (version : Option String) (s : SettingsState) :
    Except String SettingsState :=
  let path := Text.trim path
  if !is_dir then .error ("not a directory: " ++ path) else
  if !has_libs then
    .error ("no Rust libraries for " ++ target ++ " under " ++ path ++ ": expected " ++
      path ++ "/lib/rustlib/" ++ target ++ "/lib") else
  .ok ((s.put_slot format rust_slot (some path)).emit_host "host.rust.set" (path_set path version))

def clear_rust_sysroot (s : SettingsState) : SettingsState := s.clear_slot format rust_slot "host.rust.clear"

/-- The user accepts this configuration as it is. -/
def acknowledge_preflight (fingerprint : String) (now : Int) (s : SettingsState) : SettingsState :=
  let cache := s.settings.preflight.getD ⟨fingerprint, false, none, none, none, now, false⟩
  s.change_settings format fun g =>
    { g with preflight := some { cache with fingerprint := fingerprint, overridden := true } }

/-- The checks came to an end: all passed, or one failed with its detail and advice. -/
def run_preflight_now (fingerprint : String) (outcome : Except (String × String × String) Unit) (now : Int)
    (s : SettingsState) : SettingsState :=
  let cache : PreflightCache := match outcome with
    | .ok () => ⟨fingerprint, true, none, none, none, now, false⟩
    | .error (step, detail, suggestion) => ⟨fingerprint, false, some step, some detail, some suggestion, now, false⟩
  s.change_settings format fun g => { g with preflight := some cache }

def set_theme (theme : String) (s : SettingsState) : Except String SettingsState :=
  let theme := format.to_lowercase (Text.trim theme)
  if theme ∉ ["light", "dark", "system"] then .error ("unknown theme: " ++ theme) else
  .ok ((s.change_settings format fun g => { g with theme := some theme }).emit_host "host.theme.set"
    (json [("theme", .string theme)]))

def set_language (language : String) (s : SettingsState) : Except String SettingsState :=
  let language := format.to_lowercase (Text.trim language)
  if language ∉ ["system", "en", "zh"] then .error ("unknown language: " ++ language) else
  .ok ((s.change_settings format fun g => { g with language := some language }).emit_host "host.language.set"
    (json [("language", .string language)]))

def set_network (next : NetworkSettings) (s : SettingsState) : SettingsState :=
  (s.change_settings format fun g => { g with network := some next }).emit_host "host.network.set"
    (json [("network", next.to_value)])

def set_alert_on_audit_failure (enabled : Bool) (s : SettingsState) : SettingsState :=
  (s.change_settings format fun g => { g with alert_on_audit_failure := enabled }).emit_host "host.audit_alert.set"
    (json [("enabled", .bool enabled)])

def persist_llm_config (executor : String) (input : LlmConfigInput) (s : SettingsState) : SettingsState :=
  s.change_settings format fun g =>
    { g with llm_configs := g.llm_configs.replace (executor, ⟨input.provider_id, input.base_url, input.model⟩) }

def forget_llm_config (executor : String) (s : SettingsState) : SettingsState :=
  s.change_settings format fun g => { g with llm_configs := g.llm_configs.delete executor }

end

/-- A setter whose check fails leaves the node as it was. -/
def settled (s : SettingsState) : Except String SettingsState → SettingsState
  | .ok t => t
  | .error _ => s

end SettingsState

/-! ### Runs -/

/-- A setter or a clear, with what its checks of the environment came to. -/
inductive SettingsOp
  | SetToolchainPath (path : String) (is_file : Bool) (runs : Except String String)
  | ClearToolchainPath
  | SetZigPath (path : String) (is_file : Bool) (runs : Except String String)
  | ClearZigPath
  | SetQemuPath (path : String) (is_file : Bool) (runs : Except String String)
  | ClearQemuPath
  | SetRustSysroot (path target : String) (is_dir has_libs : Bool) (version : Option String)
  | ClearRustSysroot
  | ClearPreflightCache
  | AcknowledgePreflight (fingerprint : String) (now : Int)
  | RunPreflight (fingerprint : String) (outcome : Except (String × String × String) Unit) (now : Int)
  | SetTheme (theme : String)
  | SetLanguage (language : String)
  | SetNetwork (next : NetworkSettings)
  | SetAlertOnAuditFailure (enabled : Bool)
  | PersistLlmConfig (executor : String) (input : LlmConfigInput)
  | ForgetLlmConfig (executor : String)

namespace SettingsOp
variable (format : SettingsFormat)

def run (s : SettingsState) : SettingsOp → Except String SettingsState
  | SetToolchainPath path is_file runs => s.set_toolchain_path format path is_file runs
  | ClearToolchainPath => .ok (s.clear_toolchain_path format)
  | SetZigPath path is_file runs => s.set_zig_path format path is_file runs
  | ClearZigPath => .ok (s.clear_zig_path format)
  | SetQemuPath path is_file runs => s.set_qemu_path format path is_file runs
  | ClearQemuPath => .ok (s.clear_qemu_path format)
  | SetRustSysroot path target is_dir has_libs version => s.set_rust_sysroot format path target is_dir has_libs version
  | ClearRustSysroot => .ok (s.clear_rust_sysroot format)
  | ClearPreflightCache => .ok (s.clear_preflight_cache format)
  | AcknowledgePreflight fingerprint now => .ok (s.acknowledge_preflight format fingerprint now)
  | RunPreflight fingerprint outcome now => .ok (s.run_preflight_now format fingerprint outcome now)
  | SetTheme theme => s.set_theme format theme
  | SetLanguage language => s.set_language format language
  | SetNetwork next => .ok (s.set_network format next)
  | SetAlertOnAuditFailure enabled => .ok (s.set_alert_on_audit_failure format enabled)
  | PersistLlmConfig executor input => .ok (s.persist_llm_config format executor input)
  | ForgetLlmConfig executor => .ok (s.forget_llm_config format executor)

def step (s : SettingsState) (op : SettingsOp) : SettingsState := s.settled (op.run format s)

/-- How many times the settings are saved: not at all when the check fails, and
twice when the check of the environment becomes stale as well. -/
def saves : SettingsOp → Nat
  | SetToolchainPath _ is_file runs => if is_file && runs.isOk then 2 else 0
  | SetZigPath _ is_file runs => if is_file && runs.isOk then 1 else 0
  | SetQemuPath _ is_file runs => if is_file && runs.isOk then 2 else 0
  | SetRustSysroot _ _ is_dir has_libs _ => if is_dir && has_libs then 1 else 0
  | SetTheme theme => if format.to_lowercase (Text.trim theme) ∈ ["light", "dark", "system"] then 1 else 0
  | SetLanguage language => if format.to_lowercase (Text.trim language) ∈ ["system", "en", "zh"] then 1 else 0
  | _ => 1

end SettingsOp

/-- The next writes are all refused, that many of them. -/
def RefusedFirst (n : Nat) (writes : List Writing) : Prop := ∀ i < n, ∃ why, writes[i]? = some (.Refused why)

/-- What a number of saves does to the files: the backup stays as it was, and the
settings file does where every write is refused. -/
structure Saved (n : Nat) (s t : SettingsState) : Prop where
  used : t.writes = s.writes.drop n
  backup : t.disk.backup = s.disk.backup
  settings : RefusedFirst n s.writes → t.disk.settings = s.disk.settings
  grown : ∃ later, t.seen = s.seen ++ later ∧ ∀ d ∈ later, d.backup = s.disk.backup ∧
    (RefusedFirst n s.writes → d.settings = s.disk.settings)

theorem RefusedFirst.le {n m : Nat} {writes : List Writing} (refused : RefusedFirst (n + m) writes) :
    RefusedFirst n writes ∧ RefusedFirst m (writes.drop n) := by
  constructor
  · intro i below
    exact refused i (by omega)
  · intro i below
    obtain ⟨why, found⟩ := refused (n + i) (by omega)
    exact ⟨why, by rw [List.getElem?_drop, found]⟩

namespace Saved
variable {s t u : SettingsState} {n m : Nat}

/-- A step that touches neither the files nor the coming writes. -/
theorem quiet (disk : t.disk = s.disk) (seen : t.seen = s.seen) (writes : t.writes = s.writes) : Saved 0 s t where
  used := writes
  backup := by rw [disk]
  settings _ := by rw [disk]
  grown := ⟨[], by simp [seen], by simp⟩

theorem trans (first : Saved n s t) (second : Saved m t u) : Saved (n + m) s u where
  used := by rw [second.used, first.used, List.drop_drop]
  backup := second.backup.trans first.backup
  settings refused := by
    obtain ⟨here, there⟩ := refused.le
    rw [second.settings (first.used ▸ there), first.settings here]
  grown := by
    obtain ⟨later, grown, kept⟩ := first.grown
    obtain ⟨more, grown_again, kept_again⟩ := second.grown
    refine ⟨later ++ more, by rw [grown_again, grown, List.append_assoc], ?_⟩
    intro d inside
    rcases List.mem_append.mp inside with old | new
    · exact ⟨(kept d old).1, fun refused => (kept d old).2 refused.le.1⟩
    · refine ⟨(kept_again d new).1.trans first.backup, fun refused => ?_⟩
      obtain ⟨here, there⟩ := refused.le
      rw [(kept_again d new).2 (first.used ▸ there), first.settings here]

theorem then_quiet (saved : Saved n s t) (disk : u.disk = t.disk) (seen : u.seen = t.seen)
    (writes : u.writes = t.writes) : Saved n s u :=
  saved.trans (quiet disk seen writes)

end Saved

namespace SettingsState
variable {format : SettingsFormat}

theorem saved_write_settings (text : String) (s : SettingsState) : Saved 1 s (s.write_settings text) := by
  have stays (refused : RefusedFirst 1 s.writes) : s.next_write.leaves s.disk.settings text.toUTF8 = s.disk.settings := by
    obtain ⟨why, found⟩ := refused 0 (by omega)
    have next : s.next_write = .Refused why := by simp [next_write, List.head?_eq_getElem?, found]
    rw [next, Writing.leaves]
  refine ⟨by simp [write_settings], rfl, stays, [_], rfl, ?_⟩
  intro d inside
  obtain rfl := List.mem_singleton.mp inside
  exact ⟨rfl, stays⟩

theorem saved_save_settings (s : SettingsState) : Saved 1 s (s.save_settings format) := by
  have written := saved_write_settings (format.to_string_pretty s.settings) s
  unfold save_settings
  cases s.next_write.problem with
  | none => exact written
  | some why => exact written.then_quiet rfl rfl rfl

theorem saved_change_settings (change : LocalSettings → LocalSettings) (s : SettingsState) :
    Saved 1 s (s.change_settings format change) :=
  have changed : Saved 0 s { s with settings := change s.settings } := .quiet rfl rfl rfl
  changed.trans (saved_save_settings _)

theorem saved_put_slot (slot : Slot) (path : Option String) (s : SettingsState) :
    Saved 1 s (s.put_slot format slot path) := by
  obtain ⟨disk, seen, writes⟩ := slot.files_stay path s
  have held : Saved 0 s (slot.hold path s) := .quiet disk seen writes
  exact held.trans (saved_change_settings _ _)

theorem saved_clear_slot (slot : Slot) (action : String) (s : SettingsState) : Saved 1 s (s.clear_slot format slot action) :=
  (saved_put_slot slot none s).then_quiet rfl rfl rfl

/-- An executable that does not run is not stored; one that does is saved once,
and once more with the check of the environment that it makes stale. -/
theorem saved_set_executable (slot : Slot) (stale : Bool) (action path : String) (is_file : Bool)
    (runs : Except String String) (s : SettingsState) :
    Saved (if is_file && runs.isOk then if stale then 2 else 1 else 0) s
      (s.settled (s.set_executable format slot stale action path is_file runs)) := by
  have turned_away : Saved 0 s s := .quiet rfl rfl rfl
  unfold set_executable
  cases is_file with
  | false => exact turned_away
  | true =>
    cases runs with
    | error e => exact turned_away
    | ok version =>
      have stored := @saved_put_slot format slot (some (Text.trim path)) s
      have cleared := stored.trans (@saved_change_settings format (fun g => { g with preflight := none }) _)
      cases stale with
      | false => exact stored.then_quiet rfl rfl rfl
      | true => exact cleared.then_quiet rfl rfl rfl

end SettingsState

namespace SettingsOp
variable {format : SettingsFormat}

/-- One setter or clear saves the settings as often as it is counted for. -/
theorem saved_step (s : SettingsState) (op : SettingsOp) : Saved (op.saves format) s (op.step format s) := by
  have turned_away : Saved 0 s s := .quiet rfl rfl rfl
  cases op with
  | SetToolchainPath path is_file runs => exact SettingsState.saved_set_executable _ true _ path is_file runs s
  | SetZigPath path is_file runs => exact SettingsState.saved_set_executable _ false _ path is_file runs s
  | SetQemuPath path is_file runs => exact SettingsState.saved_set_executable _ true _ path is_file runs s
  | SetRustSysroot path target is_dir has_libs version =>
    unfold step run SettingsState.set_rust_sysroot
    cases is_dir with
    | false => exact turned_away
    | true =>
      cases has_libs with
      | false => exact turned_away
      | true => exact (SettingsState.saved_put_slot _ _ s).then_quiet rfl rfl rfl
  | SetTheme theme =>
    unfold step run SettingsState.set_theme saves
    by_cases known : format.to_lowercase (Text.trim theme) ∈ ["light", "dark", "system"]
    · simp only [known, not_true_eq_false, if_true, if_false]
      exact (SettingsState.saved_change_settings _ s).then_quiet rfl rfl rfl
    · simp only [known, not_false_eq_true, if_true, if_false]
      exact turned_away
  | SetLanguage language =>
    unfold step run SettingsState.set_language saves
    by_cases known : format.to_lowercase (Text.trim language) ∈ ["system", "en", "zh"]
    · simp only [known, not_true_eq_false, if_true, if_false]
      exact (SettingsState.saved_change_settings _ s).then_quiet rfl rfl rfl
    · simp only [known, not_false_eq_true, if_true, if_false]
      exact turned_away
  | SetNetwork next => exact (SettingsState.saved_change_settings _ s).then_quiet rfl rfl rfl
  | SetAlertOnAuditFailure enabled => exact (SettingsState.saved_change_settings _ s).then_quiet rfl rfl rfl
  | ClearToolchainPath | ClearZigPath | ClearQemuPath | ClearRustSysroot => exact SettingsState.saved_clear_slot _ _ s
  | ClearPreflightCache | AcknowledgePreflight | RunPreflight | PersistLlmConfig | ForgetLlmConfig =>
    simp only [step, run, SettingsState.settled, SettingsState.clear_preflight_cache, SettingsState.acknowledge_preflight,
      SettingsState.run_preflight_now, SettingsState.persist_llm_config, SettingsState.forget_llm_config]
    exact SettingsState.saved_change_settings _ s

end SettingsOp

/-- The setters and clears of a run, one after the other. -/
def run_settings (format : SettingsFormat) (s : SettingsState) (ops : List SettingsOp) : SettingsState :=
  ops.foldl (SettingsOp.step format) s

def total_saves (format : SettingsFormat) (ops : List SettingsOp) : Nat := (ops.map (SettingsOp.saves format)).sum

theorem saved_run {format : SettingsFormat} (s : SettingsState) (ops : List SettingsOp) :
    Saved (total_saves format ops) s (run_settings format s ops) := by
  induction ops generalizing s with
  | nil => exact .quiet rfl rfl rfl
  | cons op ops ih =>
    have first := @SettingsOp.saved_step format s op
    have rest := ih (op.step format s)
    simpa [total_saves, run_settings] using first.trans rest

/-! ### What becomes of the document -/

/-- What is kept of a document through the contents the files have: one that was
refused stays where it is, and one that was migrated is in the backup from the
moment on at which the settings file no longer holds it. -/
def Keeps (document : ByteArray) (seen : List Disk) : SettingsLoad → Prop
  | .TooNew _ => ∀ d ∈ seen, d.settings = some document
  | .Migrated _ => ∀ earlier d later, seen = earlier ++ d :: later → d.settings ≠ some document →
      ∀ e ∈ d :: later, e.backup = some document
  | _ => True

/-- A newer document is overwritten by no save; the backup of an older one leaves
its bytes beside it, or it is overwritten by no save either. -/
def Spared (document : ByteArray) (backup : Option ByteArray) (writes : List Writing) (saves : Nat) :
    SettingsLoad → Prop
  | .TooNew _ => RefusedFirst saves writes
  | .Migrated _ => (writes.head?.getD .Written).leaves backup document = some document ∨
      RefusedFirst (1 + saves) writes.tail
  | _ => True

/-- The files hold the document in the settings file first, and in the backup afterwards. -/
theorem keeps_migrated {document : ByteArray} {before after : List Disk} {from_version : UInt32}
    (first : ∀ d ∈ before, d.settings = some document) (then_backup : ∀ d ∈ after, d.backup = some document) :
    Keeps document (before ++ after) (.Migrated from_version) := by
  intro earlier d later split gone e inside
  rcases List.append_eq_append_iff.mp split with ⟨middle, here, there⟩ | ⟨middle, here, there⟩
  · refine then_backup e ?_
    rw [there]
    exact List.mem_append_right _ inside
  · cases middle with
    | nil =>
      refine then_backup e ?_
      rw [List.nil_append] at there
      exact there ▸ inside
    | cons m middle =>
      obtain ⟨rfl, rest⟩ := List.cons.inj there
      exact absurd (first d (by simp [here])) gone

namespace SettingsState
variable {format : SettingsFormat}

/-- A text that is not empty is what the settings file holds. -/
theorem holds_raw {s : SettingsState} (read : s.raw ≠ "") : s.disk.settings = some s.raw.toUTF8 := by
  unfold raw at read ⊢
  cases held : s.disk.settings with
  | none => simp [held] at read
  | some bytes =>
    cases text : String.fromUTF8? bytes with
    | none => simp [held, text] at read
    | some t =>
      have back : bytes = t.toUTF8 := by
        unfold String.fromUTF8? at text
        split_ifs at text
        obtain rfl := Option.some.inj text
        rfl
      simpa [text] using back

theorem holds_document {s : SettingsState} {settings : LocalSettings} {outcome : SettingsLoad}
    (read : LocalSettings.load_text format s.raw = some (settings, outcome)) (there : outcome ≠ .Missing) :
    s.disk.settings = some s.raw.toUTF8 := by
  refine holds_raw fun nothing => there ?_
  rw [nothing, load_text_empty] at read
  exact (congrArg Prod.snd (Option.some.inj read)).symm

/-- The write of the backup is the only one before the save of the migrated form. -/
theorem back_up_files (text : String) (from_version : UInt32) (loaded : LocalSettings) (s : SettingsState) :
    let backed := (s.back_up text from_version).apply_settings loaded
    backed.disk = { s.disk with backup := s.next_write.leaves s.disk.backup text.toUTF8 } ∧
      backed.seen = s.seen ++ [backed.disk] ∧ backed.writes = s.writes.tail := by
  intro backed
  simp only [backed, back_up]
  cases s.next_write.problem <;> exact ⟨rfl, rfl, rfl⟩

end SettingsState

/-- Whatever document start-up meets and whatever setters and clears follow: it is
kept in every content of the files, as long as no save overwrites a refused one
and no failed backup is carried on from. -/
theorem keeps_document {format : SettingsFormat} {data_dir : String} {disk : Disk} {writes : List Writing}
    {settings : LocalSettings} {outcome : SettingsLoad} {t : SettingsState} (ops : List SettingsOp)
    (read : LocalSettings.load_text format (SettingsState.start data_dir disk writes).raw = some (settings, outcome))
    (loaded : (SettingsState.start data_dir disk writes).load_settings format = some t)
    (undisturbed : Spared (SettingsState.start data_dir disk writes).raw.toUTF8 disk.backup writes
      (total_saves format ops) outcome) :
    Keeps (SettingsState.start data_dir disk writes).raw.toUTF8 (run_settings format t ops).seen outcome := by
  generalize begun : SettingsState.start data_dir disk writes = s at read loaded undisturbed ⊢
  have fresh : s.seen = [s.disk] := by rw [← begun]; rfl
  obtain rfl : s.disk = disk := by rw [← begun]; rfl
  obtain rfl : s.writes = writes := by rw [← begun]; rfl
  obtain rfl : s.settle_load format settings outcome = t := by
    simpa [SettingsState.load_settings, read] using loaded
  cases outcome with
  | Missing => trivial
  | Current => trivial
  | TooNew found =>
    have held := SettingsState.holds_document read (by simp)
    have ran := @saved_run format (s.settle_load format settings (.TooNew found)) ops
    obtain ⟨later, grown, kept⟩ := ran.grown
    intro d inside
    rw [grown, List.mem_append] at inside
    rcases inside with first | afterwards
    · have start_content : d ∈ s.seen := first
      rw [fresh, List.mem_singleton] at start_content
      rw [start_content, held]
    · exact ((kept d afterwards).2 undisturbed).trans held
  | Migrated from_version =>
    have held := SettingsState.holds_document read (by simp)
    obtain ⟨disk, seen, writes⟩ := SettingsState.back_up_files s.raw from_version settings s
    set backed := (s.back_up s.raw from_version).apply_settings settings with backed_def
    have saved : Saved (1 + total_saves format ops) backed (run_settings format (s.settle_load format settings
        (.Migrated from_version)) ops) := (SettingsState.saved_save_settings backed).trans (saved_run _ ops)
    obtain ⟨later, grown, kept⟩ := saved.grown
    rw [grown, seen, fresh]
    rcases undisturbed with backup | refused
    · have beside : backed.disk.backup = some s.raw.toUTF8 := by rw [disk]; exact backup
      rw [List.append_assoc]
      refine keeps_migrated (by simp [held]) ?_
      intro d inside
      rcases List.mem_cons.mp inside with rfl | afterwards
      · exact beside
      · exact (kept d afterwards).1.trans beside
    · have still : backed.disk.settings = some s.raw.toUTF8 := by rw [disk]; exact held
      have all : ∀ d ∈ [s.disk] ++ [backed.disk] ++ later, d.settings = some s.raw.toUTF8 := by
        intro d inside
        simp only [List.cons_append, List.nil_append, List.mem_cons] at inside
        rcases inside with rfl | rfl | afterwards
        · exact held
        · exact still
        · exact ((kept d afterwards).2 (writes ▸ refused)).trans still
      simpa using @keeps_migrated _ _ [] from_version all (by simp)

/-- A format for documents in which only the version and the two choices of the
interface are given. -/
def plain_format : SettingsFormat where
  from_str text := (parse text).toOption
  from_value value := some { LocalSettings.default with
    theme := (value.get "theme").bind Value.as_str
    language := (value.get "language").bind Value.as_str }
  to_string_pretty settings :=
    let choice (c : Option String) : String := c.elim "null" fun word => "\"" ++ word ++ "\""
    "\x7b\n  \"version\": 2,\n  \"toolchain_path\": null,\n  \"zig_path\": null,\n  \"rust_sysroot\": null,\n" ++
      "  \"qemu_path\": null,\n  \"preflight\": null,\n  \"theme\": " ++ choice settings.theme ++
      ",\n  \"language\": " ++ choice settings.language ++ ",\n  \"alert_on_audit_failure\": true,\n" ++
      "  \"sandboxes\": [],\n  \"default_sandbox\": null,\n  \"executors\": [],\n  \"network\": null,\n" ++
      "  \"llm_configs\": \x7b\x7d\n\x7d"
  to_lowercase := String.toLower
  empty := by rfl

def newer_document : String := "\x7b\"version\":3\x7d"
/-- It declares no version: it is of the oldest one. -/
def older_document : String := "\x7b\"theme\":\"dark\"\x7d"

theorem raw_start (data_dir text : String) (backup : Option ByteArray) (writes : List Writing) :
    (SettingsState.start data_dir ⟨some text.toUTF8, backup⟩ writes).raw = text := by
  simp only [SettingsState.raw, SettingsState.start, Option.bind_some, String.fromUTF8?,
    String.toUTF8_eq_toByteArray, dif_pos text.isValidUTF8, Option.getD_some]
  rfl

theorem utf8_injective {s t : String} (same : some s.toUTF8 = some t.toUTF8) : s = t :=
  String.toByteArray_inj.mp (Option.some.inj same)

/-- A newer document is overwritten by the next choice of a theme, and an older one,
its backup refused for want of space, by its own migration. -/
theorem documents_lost :
    (∃ t, (SettingsState.start "" ⟨some newer_document.toUTF8, none⟩ []).load_settings plain_format = some t ∧
      LocalSettings.load_text plain_format newer_document = some (.default, .TooNew 3) ∧
      ¬ Keeps newer_document.toUTF8 (run_settings plain_format t [.SetTheme "dark"]).seen (.TooNew 3)) ∧
    ∃ t loaded, (SettingsState.start "" ⟨some older_document.toUTF8, none⟩
        [.Refused "No space left on device (os error 28)"]).load_settings plain_format = some t ∧
      LocalSettings.load_text plain_format older_document = some (loaded, .Migrated 1) ∧
      ¬ Keeps older_document.toUTF8 (run_settings plain_format t []).seen (.Migrated 1) := by
  constructor
  · have outcome : (LocalSettings.load_text plain_format newer_document).map Prod.snd = some (.TooNew 3) := by
      decide +kernel
    obtain ⟨⟨loaded, _⟩, read, rfl⟩ := Option.map_eq_some_iff.mp outcome
    obtain ⟨rfl, _⟩ := load_text_too_new read
    refine ⟨_, by rw [SettingsState.load_settings, raw_start, read]; rfl, read, ?_⟩
    intro kept
    have dark : plain_format.to_lowercase (Text.trim "dark") = "dark" := by decide +kernel
    have theme := kept
      ⟨some (plain_format.to_string_pretty { LocalSettings.default with theme := some "dark" }).toUTF8, none⟩
      (by simp [run_settings, SettingsOp.step, SettingsOp.run, SettingsState.set_theme, dark, SettingsState.settled,
            SettingsState.change_settings, SettingsState.save_settings, SettingsState.next_write, Writing.problem,
            SettingsState.settle_load, SettingsState.report_too_new, SettingsState.apply_settings, SettingsState.emit_host,
            SettingsState.start, SettingsState.write_settings, Writing.leaves])
    exact absurd (utf8_injective theme) (by decide +kernel)
  · have outcome : (LocalSettings.load_text plain_format older_document).map
        (fun load => (load.1.theme, load.1.language, load.2)) = some (some "dark", none, .Migrated 1) := by
      decide +kernel
    obtain ⟨⟨loaded, _⟩, read, same⟩ := Option.map_eq_some_iff.mp outcome
    simp only [Prod.mk.injEq] at same
    obtain ⟨theme, language, rfl⟩ := same
    refine ⟨_, loaded, by rw [SettingsState.load_settings, raw_start, read]; rfl, read, ?_⟩
    intro kept
    have backup := kept [_, _] ⟨some (plain_format.to_string_pretty loaded).toUTF8, none⟩ []
      (by simp [run_settings, SettingsState.settle_load, SettingsState.back_up, SettingsState.write_backup,
            SettingsState.save_settings, SettingsState.next_write, Writing.problem, SettingsState.apply_settings,
            SettingsState.emit_host, SettingsState.start, SettingsState.write_settings, Writing.leaves]
          exact ⟨rfl, rfl⟩)
      (by intro still
          have text := utf8_injective still
          simp only [plain_format, theme, language] at text
          exact absurd text (by decide +kernel))
      _ List.mem_cons_self
    simp at backup

/-- The older document with room for its backup, and a language chosen later. -/
theorem migrated_kept :
    ∃ t, (SettingsState.start "" ⟨some older_document.toUTF8, none⟩ []).load_settings plain_format = some t ∧
      Keeps older_document.toUTF8
        (run_settings plain_format t [.SetLanguage "en"]).seen (.Migrated 1) := by
  have outcome : (LocalSettings.load_text plain_format older_document).map Prod.snd = some (.Migrated 1) := by
    decide +kernel
  obtain ⟨⟨loaded, _⟩, read, rfl⟩ := Option.map_eq_some_iff.mp outcome
  have met := raw_start "" older_document none []
  rw [← met] at read
  have began := congrArg (Option.map fun load =>
    (SettingsState.start "" ⟨some older_document.toUTF8, none⟩ []).settle_load plain_format load.1 load.2) read
  have kept := keeps_document [.SetLanguage "en"] read began (.inl rfl)
  rw [met] at kept
  exact ⟨_, began, kept⟩

end Riscdom.Core
