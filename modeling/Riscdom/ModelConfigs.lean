import Riscdom.SettingsFile

/-!
The model configuration of each executor: in memory, in the settings, and its key
in the keyring of the system, under an account named by the executor and the
provider.
-/
namespace Riscdom.Core
open Json Provenance Agent

/-! ### Presets and readiness -/

structure ProviderPreset where
  id : String
  base_url : String
  default_model : String

def DEFAULT_PRESET_ID : String := "deepseek"

def builtin_presets : List ProviderPreset :=
  [⟨"deepseek", "https://api.deepseek.com", "deepseek-chat"⟩, ⟨"openai", "https://api.openai.com/v1", "gpt-4o-mini"⟩,
    ⟨"ollama", "http://localhost:11434/v1", "qwen2.5-coder"⟩, ⟨"lmstudio", "http://localhost:1234/v1", ""⟩,
    ⟨"custom", "", ""⟩]

def find_preset (id : String) : Option ProviderPreset := builtin_presets.find? fun p => p.id = id

structure LlmReadiness where
  ready : Bool
  reason : Option String
  suggestion : Option String
deriving DecidableEq

/-- A text in a text. -/
def contains (part text : String) : Bool := (Text.split_once part.toList text.toList).isSome

/-- Whether a configuration can be used: what is wrong with it is told by the words
of the refusal, an address and its words included. -/
def readiness_of (quoted : String → String) (input : LlmConfigInput) : LlmReadiness :=
  match AgentConfig.validate quoted ⟨input.api_key, input.base_url, input.model, input.provider_id, 10, 120⟩ with
  | .ok () => ⟨true, none, none⟩
  | .error e =>
    if contains "api_key" e.display then
      ⟨false, some "missing_api_key", some "缺少 API Key。请填写，或切换到本地模型预设（如 Ollama）"⟩
    else if contains "base_url" e.display then
      ⟨false, some "invalid_base_url", some "Base URL 无效，请检查（需以 http:// 或 https:// 开头）"⟩
    else ⟨false, some "invalid_config", some "配置无效，请检查 Model 与服务商"⟩

def readiness_error (r : LlmReadiness) : String :=
  let code := r.reason.getD "not_ready"
  match r.suggestion with
  | some message => if message = "" then code else code ++ "|" ++ message
  | none => code

/-! ### The keyring -/

/-- The entries by their accounts, and how the coming calls are answered: an error or,
where the list is spent, success. -/
structure Keyring where
  entries : String → Option String
  answers : List (Option String)

namespace Keyring

def answer (ring : Keyring) : Option String := ring.answers.head?.join

def get (user : String) (ring : Keyring) : Except String (Option String) × Keyring :=
  (match ring.answer with
    | some e => .error e
    | none => .ok (ring.entries user), { ring with answers := ring.answers.tail })

/-- A key written under an account, or removed. -/
def put (user : String) (key : Option String) (ring : Keyring) : Except String Unit × Keyring :=
  match ring.answer with
  | some e => (.error e, { ring with answers := ring.answers.tail })
  | none => (.ok (), ⟨Function.update ring.entries user key, ring.answers.tail⟩)

end Keyring

def user_for_llm_key (executor_id provider_id : String) : String := "llm-api-key:" ++ executor_id ++ ":" ++ provider_id
def legacy_user_for_provider (provider_id : String) : String := "llm-api-key:" ++ provider_id

/-! ### The state -/

structure LlmConfigStatus where
  configured : Bool
  provider_id : String
  base_url : String
  model : String
  persisted : Bool
  config_persisted : Bool
deriving DecidableEq

/-- The part of a node's state that model configurations are in, with what the code does
not keep: the key last stored for each pair of an executor and a provider, and the
entries of the build before by their providers. -/
structure ModelState where
  device : String
  llm_config : String → Option LlmConfigInput
  persisted : Bool
  llm_override : Bool
  keyring : Keyring
  host : SettingsState
  stored : String × String → Option String
  v099 : String → Option String

namespace ModelState

def local_executor_id (s : ModelState) : String := s.device

def emit_host (action : String) (detail : Value) (s : ModelState) : ModelState :=
  { s with host := s.host.emit_host action detail }

/-- The event of a key: its provider and its executor, never the key. -/
def key_event (provider_id executor : String) : Value :=
  json [("provider_id", .string provider_id), ("executor", .string executor)]

/-- One executor's key of a provider: on a miss, and for the node itself only, the entry
of the build before is read, and written forward under the new account. -/
def keyring_get_llm_key (executor_id provider_id : String) (s : ModelState) :
    Except String (Option String) × ModelState :=
  let user := user_for_llm_key executor_id provider_id
  match s.keyring.get user with
  | (.error e, ring) => (.error e, { s with keyring := ring })
  | (.ok (some key), ring) => (.ok (some key), { s with keyring := ring })
  | (.ok none, ring) =>
    if executor_id ≠ s.local_executor_id then (.ok none, { s with keyring := ring }) else
    let legacy := legacy_user_for_provider provider_id
    match ring.get legacy with
    | (.error e, ring) => (.error e, { s with keyring := ring })
    | (.ok none, ring) => (.ok none, { s with keyring := ring })
    | (.ok (some key), ring) =>
      match ring.put user (some key) with
      | (.error _, ring) => (.ok (some key), { s with keyring := ring })
      | (.ok (), ring) =>
        (.ok (some key), { s with keyring := ring }.emit_host "host.keyring.migrated"
          (json [("from", .string legacy), ("to", .string user), ("provider_id", .string provider_id)]))

def keyring_save (executor provider_id api_key : String) (s : ModelState) : Bool × ModelState :=
  if Text.trim api_key = "" then (false, s) else
  match s.keyring.put (user_for_llm_key executor provider_id) (some api_key) with
  | (.ok (), ring) =>
    let stored := Function.update s.stored (executor, provider_id) (some api_key)
    (true, { s with keyring := ring, stored }.emit_host "host.keyring.save" (key_event provider_id executor))
  | (.error _, ring) =>
    (false, { s with keyring := ring }.emit_host "host.keyring.save_failed" (key_event provider_id executor))

/-- The entry of the new account alone: that of the build before is left alone. -/
def keyring_delete (executor provider_id : String) (s : ModelState) : ModelState :=
  match s.keyring.put (user_for_llm_key executor provider_id) none with
  | (.ok (), ring) =>
    let stored := Function.update s.stored (executor, provider_id) none
    { s with keyring := ring, stored }.emit_host "host.keyring.delete" (key_event provider_id executor)
  | (.error _, ring) => { s with keyring := ring }

def set_llm_config_for (executor : String) (input : LlmConfigInput) (s : ModelState) : ModelState :=
  { s with llm_config := Function.update s.llm_config executor (some input) }

/-- What is filled in from a preset, or why it is refused. -/
def complete (quoted : String → String) (provider_id : Option String) (api_key base_url model : String) :
    Except String LlmConfigInput :=
  let pid := (provider_id.filter filled).getD DEFAULT_PRESET_ID
  let (base_url, model) := match find_preset pid with
    | some p =>
      if p.id ≠ "custom" then
        (if filled base_url then base_url else p.base_url, if filled model then model else p.default_model)
      else (base_url, model)
    | none => (base_url, model)
  if pid = "custom" ∧ ¬ (filled base_url ∧ filled model) then
    .error "invalid_config|custom provider requires base_url and model"
  else
    let input : LlmConfigInput := ⟨pid, api_key, base_url, model⟩
    let readiness := readiness_of quoted input
    if readiness.ready then .ok input else .error (readiness_error readiness)

section
variable (format : SettingsFormat) (quoted : String → String)

/-- A configuration that passed is remembered in the keyring or forgotten there, persisted
and put in memory; the flag of the process moves with it. -/
def remember_config (executor : String) (input : LlmConfigInput) (remember : Bool) (s : ModelState) : ModelState :=
  let (persisted, s) :=
    if remember then s.keyring_save executor input.provider_id input.api_key
    else (false, s.keyring_delete executor input.provider_id)
  let s := { s with host := s.host.persist_llm_config format executor input }
  { s.set_llm_config_for executor input with persisted := persisted }

def set_llm_config_with_for (executor : String) (provider_id : Option String) (api_key base_url model : String)
    (remember : Option Bool) (s : ModelState) : Except String Unit × ModelState :=
  match complete quoted provider_id api_key base_url model with
  | .error e => (.error e, s)
  | .ok input => (.ok (), s.remember_config format executor input (remember.getD true))

def has_stored_key_for (executor provider_id : String) (s : ModelState) : Bool × ModelState :=
  match s.keyring_get_llm_key executor provider_id with
  | (.ok (some _), t) => (true, t)
  | (_, t) => (false, t)

/-- What a stored key is paired with: the executor's persisted entry for the provider,
then what is in memory for it, then the preset. -/
def paired (executor provider_id key : String) (s : ModelState) : Except String LlmConfigInput :=
  let entry := (s.host.settings.llm_configs.find executor).map Prod.snd
  match entry.filter fun entry => entry.provider_id = provider_id with
  | some entry => .ok ⟨entry.provider_id, key, entry.base_url, entry.model⟩
  | none =>
    match (s.llm_config executor).filter fun current => current.provider_id = provider_id with
    | some current => .ok { current with api_key := key }
    | none =>
      match find_preset provider_id with
      | none => .error "unknown_provider"
      | some preset => .ok ⟨preset.id, key, preset.base_url, preset.default_model⟩

def load_stored_key_for (executor provider_id : String) (s : ModelState) : Except String Unit × ModelState :=
  match s.keyring_get_llm_key executor provider_id with
  | (.error e, t) => (.error e, t)
  | (.ok none, t) => (.error "no_stored_key", t)
  | (.ok (some key), t) =>
    match t.paired executor provider_id key with
    | .error e => (.error e, t)
    | .ok input =>
      let readiness := readiness_of quoted input
      if ¬ readiness.ready then (.error (readiness.reason.getD "invalid_config"), t) else
      let loaded := t.set_llm_config_for executor input
      let loaded := if executor = loaded.local_executor_id then { loaded with persisted := true } else loaded
      (.ok (), loaded.emit_host "host.keyring.load" (key_event provider_id executor))

def clear_llm_config_for (executor : String) (s : ModelState) : ModelState :=
  let provider := (s.llm_config executor).map LlmConfigInput.provider_id
  let s := { s with llm_config := Function.update s.llm_config executor none }
  let s := match provider with
    | some provider_id => s.keyring_delete executor provider_id
    | none => s
  let s := { s with host := s.host.forget_llm_config format executor }
  if executor = s.local_executor_id then { s with persisted := false } else s

/-- The status of an executor: whether its key is remembered is, for the node itself, the flag
of the process, and for another one what the keyring answers. -/
def llm_config_status_for (executor : String) (s : ModelState) : LlmConfigStatus :=
  let config_persisted := (s.host.settings.llm_configs.find executor).isSome
  match s.llm_config executor with
  | none => ⟨false, DEFAULT_PRESET_ID, "", "", false, config_persisted⟩
  | some c =>
    let persisted := if executor = s.local_executor_id then s.persisted else (s.has_stored_key_for executor c.provider_id).1
    ⟨true, c.provider_id, c.base_url, c.model, persisted, config_persisted⟩

def llm_readiness_for (executor : String) (s : ModelState) : LlmReadiness :=
  if s.llm_override then ⟨true, none, none⟩ else
  match s.llm_config executor with
  | some input => readiness_of quoted input
  | none => ⟨false, some "no_config", some "请在设置中选择服务商并填写 API Key，或使用本地模型"⟩

end
/-! ### What an operation can change -/

/-- Of every executor but one, nothing changes in memory or in the settings. -/
structure Frame (executor : String) (s t : ModelState) : Prop where
  device : t.device = s.device
  seam : t.llm_override = s.llm_override
  before : t.v099 = s.v099
  config : ∀ other, other ≠ executor → t.llm_config other = s.llm_config other
  settings : ∀ other, other ≠ executor →
    t.host.settings.llm_configs.find other = s.host.settings.llm_configs.find other

/-- What an operation does to the keyring, if it is about a pair: nothing, a key written or
removed under the account of the pair, or the entry of the build before copied there. -/
inductive Moves (s t : ModelState) (pair : Option (String × String)) : Prop
  | Nothing (entries : t.keyring.entries = s.keyring.entries) (stored : t.stored = s.stored)
  | Written (q : String × String) (key : Option String) (about : pair = some q)
      (entries : t.keyring.entries = Function.update s.keyring.entries (user_for_llm_key q.1 q.2) key)
      (stored : t.stored = Function.update s.stored q key)
  | Forward (provider : String) (about : pair = some (s.device, provider))
      (missing : s.keyring.entries (user_for_llm_key s.device provider) = none)
      (entries : t.keyring.entries = Function.update s.keyring.entries (user_for_llm_key s.device provider)
        (s.keyring.entries (legacy_user_for_provider provider)))
      (stored : t.stored = s.stored)

theorem Frame.refl (executor : String) (s : ModelState) : Frame executor s s := ⟨rfl, rfl, rfl, fun _ _ => rfl, fun _ _ => rfl⟩

theorem Frame.trans {executor : String} {s t u : ModelState} (first : Frame executor s t) (second : Frame executor t u) :
    Frame executor s u where
  device := second.device.trans first.device
  seam := second.seam.trans first.seam
  before := second.before.trans first.before
  config other differs := (second.config other differs).trans (first.config other differs)
  settings other differs := (second.settings other differs).trans (first.settings other differs)

/-- The settings and the keyring changed, the configurations of the executors not. -/
theorem Frame.of_same {executor : String} {s t : ModelState} (device : t.device = s.device)
    (seam : t.llm_override = s.llm_override) (before : t.v099 = s.v099) (config : t.llm_config = s.llm_config)
    (settings : t.host.settings = s.host.settings) : Frame executor s t :=
  ⟨device, seam, before, fun other _ => congrFun config other, fun other _ => by rw [settings]⟩

/-- What a key is looked up as, by what is under the two accounts. -/
def key_found (own legacy : Option String) (is_local : Bool) (answers : List (Option String)) :
    Except String (Option String) :=
  match answers.head?.join, own with
  | some e, _ => .error e
  | none, some key => .ok (some key)
  | none, none =>
    if !is_local then .ok none else
    match answers.tail.head?.join with
    | some e => .error e
    | none => .ok legacy

/-- The pair whose account a look-up may write: the node's own, where it has no entry yet. -/
def looked_up (executor provider_id : String) (s : ModelState) : Option (String × String) :=
  if executor = s.device ∧ s.keyring.entries (user_for_llm_key executor provider_id) = none then some (executor, provider_id)
  else none

/-- A look-up answers from the two accounts, and changes nothing but the one it writes forward. -/
structure LookedUp (executor provider_id : String) (s : ModelState) (result : Except String (Option String))
    (t : ModelState) : Prop where
  result : result = key_found (s.keyring.entries (user_for_llm_key executor provider_id))
    (s.keyring.entries (legacy_user_for_provider provider_id)) (executor = s.device) s.keyring.answers
  frame : Frame executor s t
  persisted : t.persisted = s.persisted
  config : t.llm_config = s.llm_config
  settings : t.host.settings = s.host.settings
  moves : Moves s t (s.looked_up executor provider_id)

theorem keyring_get_spec (executor provider_id : String) (s : ModelState) :
    LookedUp executor provider_id s (s.keyring_get_llm_key executor provider_id).1
      (s.keyring_get_llm_key executor provider_id).2 := by
  have quiet {result : Except String (Option String)} (answers : List (Option String))
      (same : result = key_found (s.keyring.entries (user_for_llm_key executor provider_id))
        (s.keyring.entries (legacy_user_for_provider provider_id)) (executor = s.device) s.keyring.answers) :
      LookedUp executor provider_id s result { s with keyring := ⟨s.keyring.entries, answers⟩ } :=
    ⟨same, .of_same rfl rfl rfl rfl rfl, rfl, rfl, rfl, .Nothing rfl rfl⟩
  simp only [keyring_get_llm_key, Keyring.get, Keyring.answer, local_executor_id]
  cases first : s.keyring.answers.head?.join with
  | some e => exact quiet _ (by simp [key_found, first])
  | none =>
    cases own : s.keyring.entries (user_for_llm_key executor provider_id) with
    | some key => exact quiet _ (by simp [key_found, first, own])
    | none =>
      simp only
      by_cases here : executor = s.device
      · subst here
        simp only [ne_eq, not_true_eq_false, if_false]
        cases second : s.keyring.answers.tail.head?.join with
        | some e => exact quiet _ (by simp only [key_found, first, own, second, decide_true, Bool.not_true, Bool.false_eq_true, if_false])
        | none =>
          have found : key_found none (s.keyring.entries (legacy_user_for_provider provider_id)) true s.keyring.answers =
              .ok (s.keyring.entries (legacy_user_for_provider provider_id)) := by
            simp only [key_found, first, second, Bool.not_true, Bool.false_eq_true, if_false]
          cases legacy : s.keyring.entries (legacy_user_for_provider provider_id) with
          | none => exact quiet _ (by simpa [own, legacy] using found.symm)
          | some key =>
            simp only [Keyring.put, Keyring.answer]
            cases third : s.keyring.answers.tail.tail.head?.join with
            | some e => exact quiet _ (by simpa [own, legacy] using found.symm)
            | none =>
              have about : s.looked_up s.device provider_id = some (s.device, provider_id) := by simp [looked_up, own]
              refine ⟨by simpa [own, legacy] using found.symm, .of_same rfl rfl rfl rfl rfl, rfl, rfl, rfl, ?_⟩
              exact .Forward provider_id about own (by rw [legacy]; rfl) rfl
      · simp only [ne_eq, here, not_false_eq_true, if_true]
        exact quiet _ (by simp [key_found, first, own, here])

/-- One key written or removed under its account, if the keyring takes it. -/
theorem keyring_put_spec (executor provider_id : String) (key : Option String) (s : ModelState) :
    (∃ e, s.keyring.put (user_for_llm_key executor provider_id) key = (.error e, ⟨s.keyring.entries, s.keyring.answers.tail⟩)) ∨
      s.keyring.put (user_for_llm_key executor provider_id) key =
        (.ok (), ⟨Function.update s.keyring.entries (user_for_llm_key executor provider_id) key, s.keyring.answers.tail⟩) := by
  unfold Keyring.put
  cases s.keyring.answer with
  | some e => exact .inl ⟨e, rfl⟩
  | none => exact .inr rfl

/-- A key saved or deleted: the keyring and the events alone change. -/
structure KeyMoved (executor provider_id : String) (s t : ModelState) : Prop where
  frame : Frame executor s t
  persisted : t.persisted = s.persisted
  config : t.llm_config = s.llm_config
  settings : t.host.settings = s.host.settings
  moves : Moves s t (some (executor, provider_id))

theorem keyring_save_spec (executor provider_id api_key : String) (s : ModelState) :
    KeyMoved executor provider_id s (s.keyring_save executor provider_id api_key).2 := by
  unfold keyring_save
  by_cases blank : Text.trim api_key = ""
  · rw [if_pos blank]
    exact ⟨.refl _ s, rfl, rfl, rfl, .Nothing rfl rfl⟩
  · rw [if_neg blank]
    rcases s.keyring_put_spec executor provider_id (some api_key) with ⟨e, refused⟩ | taken
    · rw [refused]
      exact ⟨.of_same rfl rfl rfl rfl rfl, rfl, rfl, rfl, .Nothing rfl rfl⟩
    · rw [taken]
      exact ⟨.of_same rfl rfl rfl rfl rfl, rfl, rfl, rfl, .Written _ _ rfl rfl rfl⟩

theorem keyring_delete_spec (executor provider_id : String) (s : ModelState) :
    KeyMoved executor provider_id s (s.keyring_delete executor provider_id) := by
  unfold keyring_delete
  rcases s.keyring_put_spec executor provider_id none with ⟨e, refused⟩ | taken
  · rw [refused]
    exact ⟨.of_same rfl rfl rfl rfl rfl, rfl, rfl, rfl, .Nothing rfl rfl⟩
  · rw [taken]
    exact ⟨.of_same rfl rfl rfl rfl rfl, rfl, rfl, rfl, .Written _ _ rfl rfl rfl⟩

end ModelState

/-! ### Operations -/

/-- An operation on the configuration of one executor; looking for a stored key is one
as well, for it may write an entry forward. -/
inductive ModelAct
  | Set (executor : String) (provider_id : Option String) (api_key base_url model : String) (remember : Option Bool)
  | Load (executor provider_id : String)
  | Clear (executor : String)
  | HasStored (executor provider_id : String)

namespace ModelAct
variable (format : SettingsFormat) (quoted : String → String)

def executor : ModelAct → String
  | Set executor .. => executor
  | Load executor _ => executor
  | Clear executor => executor
  | HasStored executor _ => executor

def step (s : ModelState) : ModelAct → ModelState
  | Set executor provider_id api_key base_url model remember =>
    (s.set_llm_config_with_for format quoted executor provider_id api_key base_url model remember).2
  | Load executor provider_id => (s.load_stored_key_for quoted executor provider_id).2
  | Clear executor => s.clear_llm_config_for format executor
  | HasStored executor provider_id => (s.has_stored_key_for executor provider_id).2

/-- The pair whose account an operation may write or remove. -/
def touched (s : ModelState) : ModelAct → Option (String × String)
  | Set executor provider_id api_key base_url model _ =>
    match ModelState.complete quoted provider_id api_key base_url model with
    | .ok input => some (executor, input.provider_id)
    | .error _ => none
  | Load executor provider_id => s.looked_up executor provider_id
  | Clear executor => (s.llm_config executor).map fun c => (executor, c.provider_id)
  | HasStored executor provider_id => s.looked_up executor provider_id

/-- What a save makes of the flag of the process: whether its key was remembered. -/
def flag_written (s : ModelState) : ModelAct → Option Bool
  | Set _ provider_id api_key base_url model remember =>
    match ModelState.complete quoted provider_id api_key base_url model with
    | .ok input => some (remember.getD true && Text.trim input.api_key != "" && s.keyring.answer.isNone)
    | .error _ => none
  | _ => none

/-- What one operation does: to its own executor, to the account it is about, and to
the flag, which another executor's save moves as well. -/
structure Done (s : ModelState) (act : ModelAct) (t : ModelState) : Prop where
  frame : ModelState.Frame act.executor s t
  moves : ModelState.Moves s t (act.touched quoted s)
  flag : act.executor ≠ s.device → t.persisted = (act.flag_written quoted s).getD s.persisted

end ModelAct

namespace ModelState
variable {format : SettingsFormat} {quoted : String → String}

/-- Memory and settings of one executor written, those of the others left. -/
theorem frame_persist (executor : String) (input : LlmConfigInput) (s : ModelState) :
    Frame executor s { s with host := s.host.persist_llm_config format executor input } := by
  refine ⟨rfl, rfl, rfl, fun _ _ => rfl, fun other differs => ?_⟩
  simp [SettingsState.persist_llm_config, KeyedTable.Table.find_replace, differs]

theorem frame_forget (executor : String) (s : ModelState) :
    Frame executor s { s with host := s.host.forget_llm_config format executor } := by
  refine ⟨rfl, rfl, rfl, fun _ _ => rfl, fun other differs => ?_⟩
  simp [SettingsState.forget_llm_config, KeyedTable.Table.find_delete, differs]

theorem frame_memory (executor : String) (config : Option LlmConfigInput) (persisted : Bool) (s : ModelState) :
    Frame executor s { s with llm_config := Function.update s.llm_config executor config, persisted } :=
  ⟨rfl, rfl, rfl, fun _ differs => Function.update_of_ne differs _ _, fun _ _ => rfl⟩

/-- A move of the keyring is a move whatever else is written afterwards. -/
theorem Moves.later {s t u : ModelState} {pair : Option (String × String)} (moves : Moves s t pair)
    (entries : u.keyring.entries = t.keyring.entries) (stored : u.stored = t.stored) : Moves s u pair := by
  cases moves with
  | Nothing e st => exact .Nothing (entries.trans e) (stored.trans st)
  | Written q key about e st => exact .Written q key about (entries.trans e) (stored.trans st)
  | Forward provider about missing e st => exact .Forward provider about missing (entries.trans e) (stored.trans st)

/-- A save reports whether the key is remembered. -/
theorem keyring_save_fst (executor provider_id api_key : String) (s : ModelState) :
    (s.keyring_save executor provider_id api_key).1 = (Text.trim api_key != "" && s.keyring.answer.isNone) := by
  unfold keyring_save
  by_cases blank : Text.trim api_key = ""
  · simp [blank]
  · rw [if_neg blank]
    unfold Keyring.put
    cases s.keyring.answer <;> simp [blank]

/-- The configuration after its key was moved: persisted, and put in memory with the flag. -/
def configured (format : SettingsFormat) (executor : String) (input : LlmConfigInput) (persisted : Bool) (t : ModelState) :
    ModelState :=
  { ({ t with host := t.host.persist_llm_config format executor input } : ModelState).set_llm_config_for executor input with
    persisted }

theorem frame_configured (executor : String) (input : LlmConfigInput) (persisted : Bool) (t : ModelState) :
    Frame executor t (configured format executor input persisted t) :=
  (frame_persist executor input t).trans (frame_memory executor (some input) persisted _)

theorem remember_config_eq (executor : String) (input : LlmConfigInput) (remember : Bool) (s : ModelState) :
    s.remember_config format executor input remember =
      if remember then configured format executor input (s.keyring_save executor input.provider_id input.api_key).1
        (s.keyring_save executor input.provider_id input.api_key).2
      else configured format executor input false (s.keyring_delete executor input.provider_id) := by
  unfold remember_config
  cases remember with
  | true =>
    rw [if_pos rfl, if_pos rfl]
    generalize s.keyring_save executor input.provider_id input.api_key = saved
    rfl
  | false =>
    rw [if_neg Bool.false_ne_true, if_neg Bool.false_ne_true]
    rfl

theorem done_set (executor : String) (provider_id : Option String) (api_key base_url model : String)
    (remember : Option Bool) (s : ModelState) :
    ModelAct.Done quoted s (.Set executor provider_id api_key base_url model remember)
      (ModelAct.step format quoted s (.Set executor provider_id api_key base_url model remember)) := by
  simp only [ModelAct.step, set_llm_config_with_for]
  cases completed : complete quoted provider_id api_key base_url model with
  | error e => exact ⟨.refl _ s, .Nothing rfl rfl, fun _ => by simp [ModelAct.flag_written, completed]⟩
  | ok input =>
    have about : ModelAct.touched quoted s (.Set executor provider_id api_key base_url model remember) =
        some (executor, input.provider_id) := by simp [ModelAct.touched, completed]
    have written : ModelAct.flag_written quoted s (.Set executor provider_id api_key base_url model remember) =
        some (remember.getD true && Text.trim input.api_key != "" && s.keyring.answer.isNone) := by
      simp [ModelAct.flag_written, completed]
    simp only [remember_config_eq]
    cases kept : remember.getD true with
    | true =>
      have saved := keyring_save_spec executor input.provider_id input.api_key s
      have reported := keyring_save_fst executor input.provider_id input.api_key s
      generalize s.keyring_save executor input.provider_id input.api_key = save at saved reported ⊢
      refine ⟨saved.frame.trans (frame_configured executor input save.1 save.2), ?_, fun _ => ?_⟩
      · rw [about]
        exact saved.moves.later rfl rfl
      · rw [written, kept, Bool.true_and, ← reported]
        rfl
    | false =>
      have deleted := keyring_delete_spec executor input.provider_id s
      generalize s.keyring_delete executor input.provider_id = t at deleted ⊢
      refine ⟨deleted.frame.trans (frame_configured executor input false t), ?_, fun _ => ?_⟩
      · rw [about]
        exact deleted.moves.later rfl rfl
      · rw [written, kept]
        rfl

theorem has_stored_eq (executor provider_id : String) (s : ModelState) :
    s.has_stored_key_for executor provider_id =
      (match (s.keyring_get_llm_key executor provider_id).1 with
        | .ok (some _) => true
        | _ => false, (s.keyring_get_llm_key executor provider_id).2) := by
  unfold has_stored_key_for
  rcases s.keyring_get_llm_key executor provider_id with ⟨_ | (_ | _), _⟩ <;> rfl

/-- What a load does after its look-up: its own executor's configuration at most, and for
the node itself the flag. -/
structure LoadedFrom (executor : String) (t u : ModelState) : Prop where
  frame : Frame executor t u
  keyring : u.keyring = t.keyring
  stored : u.stored = t.stored
  flag : executor ≠ t.device → u.persisted = t.persisted

theorem load_spec (executor provider_id : String) (s : ModelState) :
    LoadedFrom executor (s.keyring_get_llm_key executor provider_id).2
      (s.load_stored_key_for quoted executor provider_id).2 := by
  unfold load_stored_key_for
  rcases s.keyring_get_llm_key executor provider_id with ⟨_ | (_ | key), t⟩
  · exact ⟨.refl _ t, rfl, rfl, fun _ => rfl⟩
  · exact ⟨.refl _ t, rfl, rfl, fun _ => rfl⟩
  · simp only
    cases t.paired executor provider_id key with
    | error e => exact ⟨.refl _ t, rfl, rfl, fun _ => rfl⟩
    | ok input =>
      simp only
      by_cases refused : ¬ (readiness_of quoted input).ready
      · rw [if_pos refused]
        exact ⟨.refl _ t, rfl, rfl, fun _ => rfl⟩
      · rw [if_neg refused]
        have node : (set_llm_config_for executor input t).local_executor_id = t.device := rfl
        by_cases here : executor = t.device
        · rw [node, if_pos here]
          exact ⟨(frame_memory executor (some input) true t).trans (.of_same rfl rfl rfl rfl rfl), rfl, rfl, fun other => absurd here other⟩
        · rw [node, if_neg here]
          exact ⟨(frame_memory executor (some input) t.persisted t).trans (.of_same rfl rfl rfl rfl rfl), rfl, rfl, fun _ => rfl⟩

theorem done_load (executor provider_id : String) (s : ModelState) :
    ModelAct.Done quoted s (.Load executor provider_id) (ModelAct.step format quoted s (.Load executor provider_id)) := by
  have looked := keyring_get_spec executor provider_id s
  have loaded := @load_spec quoted executor provider_id s
  refine ⟨looked.frame.trans loaded.frame, looked.moves.later (congrArg Keyring.entries loaded.keyring) loaded.stored, fun other => ?_⟩
  exact (loaded.flag (looked.frame.device ▸ other)).trans looked.persisted

theorem done_has_stored (executor provider_id : String) (s : ModelState) :
    ModelAct.Done quoted s (.HasStored executor provider_id)
      (ModelAct.step format quoted s (.HasStored executor provider_id)) := by
  have looked := keyring_get_spec executor provider_id s
  simp only [ModelAct.step, has_stored_eq]
  exact ⟨looked.frame, looked.moves, fun _ => looked.persisted⟩

/-- The last step of a clear: the settings, and for the node itself the flag. -/
theorem forget_spec (executor : String) (t : ModelState) :
    let u : ModelState := { t with host := t.host.forget_llm_config format executor }
    LoadedFrom executor t (if executor = u.local_executor_id then { u with persisted := false } else u) := by
  intro u
  have forgot : Frame executor t u := frame_forget executor t
  by_cases here : executor = u.local_executor_id
  · rw [if_pos here]
    exact ⟨forgot.trans (.of_same rfl rfl rfl rfl rfl), rfl, rfl, fun other => absurd here other⟩
  · rw [if_neg here]
    exact ⟨forgot, rfl, rfl, fun _ => rfl⟩

theorem done_clear (executor : String) (s : ModelState) :
    ModelAct.Done quoted s (.Clear executor) (ModelAct.step format quoted s (.Clear executor)) := by
  have cleared : Frame executor s { s with llm_config := Function.update s.llm_config executor none } :=
    frame_memory executor none s.persisted s
  simp only [ModelAct.step, clear_llm_config_for]
  cases config : s.llm_config executor with
  | none =>
    have forgot := @forget_spec format executor { s with llm_config := Function.update s.llm_config executor none }
    exact ⟨cleared.trans forgot.frame, .Nothing (congrArg Keyring.entries forgot.keyring) forgot.stored, forgot.flag⟩
  | some c =>
    have deleted := keyring_delete_spec executor c.provider_id
      { s with llm_config := Function.update s.llm_config executor none }
    have forgot := @forget_spec format executor
      (keyring_delete executor c.provider_id { s with llm_config := Function.update s.llm_config executor none })
    have about : ModelAct.touched quoted s (.Clear executor) = some (executor, c.provider_id) := by
      simp [ModelAct.touched, config]
    refine ⟨cleared.trans (deleted.frame.trans forgot.frame), ?_, fun other => ?_⟩
    · rw [about]
      have moves : Moves s (keyring_delete executor c.provider_id
          { s with llm_config := Function.update s.llm_config executor none }) (some (executor, c.provider_id)) := by
        cases deleted.moves with
        | Nothing entries stored => exact .Nothing entries stored
        | Written q key same entries stored => exact .Written q key same entries stored
        | Forward provider same missing entries stored => exact .Forward provider same missing entries stored
      exact moves.later (congrArg Keyring.entries forgot.keyring) forgot.stored
    · exact (forgot.flag fun here => other (here.trans deleted.frame.device)).trans deleted.persisted

end ModelState

/-- Every operation, of every kind. -/
theorem ModelAct.done {format : SettingsFormat} {quoted : String → String} (s : ModelState) (act : ModelAct) :
    act.Done quoted s (act.step format quoted s) := by
  cases act with
  | Set executor provider_id api_key base_url model remember => exact ModelState.done_set ..
  | Load executor provider_id => exact ModelState.done_load ..
  | Clear executor => exact ModelState.done_clear ..
  | HasStored executor provider_id => exact ModelState.done_has_stored ..

/-! ### Isolation -/

namespace ModelState
variable (quoted : String → String)

/-- The node as it is asked, the keyring answering the question as it will. -/
def asked (answers : List (Option String)) (s : ModelState) : ModelState :=
  { s with keyring := { s.keyring with answers } }

/-- What is answered about an executor, for a provider. -/
def observed (executor provider_id : String) (answers : List (Option String)) (s : ModelState) :
    LlmConfigStatus × LlmReadiness × Bool :=
  ((s.asked answers).llm_config_status_for executor, (s.asked answers).llm_readiness_for quoted executor,
    ((s.asked answers).has_stored_key_for executor provider_id).1)

/-- The accounts that a key of a pair is looked for under. -/
def accounts (executor provider_id : String) (s : ModelState) : List String :=
  user_for_llm_key executor provider_id ::
    if executor = s.device then [legacy_user_for_provider provider_id] else []

/-- An operation that keeps away from an executor and one of its providers: the account
it writes is none of theirs, nor that of the provider the executor is configured for,
and a save of another executor leaves the flag as it was while the node is configured. -/
structure Apart (executor provider_id : String) (s : ModelState) (act : ModelAct) : Prop where
  asked : ∀ q, act.touched quoted s = some q → q ≠ (executor, provider_id) →
    user_for_llm_key q.1 q.2 ∉ s.accounts executor provider_id
  configured : ∀ q c, act.touched quoted s = some q → q.1 ≠ executor → s.llm_config executor = some c →
    user_for_llm_key q.1 q.2 ≠ user_for_llm_key executor c.provider_id
  flag : executor = s.device → act.executor ≠ executor → (s.llm_config executor).isSome →
    ∀ remembered, act.flag_written quoted s = some remembered → remembered = s.persisted

/-- Under the account of a pair is the key last stored for it, or, for the node itself,
what the build before had for the provider; and that entry is still there. -/
structure Synced (executor provider_id : String) (s : ModelState) : Prop where
  own : s.keyring.entries (user_for_llm_key executor provider_id) = s.stored (executor, provider_id) ∨
    executor = s.device ∧ s.stored (executor, provider_id) = none ∧
      s.keyring.entries (user_for_llm_key executor provider_id) = s.v099 provider_id
  legacy : executor = s.device → s.keyring.entries (legacy_user_for_provider provider_id) = s.v099 provider_id

variable {quoted}

theorem stored_asked (executor provider_id : String) (answers : List (Option String)) (s : ModelState) :
    ((s.asked answers).has_stored_key_for executor provider_id).1 =
      match key_found (s.keyring.entries (user_for_llm_key executor provider_id))
          (s.keyring.entries (legacy_user_for_provider provider_id)) (executor = s.device) answers with
        | .ok (some _) => true
        | _ => false := by
  rw [has_stored_eq, (keyring_get_spec executor provider_id (s.asked answers)).result]
  rfl

/-- For another executor only its own account counts. -/
theorem key_found_other (own legacy legacy' : Option String) (answers : List (Option String)) :
    key_found own legacy false answers = key_found own legacy' false answers := by
  unfold key_found
  cases answers.head?.join <;> cases own <;> rfl

/-- What is answered depends on the executor's own memory and settings, and on its accounts. -/
theorem observed_eq {executor provider_id : String} {s t : ModelState} (answers : List (Option String))
    (device : t.device = s.device) (seam : t.llm_override = s.llm_override)
    (config : t.llm_config executor = s.llm_config executor)
    (settings : t.host.settings.llm_configs.find executor = s.host.settings.llm_configs.find executor)
    (accounts : ∀ user ∈ s.accounts executor provider_id, t.keyring.entries user = s.keyring.entries user)
    (configured : ∀ c, s.llm_config executor = some c → executor ≠ s.device →
      t.keyring.entries (user_for_llm_key executor c.provider_id) =
        s.keyring.entries (user_for_llm_key executor c.provider_id))
    (flag : executor = s.device → (s.llm_config executor).isSome → t.persisted = s.persisted) :
    t.observed quoted executor provider_id answers = s.observed quoted executor provider_id answers := by
  have stored (provider : String)
      (own : t.keyring.entries (user_for_llm_key executor provider) = s.keyring.entries (user_for_llm_key executor provider))
      (legacy : executor = s.device → t.keyring.entries (legacy_user_for_provider provider) =
        s.keyring.entries (legacy_user_for_provider provider)) :
      ((t.asked answers).has_stored_key_for executor provider).1 = ((s.asked answers).has_stored_key_for executor provider).1 := by
    rw [stored_asked, stored_asked, own, device]
    by_cases here : executor = s.device
    · rw [legacy here]
    · simp only [here, decide_false]
      rw [key_found_other]
  have status : (t.asked answers).llm_config_status_for executor = (s.asked answers).llm_config_status_for executor := by
    have memory : (t.asked answers).llm_config executor = (s.asked answers).llm_config executor := config
    have disk : (t.asked answers).host.settings.llm_configs.find executor =
        (s.asked answers).host.settings.llm_configs.find executor := settings
    have node : (t.asked answers).local_executor_id = (s.asked answers).local_executor_id := device
    unfold llm_config_status_for
    rw [memory, disk, node]
    cases there : (s.asked answers).llm_config executor with
    | none => rfl
    | some c =>
      by_cases here : executor = (s.asked answers).local_executor_id
      · have same : (t.asked answers).persisted = (s.asked answers).persisted :=
          flag here (Option.isSome_iff_exists.mpr ⟨c, there⟩)
        simp only [if_pos here, same]
      · simp only [if_neg here]
        rw [stored c.provider_id (configured c there here) fun equal => absurd equal here]
  have readiness : (t.asked answers).llm_readiness_for quoted executor = (s.asked answers).llm_readiness_for quoted executor := by
    have memory : (t.asked answers).llm_config executor = (s.asked answers).llm_config executor := config
    have override : (t.asked answers).llm_override = (s.asked answers).llm_override := seam
    unfold llm_readiness_for
    rw [memory, override]
  have answer := stored provider_id (accounts _ List.mem_cons_self) fun here => accounts _ (by simp [ModelState.accounts, here])
  unfold observed
  rw [status, readiness, answer]

/-- The account that an operation writes is one of its own executor's. -/
theorem touched_executor {s : ModelState} {act : ModelAct} {q : String × String} (about : act.touched quoted s = some q) :
    q.1 = act.executor := by
  have looked {executor provider_id : String} (there : s.looked_up executor provider_id = some q) : q.1 = executor := by
    unfold looked_up at there
    split_ifs at there
    rw [← Option.some.inj there]
  cases act with
  | Set executor provider_id api_key base_url model remember =>
    simp only [ModelAct.touched] at about
    split at about
    · rw [← Option.some.inj about]
      rfl
    · cases about
  | Load executor provider_id => exact looked about
  | HasStored executor provider_id => exact looked about
  | Clear executor =>
    obtain ⟨c, _, rfl⟩ := Option.map_eq_some_iff.mp about
    rfl

/-- The keyring away from the account of an operation. -/
theorem untouched {format : SettingsFormat} {s : ModelState} {act : ModelAct} {user : String}
    (away : ∀ q, act.touched quoted s = some q → user_for_llm_key q.1 q.2 ≠ user) :
    (act.step format quoted s).keyring.entries user = s.keyring.entries user := by
  cases (@ModelAct.done format quoted s act).moves with
  | Nothing entries _ => rw [entries]
  | Written q key about entries _ => rw [entries, Function.update_of_ne (away q about).symm]
  | Forward provider about _ entries _ => rw [entries, Function.update_of_ne (away _ about).symm]

/-- An operation of one executor that keeps away from another changes nothing of what is
answered about that one. -/
theorem step_isolated {format : SettingsFormat} {executor provider_id : String} {s : ModelState} {act : ModelAct}
    (other : act.executor ≠ executor) (apart : Apart quoted executor provider_id s act) (answers : List (Option String)) :
    (act.step format quoted s).observed quoted executor provider_id answers = s.observed quoted executor provider_id answers := by
  have done := @ModelAct.done format quoted s act
  refine observed_eq answers done.frame.device done.frame.seam (done.frame.config _ (Ne.symm other))
    (done.frame.settings _ (Ne.symm other)) ?_ ?_ ?_
  · intro user inside
    refine untouched fun q about equal => ?_
    refine apart.asked q about (fun same => other ?_) (equal ▸ inside)
    rw [← touched_executor about, same]
  · intro c there _
    exact untouched fun q about => apart.configured q c about (fun same => other ((touched_executor about).symm.trans same)) there
  · intro here configured
    rw [done.flag fun same => other (same.trans here.symm)]
    cases written : act.flag_written quoted s with
    | none => rfl
    | some remembered => exact apart.flag here other configured remembered written

/-! ### The key last stored -/

theorem user_ne_legacy (executor provider_id : String) :
    user_for_llm_key executor provider_id ≠ legacy_user_for_provider provider_id := by
  have longer (start colon : String) (one : colon.length = 1) : start ++ executor ++ colon ++ provider_id ≠ start ++ provider_id := by
    intro same
    have lengths := congrArg String.length same
    simp only [String.length_append] at lengths
    omega
  exact longer "llm-api-key:" ":" rfl

/-- An operation that keeps away from a pair, or is about it, keeps its account in step with
what was stored for it. -/
theorem step_synced {format : SettingsFormat} {executor provider_id : String} {s : ModelState} {act : ModelAct}
    (synced : Synced executor provider_id s) (apart : Apart quoted executor provider_id s act) :
    Synced executor provider_id (act.step format quoted s) := by
  have done := @ModelAct.done format quoted s act
  have before : (act.step format quoted s).v099 = s.v099 := done.frame.before
  have device : (act.step format quoted s).device = s.device := done.frame.device
  by_cases about : act.touched quoted s = some (executor, provider_id)
  · have legacy : executor = s.device → (act.step format quoted s).keyring.entries (legacy_user_for_provider provider_id) =
        s.v099 provider_id := by
      intro here
      rw [← synced.legacy here]
      refine untouched fun q same => ?_
      obtain rfl := Option.some.inj (about.symm.trans same)
      exact user_ne_legacy executor provider_id
    refine ⟨?_, fun here => ?_⟩
    · rw [device, before]
      cases done.moves with
      | Nothing entries stored =>
        rw [entries, stored]
        exact synced.own
      | Written q key same entries stored =>
        obtain rfl := Option.some.inj (about.symm.trans same)
        left
        rw [entries, stored, Function.update_self, Function.update_self]
      | Forward provider same missing entries stored =>
        obtain ⟨rfl, rfl⟩ := Prod.mk.inj (Option.some.inj (about.symm.trans same))
        right
        refine ⟨rfl, ?_, ?_⟩
        · rw [stored]
          rcases synced.own with equal | ⟨_, none_stored, _⟩
          · rw [← equal, missing]
          · exact none_stored
        · rw [entries, Function.update_self, synced.legacy rfl]
    · rw [before]
      exact legacy (here.trans device)
  · have away (user : String) (inside : user ∈ s.accounts executor provider_id) :
        (act.step format quoted s).keyring.entries user = s.keyring.entries user := by
      refine untouched fun q same equal => ?_
      exact apart.asked q same (fun pair => about (pair ▸ same)) (equal ▸ inside)
    have stored : (act.step format quoted s).stored (executor, provider_id) = s.stored (executor, provider_id) := by
      cases done.moves with
      | Nothing _ stored => rw [stored]
      | Written q key same _ stored =>
        have other : (executor, provider_id) ≠ q := by
          rintro rfl
          exact about same
        rw [stored, Function.update_of_ne other]
      | Forward _ _ _ _ stored => rw [stored]
    refine ⟨?_, fun here => ?_⟩
    · rw [device, before, stored, away _ List.mem_cons_self]
      exact synced.own
    · have node : executor = s.device := here.trans device
      rw [before, away _ (by simp [accounts, node]), synced.legacy node]

theorem paired_key {executor provider_id key : String} {s : ModelState} {input : LlmConfigInput}
    (pairing : s.paired executor provider_id key = .ok input) : input.api_key = key := by
  unfold paired at pairing
  simp only at pairing
  split at pairing
  · rw [← Except.ok.inj pairing]
  · split at pairing
    · rw [← Except.ok.inj pairing]
    · split at pairing
      · cases pairing
      · rw [← Except.ok.inj pairing]

/-- A load that succeeds puts the key that was found into the executor's memory. -/
theorem load_ok {executor provider_id : String} {s t : ModelState}
    (loaded : s.load_stored_key_for quoted executor provider_id = (.ok (), t)) :
    ∃ key c, (s.keyring_get_llm_key executor provider_id).1 = .ok (some key) ∧ t.llm_config executor = some c ∧
      c.api_key = key := by
  unfold load_stored_key_for at loaded
  generalize s.keyring_get_llm_key executor provider_id = looked at loaded ⊢
  obtain ⟨_ | (_ | key), u⟩ := looked
  · cases loaded
  · cases loaded
  · simp only at loaded
    cases pairing : u.paired executor provider_id key with
    | error e => simp [pairing] at loaded
    | ok input =>
      simp only [pairing] at loaded
      by_cases refused : ¬ (readiness_of quoted input).ready
      · rw [if_pos refused] at loaded
        cases loaded
      · rw [if_neg refused] at loaded
        refine ⟨key, input, rfl, ?_, ?_⟩
        · rw [← (Prod.mk.inj loaded).2]
          split_ifs <;> exact Function.update_self executor (some input) u.llm_config
        · exact paired_key pairing

/-- The key last stored for exactly that pair, or, for the node itself where there is none,
what the build before had for the provider. -/
def LastStored (executor provider_id key : String) (s : ModelState) : Prop :=
  s.stored (executor, provider_id) = some key ∨
    executor = s.device ∧ s.stored (executor, provider_id) = none ∧ s.v099 provider_id = some key

/-- A load from an account in step with what was stored. -/
theorem load_last_stored {executor provider_id : String} {s t : ModelState} (synced : Synced executor provider_id s)
    (loaded : s.load_stored_key_for quoted executor provider_id = (.ok (), t)) :
    ∃ c, t.llm_config executor = some c ∧ LastStored executor provider_id c.api_key s := by
  obtain ⟨key, c, found, there, rfl⟩ := load_ok loaded
  refine ⟨c, there, ?_⟩
  rw [(keyring_get_spec executor provider_id s).result] at found
  unfold key_found at found
  cases first : s.keyring.answers.head?.join with
  | some e => simp [first] at found
  | none =>
    cases own : s.keyring.entries (user_for_llm_key executor provider_id) with
    | some key =>
      obtain rfl : key = c.api_key := by simpa [first, own] using found
      rcases synced.own with equal | ⟨here, unstored, equal⟩
      · exact .inl (equal.symm.trans own)
      · exact .inr ⟨here, unstored, equal.symm.trans own⟩
    | none =>
      simp only [first, own] at found
      by_cases here : executor = s.device
      · simp only [here, decide_true, Bool.not_true, Bool.false_eq_true, if_false] at found
        cases second : s.keyring.answers.tail.head?.join with
        | some e => simp only [second] at found; cases found
        | none =>
          simp only [second, Except.ok.injEq] at found
          refine .inr ⟨here, ?_, (synced.legacy here).symm.trans found⟩
          rcases synced.own with equal | ⟨_, unstored, _⟩
          · rw [← equal, own]
          · exact unstored
      · simp [here] at found

end ModelState

open Machine

/-! ### Two runs -/

/-- A node that was never configured, with an empty keyring that takes everything. -/
def ModelState.fresh (device : String) : ModelState where
  device := device
  llm_config _ := none
  persisted := false
  llm_override := false
  keyring := ⟨fun _ => none, []⟩
  host := .start "" ⟨none, none⟩ []
  stored _ := none
  v099 _ := none

def in_quotes (text : String) : String := "\"" ++ text ++ "\""

/-- A format for documents in which the configurations of executors are given as well: they
stand last, where the plain one has two braces. -/
def keyed_format : SettingsFormat :=
  { plain_format with
    to_string_pretty settings :=
      let entry (row : String × LlmConfigEntry) : String :=
        "    " ++ in_quotes row.1 ++ ": \x7b\n      \"provider_id\": " ++ in_quotes row.2.provider_id ++
          ",\n      \"base_url\": " ++ in_quotes row.2.base_url ++ ",\n      \"model\": " ++ in_quotes row.2.model ++ "\n    \x7d"
      let plain := plain_format.to_string_pretty settings
      if settings.llm_configs.rows.isEmpty then plain
      else String.ofList (plain.toList.take (plain.length - 4)) ++ "\x7b\n" ++
        String.intercalate ",\n" (settings.llm_configs.rows.map entry) ++ "\n  \x7d\n\x7d" }

/-- A key of one executor, to be remembered, and then one of another. -/
def two_executors : List ModelAct :=
  [.Set "worker-a" (some "deepseek") "sk-a" "" "" none, .Set "worker-b" (some "openai") "sk-b" "" "" none]

theorem two_executors_apart :
    Allowed (ModelAct.step keyed_format in_quotes) (ModelState.Apart in_quotes "worker-a" "deepseek")
      (ModelState.fresh "desk") two_executors := by
  have first : (ModelAct.Set "worker-a" (some "deepseek") "sk-a" "" "" none).touched in_quotes (.fresh "desk") =
      some ("worker-a", "deepseek") := by decide +kernel
  have second : (ModelAct.Set "worker-b" (some "openai") "sk-b" "" "" none).touched in_quotes
      (run (ModelAct.step keyed_format in_quotes) (.fresh "desk") (two_executors.take 1)) = some ("worker-b", "openai") := by
    decide +kernel
  have provider : ((run (ModelAct.step keyed_format in_quotes) (.fresh "desk") (two_executors.take 1)).llm_config
      "worker-a").map LlmConfigInput.provider_id = some "deepseek" := by decide +kernel
  refine ⟨⟨?_, ?_, ?_⟩, ⟨?_, ?_, ?_⟩, trivial⟩
  · intro q about other
    exact absurd (Option.some.inj (first.symm.trans about)).symm other
  · intro q c about other
    exact absurd (congrArg Prod.fst (Option.some.inj (first.symm.trans about))).symm other
  · intro here
    exact absurd here (by decide)
  · intro q about _
    obtain rfl := Option.some.inj (second.symm.trans about)
    decide +kernel
  · intro q c about _ configured
    obtain rfl := Option.some.inj (second.symm.trans about)
    obtain same : c.provider_id = "deepseek" := Option.some.inj ((congrArg (Option.map _) configured).symm.trans provider)
    rw [same]
    decide +kernel
  · intro here
    exact absurd here (by decide +kernel)

/-- In every run of saves, loads, clears and look-ups that keep away from an executor and one
of its providers, an operation of another executor changes nothing of what is answered about
it, and a load puts the key in memory that was last stored for exactly that pair. -/
theorem models_isolated (format : SettingsFormat) (quoted : String → String) (executor provider_id : String)
    (s : ModelState) (acts : List ModelAct) (synced : s.Synced executor provider_id)
    (apart : Allowed (ModelAct.step format quoted) (ModelState.Apart quoted executor provider_id) s acts) :
    (∀ before act after, acts = before ++ act :: after → act.executor ≠ executor → ∀ answers,
      (run (ModelAct.step format quoted) s (before ++ [act])).observed quoted executor provider_id answers =
        (run (ModelAct.step format quoted) s before).observed quoted executor provider_id answers) ∧
    ∀ before after t, acts = before ++ after →
      (run (ModelAct.step format quoted) s before).load_stored_key_for quoted executor provider_id = (.ok (), t) →
      ∃ c, t.llm_config executor = some c ∧
        (run (ModelAct.step format quoted) s before).LastStored executor provider_id c.api_key := by
  constructor
  · rintro before act after rfl other answers
    rw [run_append]
    exact ModelState.step_isolated other ((allowed_append _ _ _).mp apart).2.1 answers
  · rintro before after t rfl loaded
    have keeps (u : ModelState) (act : ModelAct) (kept : u.Synced executor provider_id)
        (away : u.Apart quoted executor provider_id act) : (act.step format quoted u).Synced executor provider_id :=
      ModelState.step_synced kept away
    exact ModelState.load_last_stored (run_keeps keeps synced ((allowed_append _ _ _).mp apart).1) loaded

/-- The second executor's key is another's: the first one's configuration stays, and its own
key is loaded for it. -/
theorem models_isolated_apart :
    (∀ before act after, two_executors = before ++ act :: after → act.executor ≠ "worker-a" → ∀ answers,
      (run (ModelAct.step keyed_format in_quotes) (.fresh "desk") (before ++ [act])).observed in_quotes "worker-a"
          "deepseek" answers =
        (run (ModelAct.step keyed_format in_quotes) (.fresh "desk") before).observed in_quotes "worker-a" "deepseek" answers) ∧
    ∀ before after t, two_executors = before ++ after →
      (run (ModelAct.step keyed_format in_quotes) (.fresh "desk") before).load_stored_key_for in_quotes "worker-a"
        "deepseek" = (.ok (), t) →
      ∃ c, t.llm_config "worker-a" = some c ∧
        (run (ModelAct.step keyed_format in_quotes) (.fresh "desk") before).LastStored "worker-a" "deepseek" c.api_key :=
  models_isolated keyed_format in_quotes "worker-a" "deepseek" (.fresh "desk") two_executors
    ⟨.inl rfl, fun _ => rfl⟩ two_executors_apart

/-- A key of the node itself, remembered, and a worker's, not remembered. -/
def forgetful_worker : List ModelAct :=
  [.Set "desk" (some "deepseek") "sk-1" "" "" (some true), .Set "worker-a" (some "openai") "sk-2" "" "" (some false)]

/-- Two pairs that stand under one account. -/
def one_account : List ModelAct :=
  [.Set "a:b" (some "c") "sk-1" "http://localhost:8080" "m" none, .Set "a" (some "b:c") "sk-2" "http://localhost:8080" "m" none]

/-- Of the node itself it is told that its key is not remembered, once a worker's is not; and
of two pairs under one account the key of the one is loaded for the other. -/
theorem models_mixed :
    ((run (ModelAct.step keyed_format in_quotes) (.fresh "desk") (forgetful_worker.take 1)).llm_config_status_for
        "desk").persisted = true ∧
    ((run (ModelAct.step keyed_format in_quotes) (.fresh "desk") forgetful_worker).llm_config_status_for
        "desk").persisted = false ∧
    (run (ModelAct.step keyed_format in_quotes) (.fresh "desk") one_account).stored ("a:b", "c") = some "sk-1" ∧
    (let loaded := (run (ModelAct.step keyed_format in_quotes) (.fresh "desk") one_account).load_stored_key_for
        in_quotes "a:b" "c"
     (loaded.1.toOption, (loaded.2.llm_config "a:b").map LlmConfigInput.api_key) = (some (), some "sk-2")) := by
  refine ⟨?_, ?_, ?_, ?_⟩ <;> decide +kernel

end Riscdom.Core
