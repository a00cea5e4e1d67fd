import Riscdom.ModelConfigs

/-!
Forgetting an executor's key. Which entry of the keyring is deleted is taken from
the configuration in memory alone, and a restart empties the memory while the
keyring and the settings keep what they had.
-/
namespace Riscdom.Core
open Agent Machine

namespace ModelState

/-- The next process of the host: its memory empty, its settings read from the file, the keyring as it was. Where reading
    the file panics there is nothing in the settings. -/
def restarted (format : SettingsFormat) (s : ModelState) : ModelState :=
  let host := SettingsState.start s.host.data_dir s.host.disk s.host.writes
  { s with llm_config := fun _ => none, persisted := false, llm_override := false,
           host := (host.load_settings format).getD host }

/-- The provider of the configuration an executor has, in memory or persisted. -/
def LastHad (executor provider_id : String) (s : ModelState) : Prop :=
  (∃ c, s.llm_config executor = some c ∧ c.provider_id = provider_id) ∨
    ∃ row, s.host.settings.llm_configs.find executor = some row ∧ row.2.provider_id = provider_id

/-- After a clear the keyring has no entry for the executor and a provider it last had, and the next process reports no
    stored key for the executor, whatever the keyring answers. -/
structure Forgets (format : SettingsFormat) (executor : String) (s : ModelState) : Prop where
  deleted : ∀ provider_id, s.LastHad executor provider_id →
    (s.clear_llm_config_for format executor).keyring.entries (user_for_llm_key executor provider_id) = none
  unreported : ∀ provider_id answers,
    ((((s.clear_llm_config_for format executor).restarted format).asked answers).has_stored_key_for executor provider_id).1 =
      false

/-- The entries that a look-up of the executor's keys reads are all one: that of the provider it is configured for in memory,
    if the keyring takes its deletion. -/
def OneEntry (executor : String) (s : ModelState) : Prop :=
  ∀ provider_id, ∀ user ∈ s.accounts executor provider_id, s.keyring.entries user ≠ none →
    ∃ c, s.llm_config executor = some c ∧ user = user_for_llm_key executor c.provider_id ∧ s.keyring.answer = none

end ModelState

/-- What the history of a host is made of. -/
inductive HostAct
  | Set (executor : String) (provider_id : Option String) (api_key base_url model : String) (remember : Option Bool)
  | Load (executor provider_id : String)
  | Restart

def HostAct.step (format : SettingsFormat) (quoted : String → String) (s : ModelState) : HostAct → ModelState
  | Set executor provider_id api_key base_url model remember =>
    (s.set_llm_config_with_for format quoted executor provider_id api_key base_url model remember).2
  | Load executor provider_id => (s.load_stored_key_for quoted executor provider_id).2
  | Restart => s.restarted format

namespace ModelState
variable {format : SettingsFormat} {executor : String}

/-- A clear deletes the entry of the provider in memory, if the keyring takes it, and no other. -/
theorem clear_entries (format : SettingsFormat) (executor : String) (s : ModelState) (user : String) :
    (s.clear_llm_config_for format executor).keyring.entries user =
      if ∃ c, s.llm_config executor = some c ∧ user = user_for_llm_key executor c.provider_id ∧ s.keyring.answer = none
      then none else s.keyring.entries user := by
  have after (t : ModelState) (u : ModelState)
      (same : u = if executor = t.local_executor_id then { t with persisted := false } else t) :
      u.keyring = t.keyring := by
    rw [same]
    split_ifs <;> rfl
  rw [clear_llm_config_for]
  cases config : s.llm_config executor with
  | none =>
    rw [after _ _ rfl]
    simp
  | some c =>
    rw [after _ _ rfl]
    simp only [Option.map_some, keyring_delete, Keyring.put, Keyring.answer, Option.some.injEq, exists_eq_left']
    cases answer : s.keyring.answers.head?.join with
    | some e => simp
    | none =>
      by_cases same : user = user_for_llm_key executor c.provider_id
      · simp [same, emit_host]
      · simp [same, emit_host]

/-- Nothing is found where there is nothing under the accounts that are read. -/
theorem key_found_nothing (legacy : Option String) (is_local : Bool) (absent : is_local = true → legacy = none)
    (answers : List (Option String)) (key : String) : key_found none legacy is_local answers ≠ .ok (some key) := by
  unfold key_found
  cases answers.head?.join with
  | some e => simp
  | none =>
    cases is_local with
    | false => simp
    | true =>
      rw [absent rfl]
      cases answers.tail.head?.join <;> simp

/-- A keyring that answers finds what is there. -/
theorem key_found_there (own legacy : Option String) (is_local : Bool) :
    key_found own legacy is_local [] = .ok (own.or (if is_local then legacy else none)) := by
  cases own with
  | some key => rfl
  | none => cases is_local <;> rfl

/-- Where nothing is looked up under an account that has an entry, no key is reported. -/
theorem unreported_iff (provider_id : String) (s : ModelState) :
    (∀ answers, ((s.asked answers).has_stored_key_for executor provider_id).1 = false) ↔
      ∀ user ∈ s.accounts executor provider_id, s.keyring.entries user = none := by
  have reported (answers : List (Option String)) := stored_asked executor provider_id answers s
  constructor
  · intro silent
    have quiet := silent []
    rw [reported, key_found_there] at quiet
    intro user inside
    rcases List.mem_cons.mp inside with rfl | older
    · cases own : s.keyring.entries (user_for_llm_key executor provider_id) with
      | none => rfl
      | some key => simp [own] at quiet
    · by_cases here : executor = s.device
      · rw [if_pos here] at older
        obtain rfl := List.mem_singleton.mp older
        cases legacy : s.keyring.entries (legacy_user_for_provider provider_id) with
        | none => rfl
        | some key => cases s.keyring.entries (user_for_llm_key executor provider_id) <;> simp [legacy, here] at quiet
      · rw [if_neg here] at older
        cases older
  · intro empty answers
    have own := empty _ List.mem_cons_self
    have absent (here : decide (executor = s.device) = true) : s.keyring.entries (legacy_user_for_provider provider_id) = none :=
      empty _ (by simp [accounts, of_decide_eq_true here])
    rw [reported, own]
    cases found : key_found none (s.keyring.entries (legacy_user_for_provider provider_id)) (executor = s.device) answers with
    | error e => rfl
    | ok key =>
      cases key with
      | none => rfl
      | some key => exact absurd found (key_found_nothing _ _ absent answers key)

theorem forgets_iff (s : ModelState) : s.Forgets format executor ↔ s.OneEntry executor := by
  have looked (provider_id : String) :
      ((s.clear_llm_config_for format executor).restarted format).accounts executor provider_id =
        s.accounts executor provider_id := by
    have frame : Frame executor s (s.clear_llm_config_for format executor) :=
      (@done_clear format id executor s).frame
    rw [accounts, accounts, restarted, frame.device]
  have kept (user : String) : ((s.clear_llm_config_for format executor).restarted format).keyring.entries user =
      (s.clear_llm_config_for format executor).keyring.entries user := rfl
  constructor
  · intro forgets provider_id user inside present
    have gone := (unreported_iff provider_id _).mp (forgets.unreported provider_id) user (by rwa [looked])
    rw [kept, clear_entries] at gone
    by_contra other
    rw [if_neg other] at gone
    exact present gone
  · intro one
    have gone (provider_id user : String) (inside : user ∈ s.accounts executor provider_id) :
        (s.clear_llm_config_for format executor).keyring.entries user = none := by
      rw [clear_entries]
      split_ifs with last
      · rfl
      · by_contra present
        exact last (one provider_id user inside present)
    refine ⟨fun provider_id _ => gone provider_id _ List.mem_cons_self, fun provider_id => ?_⟩
    refine (unreported_iff provider_id _).mpr fun user inside => ?_
    rw [looked] at inside
    exact gone provider_id user inside

end ModelState

/-- In every history of saves, loads and restarts, a clear forgets the executor's key exactly where the keyring has no entry
    for it but that of the provider it is configured for in memory, and takes its deletion. -/
theorem key_forgotten_iff (format : SettingsFormat) (quoted : String → String) (executor : String) (start : ModelState)
    (acts : List HostAct) :
    (run (HostAct.step format quoted) start acts).Forgets format executor ↔
      (run (HostAct.step format quoted) start acts).OneEntry executor :=
  ModelState.forgets_iff _

/-- A key that is remembered, and a restart. -/
def remembered_then_restarted : List HostAct :=
  [.Set "desk" (some "deepseek") "sk-1" "" "" (some true), .Restart]

theorem remembered_kept :
    (run (HostAct.step keyed_format in_quotes) (.fresh "desk") remembered_then_restarted).keyring.entries
        (user_for_llm_key "desk" "deepseek") = some "sk-1" ∧
      (run (HostAct.step keyed_format in_quotes) (.fresh "desk") remembered_then_restarted).llm_config "desk" = none := by
  refine ⟨?_, ?_⟩ <;> decide +kernel

/-- The next process has no configuration in memory, and the clear leaves the key in the keyring. -/
theorem restart_keeps_key :
    ¬ ∀ (format : SettingsFormat) (quoted : String → String) (executor : String) (start : ModelState) (acts : List HostAct),
      (∀ provider_id, start.keyring.entries (legacy_user_for_provider provider_id) = none) →
      (run (HostAct.step format quoted) start acts).Forgets format executor := by
  intro forgets
  obtain ⟨entry, memory⟩ := remembered_kept
  have one := ModelState.forgets_iff _ |>.mp
    (forgets keyed_format in_quotes "desk" (.fresh "desk") remembered_then_restarted fun _ => rfl)
  obtain ⟨c, config, _⟩ := one "deepseek" (user_for_llm_key "desk" "deepseek") List.mem_cons_self (by rw [entry]; nofun)
  rw [memory] at config
  cases config

end Riscdom.Core
