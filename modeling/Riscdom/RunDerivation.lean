import Riscdom.KeyedTable
import Riscdom.RunRecords

/-!
The reduction of a chain to its run rows, step by step: no run stands in two
rows, a start of a new run adds its row, and an end or an abandonment rewrites
the row of the run it names while that run has no end.
-/
namespace Riscdom.Audit
open Riscdom.Json Riscdom.KeyedTable

abbrev RunTable : Type := Table RunRecord.run_id

/-! ### Rewriting the first row that fits -/

section UpdateFirst
variable {fits : RunRecord → Bool} {rewrite : RunRecord → RunRecord} {rows : List RunRecord}

theorem update_first_eq_none : update_first fits rewrite rows = none ↔ ∀ row ∈ rows, fits row = false := by
  induction rows with
  | nil => simp [update_first]
  | cons row rest ih =>
    rw [update_first]
    cases fit : fits row with
    | true => simp [fit]
    | false => simp [fit, ih]

/-- The ids stay where they are. -/
theorem update_first_ids (keeps : ∀ row, (rewrite row).run_id = row.run_id) {after : List RunRecord}
    (updated : update_first fits rewrite rows = some after) : after.map RunRecord.run_id = rows.map RunRecord.run_id := by
  induction rows generalizing after with
  | nil => cases updated
  | cons row rest ih =>
    rw [update_first] at updated
    cases fit : fits row with
    | true =>
      rw [if_pos fit] at updated
      cases updated
      simp [keeps]
    | false =>
      rw [fit] at updated
      cases tail : update_first fits rewrite rest with
      | none =>
        rw [tail] at updated
        cases updated
      | some others =>
        rw [tail] at updated
        cases updated
        simp [ih tail]

/-- Every row stands for one that stood there. -/
theorem update_first_mem {row : RunRecord} (inside : row ∈ (update_first fits rewrite rows).getD rows) :
    ∃ old ∈ rows, row = old ∨ row = rewrite old := by
  induction rows with
  | nil => cases inside
  | cons head rest ih =>
    rw [update_first] at inside
    cases fit : fits head with
    | true =>
      rw [if_pos fit, Option.getD_some] at inside
      rcases List.mem_cons.mp inside with rfl | later
      · exact ⟨head, List.mem_cons_self, .inr rfl⟩
      · exact ⟨row, List.mem_cons_of_mem _ later, .inl rfl⟩
    | false =>
      rw [fit] at inside
      have tail : row = head ∨ row ∈ (update_first fits rewrite rest).getD rest := by
        cases updated : update_first fits rewrite rest with
        | none =>
          rw [updated] at inside
          exact List.mem_cons.mp inside
        | some others =>
          rw [updated] at inside
          exact List.mem_cons.mp inside
      rcases tail with rfl | later
      · exact ⟨row, List.mem_cons_self, .inl rfl⟩
      · obtain ⟨old, member, made⟩ := ih later
        exact ⟨old, List.mem_cons_of_mem _ member, made⟩

/-- Where the rows that fit have one id, what is found under it is rewritten if it fits, and nothing else is. -/
theorem update_first_find {run_id : String} (keeps : ∀ row, (rewrite row).run_id = row.run_id)
    (named : ∀ row, fits row = true → row.run_id = run_id) {after : List RunRecord}
    (updated : update_first fits rewrite rows = some after) (other : String) :
    after.find? (fun row => row.run_id = other) =
      if other = run_id then (rows.find? fun row => row.run_id = other).map fun row => if fits row then rewrite row else row
      else rows.find? fun row => row.run_id = other := by
  induction rows generalizing after with
  | nil => cases updated
  | cons row rest ih =>
    rw [update_first] at updated
    cases fit : fits row with
    | true =>
      rw [if_pos fit] at updated
      cases updated
      have here := named row fit
      by_cases same : other = run_id
      · subst same
        simp [keeps, here, fit]
      · have differs : ¬ run_id = other := fun equal => same equal.symm
        simp [keeps, here, same, differs]
    | false =>
      rw [fit] at updated
      cases tail : update_first fits rewrite rest with
      | none =>
        rw [tail] at updated
        cases updated
      | some others =>
        rw [tail] at updated
        cases updated
        by_cases here : row.run_id = other
        · by_cases same : other = run_id
          · simp [here, same, fit]
          · simp [here, same]
        · have found := ih tail
          simp only [List.find?_cons, here, decide_false]
          exact found

end UpdateFirst

/-! ### One step -/

/-- The rows after one event of the chain. -/
def derive_row_step (rows : List RunRecord) (stored : StoredEvent) : List RunRecord :=
  (derive_step (rows, ⟨0, 0, 0, 0, 0⟩) stored).1

/-- What was counted does not matter to the rows. -/
theorem derive_step_rows (rows : List RunRecord) (report : RebuildReport) (stored : StoredEvent) :
    (derive_step (rows, report) stored).1 = derive_row_step rows stored := by
  unfold derive_row_step derive_step
  simp only
  by_cases start : stored.event.action = ACTION_RUN_START
  · rw [if_pos start, if_pos start]
    cases parse_run_start stored.event.detail with
    | error error => rfl
    | ok payload =>
      simp only
      split_ifs <;> rfl
  · rw [if_neg start, if_neg start]
    by_cases ended : stored.event.action = ACTION_RUN_END
    · rw [if_pos ended, if_pos ended]
      cases parse_run_end stored.event.detail with
      | error error => rfl
      | ok payload =>
        simp only
        split <;> rfl
    · rw [if_neg ended, if_neg ended]
      by_cases abandoned : stored.event.action = ACTION_RUN_ABANDONED
      · rw [if_pos abandoned, if_pos abandoned]
        split <;> rfl
      · rw [if_neg abandoned, if_neg abandoned]

theorem derive_runs_from_rows (events : List StoredEvent) : (derive_runs_from events).1 = events.foldl derive_row_step [] := by
  have folded : ∀ (rows : List RunRecord) (report : RebuildReport),
      (events.foldl derive_step (rows, report)).1 = events.foldl derive_row_step rows := by
    induction events with
    | nil => intro rows report; rfl
    | cons event rest ih =>
      intro rows report
      have step := derive_step_rows rows report event
      rw [List.foldl_cons, List.foldl_cons, ← step]
      exact ih _ _
  exact folded [] ⟨0, 0, 0, 0, 0⟩

section Step
variable {rows : List RunRecord} {stored : StoredEvent}

/-- A run that is not told yet is added by its start. -/
theorem row_step_start {payload : RunStartPayload} (action : stored.event.action = ACTION_RUN_START)
    (parsed : parse_run_start stored.event.detail = .ok payload) (new : ∀ row ∈ rows, row.run_id ≠ payload.run_id) :
    derive_row_step rows stored = rows ++ [.opened payload stored] := by
  have absent : rows.any (·.run_id == payload.run_id) = false := by simpa using new
  unfold derive_row_step derive_step
  simp [action, parsed, absent]

/-- The row of a run that has no end yet. -/
def Unended (run_id : String) (row : RunRecord) : Bool := row.run_id == run_id && row.end_seq.isNone

def RunRecord.ended (stored : StoredEvent) (status : RunStatus) (row : RunRecord) : RunRecord :=
  { row with end_seq := some stored.id, ended_at_ms := some stored.event.timestamp_ms, status }

def RunRecord.abandoned (row : RunRecord) : RunRecord := { row with status := .Abandoned }

theorem row_step_end {payload : RunEndPayload} (action : stored.event.action = ACTION_RUN_END)
    (parsed : parse_run_end stored.event.detail = .ok payload) :
    derive_row_step rows stored =
      (update_first (Unended payload.run_id) (RunRecord.ended stored payload.status) rows).getD rows := by
  have other : ¬ ACTION_RUN_END = ACTION_RUN_START := by decide
  unfold derive_row_step derive_step
  simp only [action, other, if_false, if_true, parsed]
  split
  · next after updated =>
    rw [show update_first (Unended payload.run_id) (RunRecord.ended stored payload.status) rows = some after from updated]
    rfl
  · next updated =>
    rw [show update_first (Unended payload.run_id) (RunRecord.ended stored payload.status) rows = none from updated]
    rfl

theorem row_step_abandoned (action : stored.event.action = ACTION_RUN_ABANDONED) :
    derive_row_step rows stored =
      (update_first (Unended ((text_at "run_id" stored.event.detail).getD "")) RunRecord.abandoned rows).getD rows := by
  have not_start : ¬ ACTION_RUN_ABANDONED = ACTION_RUN_START := by decide
  have not_end : ¬ ACTION_RUN_ABANDONED = ACTION_RUN_END := by decide
  unfold derive_row_step derive_step
  simp only [action, not_start, not_end, if_false, if_true]
  split
  · next after updated =>
    rw [show update_first (Unended ((text_at "run_id" stored.event.detail).getD "")) RunRecord.abandoned rows = some after
      from updated]
    rfl
  · next updated =>
    rw [show update_first (Unended ((text_at "run_id" stored.event.detail).getD "")) RunRecord.abandoned rows = none
      from updated]
    rfl

/-- A marker of a run's life. -/
def RunMarker (action : String) : Prop :=
  action = ACTION_RUN_START ∨ action = ACTION_RUN_END ∨ action = ACTION_RUN_ABANDONED

instance (action : String) : Decidable (RunMarker action) := inferInstanceAs (Decidable (_ ∨ _ ∨ _))

theorem row_step_other (other : ¬ RunMarker stored.event.action) : derive_row_step rows stored = rows := by
  rw [RunMarker, not_or, not_or] at other
  obtain ⟨not_start, not_end, not_abandoned⟩ := other
  unfold derive_row_step derive_step
  simp only
  rw [if_neg not_start, if_neg not_end, if_neg not_abandoned]

/-- All that one event can do to the rows. -/
theorem row_step_cases (rows : List RunRecord) (stored : StoredEvent) :
    derive_row_step rows stored = rows ∨
      (∃ payload, stored.event.action = ACTION_RUN_START ∧ parse_run_start stored.event.detail = .ok payload ∧
        (∀ row ∈ rows, row.run_id ≠ payload.run_id) ∧ derive_row_step rows stored = rows ++ [.opened payload stored]) ∨
      (∃ payload, stored.event.action = ACTION_RUN_END ∧ parse_run_end stored.event.detail = .ok payload ∧
        derive_row_step rows stored =
          (update_first (Unended payload.run_id) (RunRecord.ended stored payload.status) rows).getD rows) ∨
      (stored.event.action = ACTION_RUN_ABANDONED ∧ derive_row_step rows stored =
        (update_first (Unended ((text_at "run_id" stored.event.detail).getD "")) RunRecord.abandoned rows).getD rows) := by
  by_cases start : stored.event.action = ACTION_RUN_START
  · cases parsed : parse_run_start stored.event.detail with
    | error error =>
      left
      unfold derive_row_step derive_step
      simp only [start, if_true, parsed]
    | ok payload =>
      by_cases new : ∀ row ∈ rows, row.run_id ≠ payload.run_id
      · exact .inr (.inl ⟨payload, start, rfl, new, row_step_start start parsed new⟩)
      · left
        have told : rows.any (·.run_id == payload.run_id) = true := by simpa using new
        unfold derive_row_step derive_step
        simp only [start, if_true, parsed, told]
  · by_cases ended : stored.event.action = ACTION_RUN_END
    · cases parsed : parse_run_end stored.event.detail with
      | error error =>
        left
        unfold derive_row_step derive_step
        simp only [ended, parsed, if_true]
        rw [if_neg (by decide)]
      | ok payload => exact .inr (.inr (.inl ⟨payload, ended, rfl, row_step_end ended parsed⟩))
    · by_cases abandoned : stored.event.action = ACTION_RUN_ABANDONED
      · exact .inr (.inr (.inr ⟨abandoned, row_step_abandoned abandoned⟩))
      · exact .inl (row_step_other (by simp [RunMarker, start, ended, abandoned]))

theorem updated_distinct {fits : RunRecord → Bool} {rewrite : RunRecord → RunRecord}
    (keeps : ∀ row, (rewrite row).run_id = row.run_id) (distinct : (rows.map RunRecord.run_id).Nodup) :
    (((update_first fits rewrite rows).getD rows).map RunRecord.run_id).Nodup := by
  cases updated : update_first fits rewrite rows with
  | none => exact distinct
  | some after =>
    rw [Option.getD_some, update_first_ids keeps updated]
    exact distinct

/-- No run stands in two rows. -/
theorem row_step_distinct (distinct : (rows.map RunRecord.run_id).Nodup) :
    ((derive_row_step rows stored).map RunRecord.run_id).Nodup := by
  rcases row_step_cases rows stored with same | ⟨payload, _, _, new, added⟩ | ⟨payload, _, _, ended⟩ | ⟨_, abandoned⟩
  · rw [same]
    exact distinct
  · rw [added, List.map_append]
    refine List.nodup_append.mpr ⟨distinct, List.nodup_singleton _, ?_⟩
    intro id inside other last same
    obtain ⟨row, member, rfl⟩ := List.mem_map.mp inside
    rw [List.map_singleton, List.mem_singleton] at last
    exact new row member (same.trans last)
  · rw [ended]
    exact updated_distinct (fun _ => rfl) distinct
  · rw [abandoned]
    exact updated_distinct (fun _ => rfl) distinct

end Step

/-! ### The runs of a chain -/

/-- The runs a chain tells of, no id twice. -/
def derived (events : List StoredEvent) : RunTable where
  rows := (derive_runs_from events).1
  distinct := by
    have folded : ∀ rows : List RunRecord, (rows.map RunRecord.run_id).Nodup →
        ((events.foldl derive_row_step rows).map RunRecord.run_id).Nodup := by
      induction events with
      | nil => intro rows distinct; exact distinct
      | cons event rest ih =>
        intro rows distinct
        exact ih _ (row_step_distinct distinct)
    rw [derive_runs_from_rows]
    exact folded [] List.nodup_nil

theorem derived_append (events more : List StoredEvent) :
    (derived (events ++ more)).rows = more.foldl derive_row_step (derived events).rows := by
  simp only [derived, derive_runs_from_rows, List.foldl_append]

/-- A start of a run that was not told puts its row under its id. -/
theorem find_derived_start (events : List StoredEvent) (stored : StoredEvent) {payload : RunStartPayload}
    (action : stored.event.action = ACTION_RUN_START) (parsed : parse_run_start stored.event.detail = .ok payload)
    (new : (derived events).find payload.run_id = none) (run_id : String) :
    (derived (events ++ [stored])).find run_id =
      if run_id = payload.run_id then some (.opened payload stored) else (derived events).find run_id := by
  have rows : (derived (events ++ [stored])).rows = (derived events).rows ++ [.opened payload stored] := by
    rw [derived_append, List.foldl_cons, List.foldl_nil]
    exact row_step_start action parsed (Table.find_eq_none.mp new)
  have split : (derived (events ++ [stored])).find run_id =
      ((derived events).find run_id).or ([RunRecord.opened payload stored].find? fun row => row.run_id = run_id) := by
    rw [Table.find, rows]
    exact List.find?_append
  rw [split]
  by_cases same : run_id = payload.run_id
  · simp [same, new, RunRecord.opened]
  · have differs : ¬ payload.run_id = run_id := fun equal => same equal.symm
    simp [same, RunRecord.opened, differs]

/-- What is found once the row of a run was rewritten where it has no end. -/
theorem find_unended {rows : List RunRecord} {run_id : String} {rewrite : RunRecord → RunRecord}
    (keeps : ∀ row, (rewrite row).run_id = row.run_id) (other : String) :
    ((update_first (Unended run_id) rewrite rows).getD rows).find? (fun row => row.run_id = other) =
      if other = run_id then
        (rows.find? fun row => row.run_id = other).map fun row => if row.end_seq.isNone then rewrite row else row
      else rows.find? fun row => row.run_id = other := by
  have named : ∀ row, Unended run_id row = true → row.run_id = run_id := by
    intro row fits
    rw [Unended, Bool.and_eq_true] at fits
    simpa using fits.1
  -- A row found under the id fits exactly when it has no end.
  have under (found : RunRecord) (here : rows.find? (fun row => row.run_id = other) = some found) (same : other = run_id) :
      Unended run_id found = found.end_seq.isNone := by
    have id : found.run_id = other := by simpa using List.find?_some here
    simp [Unended, id, same]
  cases updated : update_first (Unended run_id) rewrite rows with
  | some after =>
    rw [Option.getD_some, update_first_find keeps named updated other]
    by_cases same : other = run_id
    · rw [if_pos same, if_pos same]
      cases here : rows.find? (fun row => row.run_id = other) with
      | none => rfl
      | some found => rw [Option.map_some, Option.map_some, under found here same]
    · rw [if_neg same, if_neg same]
  | none =>
    rw [Option.getD_none]
    by_cases same : other = run_id
    · rw [if_pos same]
      cases here : rows.find? (fun row => row.run_id = other) with
      | none => rfl
      | some found =>
        have unfit := update_first_eq_none.mp updated found (List.mem_of_find?_eq_some here)
        rw [under found here same] at unfit
        rw [Option.map_some, unfit]
        rfl
    · rw [if_neg same]

/-- An end rewrites the row of the run it names, where that has no end. -/
theorem find_derived_end (events : List StoredEvent) (stored : StoredEvent) {payload : RunEndPayload}
    (action : stored.event.action = ACTION_RUN_END) (parsed : parse_run_end stored.event.detail = .ok payload)
    (run_id : String) :
    (derived (events ++ [stored])).find run_id =
      if run_id = payload.run_id then
        ((derived events).find run_id).map fun row =>
          if row.end_seq.isNone then RunRecord.ended stored payload.status row else row
      else (derived events).find run_id := by
  have rows : (derived (events ++ [stored])).rows =
      (update_first (Unended payload.run_id) (RunRecord.ended stored payload.status) (derived events).rows).getD
        (derived events).rows := by
    rw [derived_append, List.foldl_cons, List.foldl_nil]
    exact row_step_end action parsed
  have keeps : ∀ row, (RunRecord.ended stored payload.status row).run_id = row.run_id := fun _ => rfl
  rw [Table.find, rows]
  exact find_unended keeps run_id

/-- Events that leave the rows of a chain as they are. -/
theorem find_derived_same (events : List StoredEvent) {more : List StoredEvent}
    (same : ∀ stored ∈ more, derive_row_step (derived events).rows stored = (derived events).rows) (run_id : String) :
    (derived (events ++ more)).find run_id = (derived events).find run_id := by
  have rows : (derived (events ++ more)).rows = (derived events).rows := by
    rw [derived_append]
    induction more with
    | nil => rfl
    | cons stored rest ih =>
      rw [List.foldl_cons, same stored List.mem_cons_self]
      exact ih fun other inside => same other (List.mem_cons_of_mem _ inside)
  rw [Table.find, Table.find, rows]

/-! ### Runs that are known, and runs that have ended -/

/-- The event starts the run. -/
def Starts (run_id : String) (stored : StoredEvent) : Prop :=
  stored.event.action = ACTION_RUN_START ∧ ∃ payload, parse_run_start stored.event.detail = .ok payload ∧ payload.run_id = run_id

/-- The event ends the run. -/
def Ends (run_id : String) (stored : StoredEvent) : Prop :=
  stored.event.action = ACTION_RUN_END ∧ ∃ payload, parse_run_end stored.event.detail = .ok payload ∧ payload.run_id = run_id

/-- The event abandons the run. -/
def Abandons (run_id : String) (stored : StoredEvent) : Prop :=
  stored.event.action = ACTION_RUN_ABANDONED ∧ text_at "run_id" stored.event.detail = some run_id

theorem derived_snoc (events : List StoredEvent) (stored : StoredEvent) :
    (derived (events ++ [stored])).rows = derive_row_step (derived events).rows stored := by
  rw [derived_append, List.foldl_cons, List.foldl_nil]

/-- A run that is known stays known, and once ended it stays ended. -/
theorem find_derived_later {events : List StoredEvent} {run_id : String} {row : RunRecord}
    (known : (derived events).find run_id = some row) (stored : StoredEvent) :
    ∃ later, (derived (events ++ [stored])).find run_id = some later ∧ (row.end_seq ≠ none → later.end_seq ≠ none) := by
  have rewritten (named : String) (rewrite : RunRecord → RunRecord) (keeps : ∀ r, (rewrite r).run_id = r.run_id)
      (rows : (derived (events ++ [stored])).rows =
        (update_first (Unended named) rewrite (derived events).rows).getD (derived events).rows) :
      ∃ later, (derived (events ++ [stored])).find run_id = some later ∧ (row.end_seq ≠ none → later.end_seq ≠ none) := by
    have found : (derived (events ++ [stored])).find run_id =
        if run_id = named then
          ((derived events).rows.find? fun r => r.run_id = run_id).map fun r => if r.end_seq.isNone then rewrite r else r
        else (derived events).rows.find? fun r => r.run_id = run_id := by
      rw [Table.find, rows]
      exact find_unended keeps run_id
    rw [show (derived events).rows.find? (fun r => r.run_id = run_id) = some row from known] at found
    by_cases same : run_id = named
    · rw [if_pos same, Option.map_some] at found
      cases at_seq : row.end_seq with
      | none => exact ⟨_, found, fun ended => absurd rfl ended⟩
      | some seq =>
        rw [at_seq] at found
        exact ⟨row, found, fun _ => by simp [at_seq]⟩
    · rw [if_neg same] at found
      exact ⟨row, found, id⟩
  rcases row_step_cases (derived events).rows stored with same | ⟨payload, action, parsed, new, _⟩ | ⟨payload, _, _, ended⟩ |
    ⟨_, abandoned⟩
  · refine ⟨row, ?_, id⟩
    rw [Table.find, derived_snoc, same]
    exact known
  · refine ⟨row, ?_, id⟩
    have differs : run_id ≠ payload.run_id := by
      rintro rfl
      rw [Table.find_eq_none.mpr new] at known
      cases known
    rw [find_derived_start events stored action parsed (Table.find_eq_none.mpr new), if_neg differs]
    exact known
  · exact rewritten payload.run_id (RunRecord.ended stored payload.status) (fun _ => rfl) (by rw [derived_snoc, ended])
  · exact rewritten _ RunRecord.abandoned (fun _ => rfl) (by rw [derived_snoc, abandoned])

/-- A run that was started is known. -/
theorem derived_knows {events : List StoredEvent} {run_id : String} {stored : StoredEvent} (inside : stored ∈ events)
    (starts : Starts run_id stored) : ∃ row, (derived events).find run_id = some row := by
  induction events using List.reverseRecOn with
  | nil => cases inside
  | append_singleton events last ih =>
    rcases List.mem_append.mp inside with old | new
    · obtain ⟨row, known⟩ := ih old
      obtain ⟨later, found, _⟩ := find_derived_later known last
      exact ⟨later, found⟩
    · rw [List.mem_singleton] at new
      subst new
      obtain ⟨action, payload, parsed, rfl⟩ := starts
      cases known : (derived events).find payload.run_id with
      | some row =>
        obtain ⟨later, found, _⟩ := find_derived_later known stored
        exact ⟨later, found⟩
      | none =>
        refine ⟨.opened payload stored, ?_⟩
        rw [find_derived_start events stored action parsed known, if_pos rfl]

/-- A run whose start is followed by its end has ended. -/
theorem derived_ended {events : List StoredEvent} {run_id : String} {first second : StoredEvent}
    (order : [first, second].Sublist events) (starts : Starts run_id first) (ends : Ends run_id second) :
    ∃ row, (derived events).find run_id = some row ∧ row.end_seq ≠ none := by
  induction events using List.reverseRecOn with
  | nil => cases order
  | append_singleton events last ih =>
    obtain ⟨early, late, split, before, after⟩ := List.sublist_append_iff.mp order
    rcases late with _ | ⟨one, _ | ⟨two, more⟩⟩
    · rw [List.append_nil] at split
      rw [← split] at before
      obtain ⟨row, known, ended⟩ := ih before
      obtain ⟨later, found, kept⟩ := find_derived_later known last
      exact ⟨later, found, kept ended⟩
    · obtain ⟨rfl, rfl⟩ : early = [first] ∧ one = second := by
        have halves := List.append_inj' (show [first] ++ [second] = early ++ [one] from split) rfl
        exact ⟨halves.1.symm, (List.cons.inj halves.2).1.symm⟩
      have same : one = last := List.mem_singleton.mp (after.subset (List.mem_singleton.mpr rfl))
      subst same
      obtain ⟨row, known⟩ := derived_knows (before.subset (List.mem_singleton.mpr rfl)) starts
      obtain ⟨action, payload, parsed, rfl⟩ := ends
      have found := find_derived_end events one action parsed payload.run_id
      rw [if_pos rfl, known, Option.map_some] at found
      refine ⟨_, found, ?_⟩
      cases at_seq : row.end_seq with
      | none => simp [RunRecord.ended]
      | some seq => simp [at_seq]
    · have short := after.length_le
      simp at short

/-- A row of the derivation stands where its run was started. -/
theorem derived_started {events : List StoredEvent} {row : RunRecord} (inside : row ∈ (derived events).rows) :
    ∃ stored ∈ events, Starts row.run_id stored ∧ stored.id = row.start_seq := by
  induction events using List.reverseRecOn generalizing row with
  | nil => cases inside
  | append_singleton events last ih =>
    have earlier {old : RunRecord} (member : old ∈ (derived events).rows) :
        ∃ stored ∈ events ++ [last], Starts old.run_id stored ∧ stored.id = old.start_seq := by
      obtain ⟨stored, early, starts⟩ := ih member
      exact ⟨stored, List.mem_append_left _ early, starts⟩
    rw [derived_snoc] at inside
    rcases row_step_cases (derived events).rows last with same | ⟨payload, action, parsed, _, added⟩ | ⟨payload, _, _, ended⟩ |
      ⟨_, abandoned⟩
    · rw [same] at inside
      exact earlier inside
    · rw [added] at inside
      rcases List.mem_append.mp inside with old | new
      · exact earlier old
      · rw [List.mem_singleton] at new
        subst new
        exact ⟨last, List.mem_append_right _ (List.mem_singleton.mpr rfl), ⟨action, payload, parsed, rfl⟩, rfl⟩
    · rw [ended] at inside
      obtain ⟨old, member, rfl | rfl⟩ := update_first_mem inside
      · exact earlier member
      · have started := earlier member
        exact started
    · rw [abandoned] at inside
      obtain ⟨old, member, rfl | rfl⟩ := update_first_mem inside
      · exact earlier member
      · have started := earlier member
        exact started

end Riscdom.Audit
