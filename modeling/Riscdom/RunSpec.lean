import Mathlib.Data.List.Induction
import Mathlib.Data.List.MinMax
import Mathlib.Data.List.Pairwise
import Riscdom.RunDerivation

/-!
What the reduction of a chain to its run rows comes to, told without the reduction:
a row for the first start of every run, settled by what the chain says of the run
after it. The end of a run's record is read off the same chain.
-/
namespace Riscdom.Audit
open Riscdom.Json Riscdom.KeyedTable

/-! ### The rows of a chain, declared -/

/-- A well-formed start, with its event. -/
abbrev Opening : Type := RunStartPayload × StoredEvent

def start_of (stored : StoredEvent) : Option Opening :=
  if stored.event.action = ACTION_RUN_START then
    (parse_run_start stored.event.detail).toOption.map fun payload => (payload, stored)
  else none

/-- The status that a well-formed end of a run gives it, with its event. -/
def end_of (run_id : String) (stored : StoredEvent) : Option (StoredEvent × RunStatus) :=
  if stored.event.action = ACTION_RUN_END then
    match parse_run_end stored.event.detail with
    | .ok payload => if payload.run_id = run_id then some (stored, payload.status) else none
    | .error _ => none
  else none

/-- An abandonment of a run; one that names no run is of the run with the empty id. -/
def Abandonment (run_id : String) (stored : StoredEvent) : Prop :=
  stored.event.action = ACTION_RUN_ABANDONED ∧ (text_at "run_id" stored.event.detail).getD "" = run_id

instance (run_id : String) (stored : StoredEvent) : Decidable (Abandonment run_id stored) :=
  inferInstanceAs (Decidable (_ ∧ _))

def starts_of (events : List StoredEvent) : List Opening := events.filterMap start_of

/-- The starts of runs that no start before them names. -/
def first_starts : List Opening → List Opening
  | [] => []
  | start :: later => start :: (first_starts later).filter fun other => other.1.run_id ≠ start.1.run_id

/-- The row of a start: ended by the first end of the run after it, else abandoned where it was abandoned after it. -/
def settled (events : List StoredEvent) (start : Opening) : RunRecord :=
  let later := events.filter fun stored => start.2.id < stored.id
  let row := RunRecord.opened start.1 start.2
  match later.findSome? (end_of start.1.run_id) with
  | some (stored, status) => row.ended stored status
  | none => if later.any fun stored => Abandonment start.1.run_id stored then row.abandoned else row

/-! ### First starts -/

theorem first_starts_sublist (starts : List Opening) : (first_starts starts).Sublist starts := by
  induction starts with
  | nil => exact .slnil
  | cons start later ih => exact (List.filter_sublist.trans ih).cons_cons start

theorem first_starts_ids (starts : List Opening) (run_id : String) :
    (∃ start ∈ first_starts starts, start.1.run_id = run_id) ↔ ∃ start ∈ starts, start.1.run_id = run_id := by
  induction starts with
  | nil => simp [first_starts]
  | cons start later ih =>
    by_cases same : start.1.run_id = run_id
    · have here : ∀ rest : List Opening, ∃ other ∈ start :: rest, other.1.run_id = run_id :=
        fun rest => ⟨start, List.mem_cons_self, same⟩
      exact iff_of_true (here _) (here _)
    · constructor
      · rintro ⟨other, inside, named⟩
        exact ⟨other, (first_starts_sublist (start :: later)).subset inside, named⟩
      · rintro ⟨other, inside, named⟩
        have further : other ∈ later := by
          rcases List.mem_cons.mp inside with rfl | further
          · exact absurd named same
          · exact further
        obtain ⟨first, member, first_named⟩ := ih.mpr ⟨other, further, named⟩
        refine ⟨first, List.mem_cons_of_mem _ (List.mem_filter.mpr ⟨member, ?_⟩), first_named⟩
        simpa [first_named] using fun equal : run_id = start.1.run_id => same equal.symm

/-- One more start is a first one where none before it names its run. -/
theorem first_starts_snoc (starts : List Opening) (last : Opening) :
    first_starts (starts ++ [last]) =
      first_starts starts ++ if ∃ start ∈ starts, start.1.run_id = last.1.run_id then [] else [last] := by
  induction starts with
  | nil => simp [first_starts]
  | cons start later ih =>
    rw [List.cons_append, first_starts, ih, List.filter_append, first_starts, List.cons_append]
    congr 2
    by_cases same : start.1.run_id = last.1.run_id
    · have named : ∃ other ∈ start :: later, other.1.run_id = last.1.run_id := ⟨start, List.mem_cons_self, same⟩
      rw [if_pos named]
      split_ifs
      · rfl
      · simp [same]
    · have differs : last.1.run_id ≠ start.1.run_id := fun equal => same equal.symm
      have further : (∃ other ∈ start :: later, other.1.run_id = last.1.run_id) ↔
          ∃ other ∈ later, other.1.run_id = last.1.run_id := by simp [same]
      simp only [further]
      split_ifs
      · rfl
      · simp [differs]

theorem start_of_own {stored : StoredEvent} {start : Opening} (found : start_of stored = some start) : start.2 = stored := by
  unfold start_of at found
  split_ifs at found
  obtain ⟨payload, -, rfl⟩ := Option.map_eq_some_iff.mp found
  rfl

theorem mem_first_starts {events : List StoredEvent} {start : Opening} (inside : start ∈ first_starts (starts_of events)) :
    start.2 ∈ events := by
  obtain ⟨stored, member, found⟩ := List.mem_filterMap.mp ((first_starts_sublist _).subset inside)
  rw [start_of_own found]
  exact member

/-! ### Settled rows -/

section
variable {events : List StoredEvent} {start : Opening} {last : StoredEvent}

/-- What one event does to the row of a run. -/
def settle_with (run_id : String) (last : StoredEvent) (row : RunRecord) : RunRecord :=
  if row.end_seq.isNone then
    match end_of run_id last with
    | some (stored, status) => row.ended stored status
    | none => if Abandonment run_id last then row.abandoned else row
  else row

@[simp] theorem settled_run_id (events : List StoredEvent) (start : Opening) : (settled events start).run_id = start.1.run_id := by
  unfold settled
  dsimp only
  split
  · rfl
  · split_ifs <;> rfl

@[simp] theorem settled_start_seq (events : List StoredEvent) (start : Opening) :
    (settled events start).start_seq = start.2.id := by
  unfold settled
  dsimp only
  split
  · rfl
  · split_ifs <;> rfl

theorem settled_snoc (before : start.2.id < last.id) :
    settled (events ++ [last]) start = settle_with start.1.run_id last (settled events start) := by
  have grown : (events ++ [last]).filter (fun stored => start.2.id < stored.id) =
      events.filter (fun stored => start.2.id < stored.id) ++ [last] := by
    simp [List.filter_append, before]
  unfold settled
  simp only [grown, List.findSome?_append, List.any_append]
  cases ended : (events.filter fun stored => start.2.id < stored.id).findSome? (end_of start.1.run_id) with
  | some found =>
    simp [settle_with, RunRecord.ended]
  | none =>
    cases ends : end_of start.1.run_id last with
    | some found =>
      by_cases abandoned : (events.filter fun stored => start.2.id < stored.id).any fun stored => Abandonment start.1.run_id stored
      · simp [settle_with, ends, abandoned, RunRecord.abandoned, RunRecord.ended, RunRecord.opened]
      · simp [settle_with, ends, abandoned, RunRecord.ended, RunRecord.opened]
    | none =>
      by_cases abandoned : (events.filter fun stored => start.2.id < stored.id).any fun stored => Abandonment start.1.run_id stored
      · simp [settle_with, ends, abandoned, RunRecord.abandoned, RunRecord.opened]
      · simp [settle_with, ends, abandoned, RunRecord.abandoned, RunRecord.opened]

/-- Nothing stands behind the last event. -/
theorem settled_last (below : ∀ stored ∈ events, stored.id < last.id) {payload : RunStartPayload} :
    settled (events ++ [last]) (payload, last) = .opened payload last := by
  have nothing : (events ++ [last]).filter (fun stored => last.id < stored.id) = [] := by
    rw [List.filter_eq_nil_iff]
    intro stored inside
    rcases List.mem_append.mp inside with old | new
    · have less := below stored old
      simpa using le_of_lt less
    · rw [List.mem_singleton.mp new]
      simp
  unfold settled
  simp [nothing]

end

/-! ### The reduction comes to the declared rows -/

/-- Where the ids are distinct, the first row that fits one id is the only one. -/
theorem update_first_map {fits : RunRecord → Bool} {rewrite : RunRecord → RunRecord} {run_id : String}
    (named : ∀ row, fits row = true → row.run_id = run_id) {rows : List RunRecord} (distinct : (rows.map RunRecord.run_id).Nodup) :
    (update_first fits rewrite rows).getD rows = rows.map fun row => if fits row then rewrite row else row := by
  induction rows with
  | nil => rfl
  | cons row rest ih =>
    obtain ⟨new, apart⟩ := List.nodup_cons.mp distinct
    rw [update_first, List.map_cons]
    cases fit : fits row with
    | true =>
      have others : rest.map (fun row => if fits row then rewrite row else row) = rest := by
        refine (List.map_congr_left fun other inside => ?_).trans (List.map_id rest)
        rw [if_neg]
        · rfl
        · intro fits_too
          have same : other.run_id = row.run_id := (named other fits_too).trans (named row fit).symm
          exact new (same ▸ List.mem_map_of_mem inside)
      rw [if_pos rfl, if_pos rfl, Option.getD_some, others]
    | false =>
      have rest_same := ih apart
      simp only [Bool.false_eq_true, if_false]
      cases updated : update_first fits rewrite rest with
      | none =>
        rw [updated, Option.getD_none] at rest_same
        rw [Option.map_none, Option.getD_none, ← rest_same]
      | some after =>
        rw [updated, Option.getD_some] at rest_same
        rw [Option.map_some, Option.getD_some, rest_same]

theorem unended_named (run_id : String) (row : RunRecord) (unended : Unended run_id row = true) : row.run_id = run_id := by
  rw [Unended, Bool.and_eq_true] at unended
  simpa using unended.1

/-- The rows that the chain declares. -/
def declared (events : List StoredEvent) : List RunRecord := (first_starts (starts_of events)).map (settled events)

theorem declared_ids (events : List StoredEvent) (run_id : String) :
    (∃ row ∈ declared events, row.run_id = run_id) ↔ ∃ start ∈ starts_of events, start.1.run_id = run_id := by
  rw [← first_starts_ids]
  constructor
  · rintro ⟨row, inside, named⟩
    obtain ⟨start, member, rfl⟩ := List.mem_map.mp inside
    exact ⟨start, member, (settled_run_id events start).symm.trans named⟩
  · rintro ⟨start, member, named⟩
    exact ⟨_, List.mem_map_of_mem member, (settled_run_id events start).trans named⟩

section
variable {events : List StoredEvent} {last : StoredEvent}

/-- What the rows declared become with one event more, which is behind the others. -/
theorem declared_snoc (below : ∀ stored ∈ events, stored.id < last.id) :
    declared (events ++ [last]) = (declared events).map (fun row => settle_with row.run_id last row) ++
      match start_of last with
      | some start => if ∃ row ∈ declared events, row.run_id = start.1.run_id then [] else [.opened start.1 last]
      | none => [] := by
  have kept : (first_starts (starts_of events)).map (settled (events ++ [last])) =
      (declared events).map fun row => settle_with row.run_id last row := by
    rw [declared, List.map_map]
    refine List.map_congr_left fun start inside => ?_
    rw [settled_snoc (below _ (mem_first_starts inside)), Function.comp, settled_run_id]
  have starts : starts_of (events ++ [last]) = starts_of events ++ (start_of last).toList := by
    cases found : start_of last <;> simp [starts_of, List.filterMap_append, found]
  rw [declared, starts]
  cases found : start_of last with
  | none => rw [Option.toList_none, List.append_nil, kept, List.append_nil]
  | some start =>
    have own : start = (start.1, last) := Prod.ext rfl (start_of_own found)
    simp only [Option.toList_some, first_starts_snoc, declared_ids]
    rw [List.map_append, kept]
    congr 1
    split_ifs
    · rfl
    · rw [List.map_singleton, own, settled_last below]

/-- An event that is no end and no abandonment of a run leaves its row. -/
theorem settle_with_other {row : RunRecord} (no_end : end_of row.run_id last = none) (going : ¬ Abandonment row.run_id last) :
    settle_with row.run_id last row = row := by
  unfold settle_with
  rw [no_end]
  simp [going]

theorem no_end_of {run_id : String} (other : last.event.action ≠ ACTION_RUN_END) : end_of run_id last = none := if_neg other
theorem going_of {run_id : String} (other : last.event.action ≠ ACTION_RUN_ABANDONED) : ¬ Abandonment run_id last :=
  fun abandoned => other abandoned.1
theorem no_start_of (other : last.event.action ≠ ACTION_RUN_START) : start_of last = none := if_neg other

/-- One step of the reduction takes the rows declared to the rows declared. -/
theorem row_step_declared (distinct : ((declared events).map RunRecord.run_id).Nodup)
    (below : ∀ stored ∈ events, stored.id < last.id) :
    derive_row_step (declared events) last = declared (events ++ [last]) := by
  rw [declared_snoc below]
  by_cases starting : last.event.action = ACTION_RUN_START
  · have not_end : last.event.action ≠ ACTION_RUN_END := by rw [starting]; decide
    have not_abandoned : last.event.action ≠ ACTION_RUN_ABANDONED := by rw [starting]; decide
    have same : (declared events).map (fun row => settle_with row.run_id last row) = declared events := by
      refine (List.map_congr_left fun row _ => ?_).trans (List.map_id _)
      exact settle_with_other (no_end_of not_end) (going_of not_abandoned)
    rw [same]
    cases parsed : parse_run_start last.event.detail with
    | error error =>
      have none_here : start_of last = none := by simp [start_of, starting, parsed, Except.toOption]
      rw [none_here, List.append_nil]
      unfold derive_row_step derive_step
      simp only [starting, if_true, parsed]
    | ok payload =>
      have here : start_of last = some (payload, last) := by simp [start_of, starting, parsed, Except.toOption]
      simp only [here]
      split_ifs with told
      · obtain ⟨row, inside, named⟩ := told
        have again : (declared events).any (·.run_id == payload.run_id) = true :=
          List.any_eq_true.mpr ⟨row, inside, beq_iff_eq.mpr named⟩
        unfold derive_row_step derive_step
        simp only [starting, if_true, parsed, again, List.append_nil]
      · exact row_step_start starting parsed fun row inside named => told ⟨row, inside, named⟩
  · rw [no_start_of starting, List.append_nil]
    by_cases ending : last.event.action = ACTION_RUN_END
    · have not_abandoned : last.event.action ≠ ACTION_RUN_ABANDONED := by rw [ending]; decide
      cases parsed : parse_run_end last.event.detail with
      | error error =>
        have same : (declared events).map (fun row => settle_with row.run_id last row) = declared events := by
          refine (List.map_congr_left fun row _ => ?_).trans (List.map_id _)
          refine settle_with_other ?_ (going_of not_abandoned)
          simp [end_of, ending, parsed]
        rw [same]
        have other : ¬ ACTION_RUN_END = ACTION_RUN_START := by decide
        unfold derive_row_step derive_step
        simp only [ending, other, if_true, if_false, parsed]
      | ok payload =>
        rw [row_step_end ending parsed, update_first_map (unended_named payload.run_id) distinct]
        refine List.map_congr_left fun row _ => ?_
        by_cases named : payload.run_id = row.run_id
        · cases unended : row.end_seq <;>
            simp [settle_with, end_of, ending, parsed, named, Unended, unended]
        · have differs : ¬ row.run_id = payload.run_id := fun equal => named equal.symm
          have unaffected : settle_with row.run_id last row = row := by
            refine settle_with_other ?_ (going_of not_abandoned)
            simp [end_of, ending, parsed, named]
          rw [unaffected]
          simp [Unended, differs]
    · by_cases abandoning : last.event.action = ACTION_RUN_ABANDONED
      · rw [row_step_abandoned abandoning, update_first_map (unended_named _) distinct]
        refine List.map_congr_left fun row _ => ?_
        by_cases named : (text_at "run_id" last.event.detail).getD "" = row.run_id
        · cases unended : row.end_seq <;>
            simp [settle_with, no_end_of ending, Abandonment, abandoning, named, Unended, unended]
        · have differs : ¬ row.run_id = (text_at "run_id" last.event.detail).getD "" := fun equal => named equal.symm
          have unaffected : settle_with row.run_id last row = row :=
            settle_with_other (no_end_of ending) fun abandoned => named abandoned.2
          rw [unaffected]
          simp [Unended, differs]
      · have same : (declared events).map (fun row => settle_with row.run_id last row) = declared events := by
          refine (List.map_congr_left fun row _ => ?_).trans (List.map_id _)
          exact settle_with_other (no_end_of ending) (going_of abandoning)
        rw [same, row_step_other (by simp [RunMarker, starting, ending, abandoning])]

end

/-- The ids of a chain rise. -/
def Rising (events : List StoredEvent) : Prop := events.Pairwise fun first second => first.id < second.id

theorem Rising.snoc {events : List StoredEvent} {last : StoredEvent} (rising : Rising (events ++ [last])) :
    Rising events ∧ ∀ stored ∈ events, stored.id < last.id := by
  obtain ⟨before, -, below⟩ := List.pairwise_append.mp rising
  exact ⟨before, fun stored inside => below stored inside last (List.mem_singleton.mpr rfl)⟩

theorem derive_runs_from_declared {events : List StoredEvent} (rising : Rising events) :
    (derive_runs_from events).1 = declared events := by
  induction events using List.reverseRecOn with
  | nil => rfl
  | append_singleton events last ih =>
    obtain ⟨before, below⟩ := rising.snoc
    have rows : (derived events).rows = declared events := ih before
    have distinct : ((declared events).map RunRecord.run_id).Nodup := rows ▸ (derived events).distinct
    calc (derive_runs_from (events ++ [last])).1
        = derive_row_step (derived events).rows last := derived_snoc events last
      _ = derive_row_step (declared events) last := by rw [rows]
      _ = declared (events ++ [last]) := row_step_declared distinct below

/-! ### The count -/

/-- What was counted, a start that was told before both as a start and as an orphan. -/
def RebuildReport.counted (report : RebuildReport) : Nat := report.starts + report.ends + report.abandoned + report.orphans

theorem update_first_length {fits : RunRecord → Bool} {rewrite : RunRecord → RunRecord} {rows after : List RunRecord}
    (updated : update_first fits rewrite rows = some after) : after.length = rows.length := by
  induction rows generalizing after with
  | nil => cases updated
  | cons row rest ih =>
    rw [update_first] at updated
    split_ifs at updated
    · cases updated
      rfl
    · obtain ⟨others, tail, rfl⟩ := Option.map_eq_some_iff.mp updated
      rw [List.length_cons, List.length_cons, ih tail]

/-- A marker is counted once, and once more where it starts a run that has its row. -/
theorem step_counted (rows : List RunRecord) (report : RebuildReport) (stored : StoredEvent) :
    let after := derive_step (rows, report) stored
    after.2.starts = report.starts + (start_of stored).toList.length ∧
      after.2.counted + after.1.length = report.counted + rows.length + (if RunMarker stored.event.action then 1 else 0) +
        (start_of stored).toList.length := by
  intro after
  by_cases starting : stored.event.action = ACTION_RUN_START
  · have marker : RunMarker stored.event.action := .inl starting
    rw [if_pos marker]
    cases parsed : parse_run_start stored.event.detail with
    | error error =>
      have none_here : start_of stored = none := by simp [start_of, starting, parsed, Except.toOption]
      simp only [after, derive_step, starting, if_true, parsed, none_here, RebuildReport.counted]
      exact ⟨rfl, by simp; omega⟩
    | ok payload =>
      have here : start_of stored = some (payload, stored) := by simp [start_of, starting, parsed, Except.toOption]
      simp only [after, derive_step, starting, if_true, parsed, here, RebuildReport.counted]
      split_ifs
      · exact ⟨rfl, by simp; omega⟩
      · exact ⟨rfl, by simp; omega⟩
  · rw [no_start_of starting]
    by_cases ending : stored.event.action = ACTION_RUN_END
    · have marker : RunMarker stored.event.action := .inr (.inl ending)
      have other : ¬ ACTION_RUN_END = ACTION_RUN_START := by decide
      rw [if_pos marker]
      simp only [after, derive_step, ending, other, if_true, if_false]
      split
      · exact ⟨rfl, by simp [RebuildReport.counted]; omega⟩
      · split
        · next updated =>
          have length := update_first_length updated
          exact ⟨rfl, by simp [RebuildReport.counted, length]; omega⟩
        · exact ⟨rfl, by simp [RebuildReport.counted]; omega⟩
    · by_cases abandoning : stored.event.action = ACTION_RUN_ABANDONED
      · have marker : RunMarker stored.event.action := .inr (.inr abandoning)
        have not_start : ¬ ACTION_RUN_ABANDONED = ACTION_RUN_START := by decide
        have not_end : ¬ ACTION_RUN_ABANDONED = ACTION_RUN_END := by decide
        rw [if_pos marker]
        simp only [after, derive_step, abandoning, not_start, not_end, if_true, if_false]
        split
        · next updated =>
          have length := update_first_length updated
          exact ⟨rfl, by simp [RebuildReport.counted, length]; omega⟩
        · exact ⟨rfl, by simp [RebuildReport.counted]; omega⟩
      · have no_marker : ¬ RunMarker stored.event.action := by simp [RunMarker, starting, ending, abandoning]
        rw [if_neg no_marker]
        simp only [after, derive_step, starting, ending, abandoning, if_false]
        exact ⟨rfl, rfl⟩

theorem fold_counted (events : List StoredEvent) (rows : List RunRecord) (report : RebuildReport) :
    let after := events.foldl derive_step (rows, report)
    after.2.starts = report.starts + (starts_of events).length ∧
      after.2.counted + after.1.length = report.counted + rows.length +
        events.countP (fun stored => RunMarker stored.event.action) + (starts_of events).length := by
  induction events generalizing rows report with
  | nil => exact ⟨rfl, rfl⟩
  | cons stored rest ih =>
    obtain ⟨starts, counted⟩ := step_counted rows report stored
    cases step : derive_step (rows, report) stored with
    | mk next_rows next_report =>
    rw [step] at starts counted
    obtain ⟨later_starts, later_counted⟩ := ih next_rows next_report
    have split : (starts_of (stored :: rest)).length = (start_of stored).toList.length + (starts_of rest).length := by
      cases found : start_of stored with
      | none => simp [starts_of, found]
      | some start => simp [starts_of, found]; omega
    have markers : (stored :: rest).countP (fun stored => RunMarker stored.event.action) =
        (if RunMarker stored.event.action then 1 else 0) + rest.countP fun stored => RunMarker stored.event.action := by
      rw [List.countP_cons]
      simp only [decide_eq_true_eq]
      omega
    simp only [List.foldl_cons, step]
    dsimp only at starts counted later_starts later_counted
    omega

/-! ### What the reduction comes to -/

/-- The ends of a chain's rows stand behind their starts. -/
theorem settled_end {events : List StoredEvent} {start : Opening} {seq : Int} (ended : (settled events start).end_seq = some seq) :
    start.2.id < seq := by
  unfold settled at ended
  dsimp only at ended
  split at ended
  · next stored status found =>
    obtain ⟨other, inside, ends⟩ := List.exists_of_findSome?_eq_some found
    have same : other = stored := by
      unfold end_of at ends
      split_ifs at ends
      split at ends
      · split_ifs at ends
        cases ends
        rfl
      · cases ends
    subst same
    have behind : start.2.id < other.id := by simpa using (List.mem_filter.mp inside).2
    cases ended
    exact behind
  · split_ifs at ended <;> cases ended

/-- The rows stand in the order of their starts. -/
theorem declared_rise {events : List StoredEvent} (rising : Rising events) :
    (declared events).Pairwise fun first second => first.start_seq < second.start_seq := by
  rw [declared, List.pairwise_map]
  have starts : (starts_of events).Pairwise fun first second => first.2.id < second.2.id := by
    refine List.Pairwise.filterMap start_of ?_ rising
    intro first second less one found other found_other
    rw [start_of_own found, start_of_own found_other]
    exact less
  refine (starts.sublist (first_starts_sublist _)).imp fun {first second} less => ?_
  rw [settled_start_seq, settled_start_seq]
  exact less

/-- Of every chain whose ids rise: a row for the first start of every run, in the order of these and settled by what comes
    after it; the starts rise and the ends are behind them; and the markers are all counted, a repeated start twice. -/
theorem derived_runs_exact (events : List StoredEvent) (rising : Rising events) :
    let rows := (derive_runs_from events).1
    let report := (derive_runs_from events).2
    rows = (first_starts (starts_of events)).map (settled events) ∧
      (rows.map RunRecord.run_id).Nodup ∧
      (∀ run_id, run_id ∈ rows.map RunRecord.run_id ↔ ∃ start ∈ starts_of events, start.1.run_id = run_id) ∧
      rows.Pairwise (fun first second => first.start_seq < second.start_seq) ∧
      (∀ row ∈ rows, ∀ seq, row.end_seq = some seq → row.start_seq < seq) ∧
      report.runs = rows.length ∧ report.starts = (starts_of events).length ∧
      report.starts + report.ends + report.abandoned + report.orphans =
        events.countP (fun stored => RunMarker stored.event.action) + (report.starts - report.runs) := by
  intro rows report
  have declares : rows = declared events := derive_runs_from_declared rising
  refine ⟨declares, (derived events).distinct, fun run_id => ?_, ?_, ?_, rfl, ?_, ?_⟩
  · rw [← declared_ids, ← declares, List.mem_map]
  · rw [declares]
    exact declared_rise rising
  · intro row inside seq ended
    rw [declares] at inside
    obtain ⟨start, -, rfl⟩ := List.mem_map.mp inside
    rw [settled_start_seq]
    exact settled_end ended
  · have counted := fold_counted events [] ⟨0, 0, 0, 0, 0⟩
    exact counted.1.trans (Nat.zero_add _)
  · obtain ⟨starts, counted⟩ := fold_counted events [] ⟨0, 0, 0, 0, 0⟩
    have fewer : rows.length ≤ (starts_of events).length := by
      rw [declares, declared, List.length_map]
      exact (first_starts_sublist _).length_le
    have same_starts : report.starts = (starts_of events).length := starts.trans (Nat.zero_add _)
    have same_runs : report.runs = rows.length := rfl
    change report.counted + rows.length = 0 + 0 + _ + _ at counted
    rw [RebuildReport.counted] at counted
    omega

/-- An event of a small chain. -/
def marker (id : Int) (action : String) (detail : List (String × Value)) : StoredEvent :=
  ⟨id, ⟨id, "host", action, json detail, none⟩, "", ""⟩

def start_marker (id : Int) (run_id : String) : StoredEvent :=
  marker id ACTION_RUN_START [("run_id", .string run_id), ("fingerprint", .string "f"), ("fingerprint_schema", .string "s"),
    ("fingerprint_json", .string "\x7b\x7d")]
def end_marker (id : Int) (run_id status : String) : StoredEvent :=
  marker id ACTION_RUN_END [("run_id", .string run_id), ("status", .string status)]
def abandoned_marker (id : Int) (run_id : String) : StoredEvent :=
  marker id ACTION_RUN_ABANDONED [("run_id", .string run_id)]

/-- Two runs that interleave, a repeated start, an end after an abandonment and one of no run. -/
def interleaved : List StoredEvent :=
  [start_marker 1 "a", start_marker 2 "b", abandoned_marker 4 "a", start_marker 5 "a", end_marker 6 "a" "ok",
    end_marker 7 "c" "ok", abandoned_marker 9 "b"]

theorem interleaved_exact :
    let rows := (derive_runs_from interleaved).1
    let report := (derive_runs_from interleaved).2
    rows = (first_starts (starts_of interleaved)).map (settled interleaved) ∧
      (rows.map RunRecord.run_id).Nodup ∧
      (∀ run_id, run_id ∈ rows.map RunRecord.run_id ↔ ∃ start ∈ starts_of interleaved, start.1.run_id = run_id) ∧
      rows.Pairwise (fun first second => first.start_seq < second.start_seq) ∧
      (∀ row ∈ rows, ∀ seq, row.end_seq = some seq → row.start_seq < seq) ∧
      report.runs = rows.length ∧ report.starts = (starts_of interleaved).length ∧
      report.starts + report.ends + report.abandoned + report.orphans =
        interleaved.countP (fun stored => RunMarker stored.event.action) + (report.starts - report.runs) :=
  derived_runs_exact interleaved (by unfold Rising; decide +kernel)

example : (derive_runs_from interleaved).2 = ⟨2, 3, 1, 2, 2⟩ := by decide +kernel

/-! ### Where a run's record ends -/

/-- The abandonment that closed a run: the first that names it after its start and before the next start of any run. -/
def abandoned_end (chain : List StoredEvent) (record : RunRecord) : Option Int :=
  let next_start := ((chain.filter fun e => record.start_seq < e.id ∧ e.event.action = ACTION_RUN_START).map StoredEvent.id).min?
  ((((chain.filter fun e => record.start_seq < e.id).filter fun e =>
    match next_start with
    | some bound => e.id < bound
    | none => true).filter fun e => e.event.action = ACTION_RUN_ABANDONED).find? fun e =>
      text_at "run_id" e.event.detail = some record.run_id).map StoredEvent.id

/-- What a run that is called abandoned and has no such marker is refused with. -/
def no_marker (record : RunRecord) : AuditError :=
  .Other ("run " ++ record.run_id ++ " is marked abandoned but the chain has no \x60" ++ ACTION_RUN_ABANDONED ++
    "\x60 event for it, so there is no record to export")

/-- The id of the event that closes a run. -/
def run_end (record : RunRecord) (chain : List StoredEvent) : Except AuditError Int :=
  match record.end_seq with
  | some seq =>
    if seq ≥ record.start_seq then .ok seq
    else .error (.Other ("run " ++ record.run_id ++ " has an end (" ++ toString seq ++ ") before its start (" ++
      toString record.start_seq ++ ")"))
  | none =>
    if record.status = .Abandoned then
      match abandoned_end chain record with
      | some seq => .ok seq
      | none => .error (no_marker record)
    else .error (.Other ("run " ++ record.run_id ++ " has not ended (status: " ++ record.status.as_str ++
      "): there is no \x60run.end\x60 on the chain, so there is no record to export"))

/-- An abandonment that names the run, after its start and with no start of any run between. -/
def Closes (chain : List StoredEvent) (record : RunRecord) (stored : StoredEvent) : Prop :=
  Abandons record.run_id stored ∧ record.start_seq < stored.id ∧
    ∀ other ∈ chain, other.event.action = ACTION_RUN_START → record.start_seq < other.id → stored.id < other.id

section
variable {chain : List StoredEvent} {record : RunRecord} {stored : StoredEvent}

/-- The window of the search. -/
theorem before_next_start :
    (match ((chain.filter fun e => record.start_seq < e.id ∧ e.event.action = ACTION_RUN_START).map StoredEvent.id).min? with
      | some bound => decide (stored.id < bound)
      | none => true) = true ↔
      ∀ other ∈ chain, other.event.action = ACTION_RUN_START → record.start_seq < other.id → stored.id < other.id := by
  cases next : ((chain.filter fun e => record.start_seq < e.id ∧ e.event.action = ACTION_RUN_START).map StoredEvent.id).min? with
  | none =>
    rw [List.min?_eq_none_iff, List.map_eq_nil_iff, List.filter_eq_nil_iff] at next
    refine iff_of_true rfl fun other inside starts behind => ?_
    exact absurd (decide_eq_true (p := _ ∧ _) ⟨behind, starts⟩) (next other inside)
  | some bound =>
    obtain ⟨inside, least⟩ := List.min?_eq_some_iff.mp next
    simp only [decide_eq_true_eq]
    constructor
    · intro early other member starts behind
      have listed : other.id ∈ (chain.filter fun e => record.start_seq < e.id ∧ e.event.action = ACTION_RUN_START).map StoredEvent.id :=
        List.mem_map_of_mem (List.mem_filter.mpr ⟨member, decide_eq_true ⟨behind, starts⟩⟩)
      exact lt_of_lt_of_le early (least other.id listed)
    · intro early
      obtain ⟨first, member, rfl⟩ := List.mem_map.mp inside
      obtain ⟨there, fits⟩ := List.mem_filter.mp member
      obtain ⟨behind, starts⟩ := of_decide_eq_true fits
      exact early first there starts behind

/-- The search finds an event that closes the run, and none before it does. -/
theorem abandoned_end_cases (chain : List StoredEvent) (record : RunRecord) :
    (∃ before stored after, chain = before ++ stored :: after ∧ Closes chain record stored ∧
      (∀ other ∈ before, ¬ Closes chain record other) ∧ abandoned_end chain record = some stored.id) ∨
    (∀ stored ∈ chain, ¬ Closes chain record stored) ∧ abandoned_end chain record = none := by
  unfold abandoned_end
  simp only [List.find?_filter]
  generalize searched : (chain.find? _) = found
  cases found with
  | none =>
    refine .inr ⟨fun stored inside closes => ?_, rfl⟩
    have unfit := List.find?_eq_none.mp searched stored inside
    apply unfit
    simp only [decide_eq_true_eq, before_next_start]
    exact ⟨closes.2.1, closes.2.2, closes.1.1, closes.1.2⟩
  | some stored =>
    obtain ⟨fits, before, after, split, unfit⟩ := List.find?_eq_some_iff_append.mp searched
    simp only [decide_eq_true_eq, before_next_start] at fits
    obtain ⟨behind, early, action, named⟩ := fits
    refine .inl ⟨before, stored, after, split, ⟨⟨action, named⟩, behind, early⟩, fun other inside closes => ?_, rfl⟩
    have fails := unfit other inside
    simp only [Bool.not_eq_true', decide_eq_false_iff_not] at fails
    apply fails
    simp only [decide_eq_true_eq, before_next_start]
    exact ⟨closes.2.1, closes.2.2, closes.1.1, closes.1.2⟩

/-- A row that is abandoned and has no end was abandoned after its start. -/
theorem declared_abandoned {events : List StoredEvent} {row : RunRecord} (inside : row ∈ declared events)
    (status : row.status = .Abandoned) (going : row.end_seq = none) :
    ∃ stored ∈ events, row.start_seq < stored.id ∧ Abandonment row.run_id stored := by
  obtain ⟨start, -, rfl⟩ := List.mem_map.mp inside
  rw [settled_start_seq, settled_run_id]
  unfold settled at status going
  dsimp only at status going
  split at status
  · next found =>
    rw [found] at going
    cases going
  · split_ifs at status with abandoned
    · obtain ⟨stored, member, abandonment⟩ := List.any_eq_true.mp abandoned
      obtain ⟨there, behind⟩ := List.mem_filter.mp member
      exact ⟨stored, there, by simpa using behind, of_decide_eq_true abandonment⟩
    · cases status

end

/-- Of a row that the chain calls abandoned, with no end: it was abandoned after its start, and its record ends at the first
    abandonment that names it with no start of any run between, or is refused where there is none. -/
theorem abandoned_run_end (events : List StoredEvent) (rising : Rising events) (row : RunRecord)
    (inside : row ∈ (derive_runs_from events).1) (status : row.status = .Abandoned) (going : row.end_seq = none) :
    (∃ stored ∈ events, row.start_seq < stored.id ∧ Abandonment row.run_id stored) ∧
    ((∃ stored ∈ events, Closes events row stored ∧ (∀ other ∈ events, Closes events row other → stored.id ≤ other.id) ∧
        run_end row events = .ok stored.id) ∨
      (∀ stored ∈ events, ¬ Closes events row stored) ∧ run_end row events = .error (no_marker row)) := by
  rw [derive_runs_from_declared rising] at inside
  refine ⟨declared_abandoned inside status going, ?_⟩
  unfold run_end
  rw [going, if_pos status]
  rcases abandoned_end_cases events row with ⟨before, stored, after, split, closes, first, found⟩ | ⟨nothing, found⟩
  · refine .inl ⟨stored, ?_, closes, fun other member closes_too => ?_, by rw [found]⟩
    · rw [split]
      exact List.mem_append_right _ List.mem_cons_self
    · rw [split] at member
      rcases List.mem_append.mp member with earlier | later
      · exact absurd closes_too (first other earlier)
      · rcases List.mem_cons.mp later with rfl | later
        · exact le_rfl
        · rw [Rising, split] at rising
          have behind := (List.pairwise_append.mp rising).2.1
          exact le_of_lt ((List.pairwise_cons.mp behind).1 other later)
  · exact .inr ⟨nothing, by rw [found]⟩

/-- A row that the chain calls abandoned, with no end, is closed by an event that abandons its run after its start exactly where
    one does before the next start of any run; elsewhere it is refused, though the chain abandons it. -/
theorem abandoned_closed_iff (events : List StoredEvent) (rising : Rising events) (row : RunRecord)
    (inside : row ∈ (derive_runs_from events).1) (status : row.status = .Abandoned) (going : row.end_seq = none) :
    ((∃ stored ∈ events, Abandons row.run_id stored ∧ row.start_seq < stored.id ∧ run_end row events = .ok stored.id) ↔
      ∃ stored ∈ events, Abandons row.run_id stored ∧ row.start_seq < stored.id ∧
        ∀ other ∈ events, other.event.action = ACTION_RUN_START → row.start_seq < other.id → stored.id < other.id) ∧
    ((¬ ∃ stored ∈ events, Closes events row stored) →
      (∃ stored ∈ events, row.start_seq < stored.id ∧ Abandonment row.run_id stored) ∧ run_end row events = .error (no_marker row)) := by
  obtain ⟨abandoned, ended⟩ := abandoned_run_end events rising row inside status going
  rcases ended with ⟨stored, member, closes, -, found⟩ | ⟨nothing, refused⟩
  · refine ⟨iff_of_true ⟨stored, member, closes.1, closes.2.1, found⟩ ⟨stored, member, closes⟩, fun none => ?_⟩
    exact absurd ⟨stored, member, closes⟩ none
  · refine ⟨⟨?_, ?_⟩, fun _ => ⟨abandoned, refused⟩⟩
    · rintro ⟨stored, -, -, -, found⟩
      rw [refused] at found
      cases found
    · rintro ⟨stored, member, closes⟩
      exact absurd closes (nothing stored member)

/-- A run that was abandoned before the next one started: its record ends there. -/
theorem abandoned_between :
    let events := [start_marker 1 "a", abandoned_marker 3 "a", start_marker 4 "b"]
    ∃ row ∈ (derive_runs_from events).1, row.status = .Abandoned ∧ row.end_seq = none ∧
      ((∃ stored ∈ events, Abandons row.run_id stored ∧ row.start_seq < stored.id ∧ run_end row events = .ok stored.id) ↔
        ∃ stored ∈ events, Abandons row.run_id stored ∧ row.start_seq < stored.id ∧
          ∀ other ∈ events, other.event.action = ACTION_RUN_START → row.start_seq < other.id → stored.id < other.id) := by
  intro events
  have inside : ⟨"a", none, none, none, "f", "s", 1, none, 1, none, .Abandoned⟩ ∈ (derive_runs_from events).1 := by decide +kernel
  exact ⟨_, inside, rfl, rfl, (abandoned_closed_iff events (by unfold Rising; decide +kernel) _ inside rfl rfl).1⟩

/-- A run that was abandoned after the next one had started: the chain has its abandonment, and its record is refused. -/
theorem abandoned_past_start :
    let events := [start_marker 1 "a", start_marker 2 "b", abandoned_marker 3 "a"]
    let row : RunRecord := ⟨"a", none, none, none, "f", "s", 1, none, 1, none, .Abandoned⟩
    Rising events ∧ row ∈ (derive_runs_from events).1 ∧ abandoned_marker 3 "a" ∈ events ∧
      Abandons row.run_id (abandoned_marker 3 "a") ∧ run_end row events = .error (no_marker row) := by
  refine ⟨by unfold Rising; decide +kernel, by decide +kernel, by simp, ⟨rfl, rfl⟩, by decide +kernel⟩

end Riscdom.Audit
