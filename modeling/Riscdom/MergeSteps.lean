import Riscdom.AppendOnly

/-!
What the parts of a merge come to: the checks as facts about the rows, the
transcription from the answers its appends get, and the whole merge as what it
reads followed by one of its two ends.
-/
namespace Riscdom.Audit
open Riscdom.Json Riscdom.HashChain Riscdom.KeyedTable Fallible.Act
variable (crates : Crates)

/-! ### The checks -/

/-- The row holds the act of a segment's event: its actor and action, and its detail with the mark cleared. -/
def Holds (row : RawRow) (event : StoredEvent) : Prop :=
  row.actor = event.event.actor ∧ row.action = event.event.action ∧
    ∃ existing, decode crates row.detail_json = .ok existing ∧ same existing (cleared_detail event.event.detail) = true

/-- The chain row is a merged marker that names the segment. -/
def MarksMerged (segment_id : String) (row : RawRow) : Prop :=
  row.action = ACTION_SEGMENT_MERGED ∧
    ∃ detail, decode crates row.detail_json = .ok detail ∧ text_at "segment_id" detail = some segment_id

theorem main_chain_row_with_none {event : StoredEvent} {rows : List RawRow}
    (found : main_chain_row_with crates event.event.actor event.event.action (cleared_detail event.event.detail) rows =
      .ok none) : ∀ row ∈ rows, ¬ Holds crates row event := by
  induction rows with
  | nil => simp
  | cons row rest ih =>
    rw [main_chain_row_with] at found
    intro other inside
    by_cases act : row.actor = event.event.actor ∧ row.action = event.event.action
    · rw [if_pos act] at found
      cases decoded : decode crates row.detail_json with
      | error error =>
        rw [decoded] at found
        cases found
      | ok existing =>
        rw [decoded] at found
        by_cases equal : same existing (cleared_detail event.event.detail) = true
        · simp only [equal, if_true] at found
          cases found
        · simp only [equal, Bool.false_eq_true, if_false] at found
          rcases List.mem_cons.mp inside with rfl | later
          · rintro ⟨_, _, value, reads, holds⟩
            rw [decoded] at reads
            cases reads
            exact equal holds
          · exact ih found other later
    · rw [if_neg act] at found
      rcases List.mem_cons.mp inside with rfl | later
      · rintro ⟨actor, action, _⟩
        exact act ⟨actor, action⟩
      · exact ih found other later

theorem main_chain_row_with_some {event : StoredEvent} {rows : List RawRow} {id : Int}
    (found : main_chain_row_with crates event.event.actor event.event.action (cleared_detail event.event.detail) rows =
      .ok (some id)) :
    ∃ before row after, rows = before ++ row :: after ∧ row.id = id ∧ Holds crates row event ∧
      ∀ earlier ∈ before, ¬ Holds crates earlier event := by
  induction rows with
  | nil => cases found
  | cons row rest ih =>
    rw [main_chain_row_with] at found
    -- A row that does not hold the act is passed, and the rest of the rows answers.
    have passed (here : ¬ Holds crates row event)
        (later : main_chain_row_with crates event.event.actor event.event.action (cleared_detail event.event.detail) rest =
          .ok (some id)) :
        ∃ before holder after, row :: rest = before ++ holder :: after ∧ holder.id = id ∧ Holds crates holder event ∧
          ∀ earlier ∈ before, ¬ Holds crates earlier event := by
      obtain ⟨before, holder, after, rfl, same, holds, first⟩ := ih later
      refine ⟨row :: before, holder, after, rfl, same, holds, ?_⟩
      intro earlier inside
      rcases List.mem_cons.mp inside with rfl | old
      · exact here
      · exact first earlier old
    by_cases act : row.actor = event.event.actor ∧ row.action = event.event.action
    · rw [if_pos act] at found
      cases decoded : decode crates row.detail_json with
      | error error =>
        rw [decoded] at found
        cases found
      | ok existing =>
        rw [decoded] at found
        by_cases equal : same existing (cleared_detail event.event.detail) = true
        · simp only [equal, if_true] at found
          cases found
          exact ⟨[], row, rest, rfl, rfl, ⟨act.1, act.2, existing, decoded, equal⟩, by simp⟩
        · simp only [equal, Bool.false_eq_true, if_false] at found
          refine passed ?_ found
          rintro ⟨_, _, value, reads, holds⟩
          rw [decoded] at reads
          cases reads
          exact equal holds
    · rw [if_neg act] at found
      exact passed (fun holds => act ⟨holds.1, holds.2.1⟩) found

theorem first_conflict_none {rows : List RawRow} {events : List StoredEvent}
    (found : first_conflict crates rows events = .ok none) :
    ∀ event ∈ events, ∀ row ∈ rows, ¬ Holds crates row event := by
  induction events with
  | nil => simp
  | cons event rest ih =>
    rw [first_conflict] at found
    split at found
    · cases found
    · cases found
    · next clear =>
      intro other inside
      rcases List.mem_cons.mp inside with rfl | later
      · exact main_chain_row_with_none crates clear
      · exact ih found other later

/-- A conflict is met by the first event that some row holds, at the first row that holds it. -/
theorem first_conflict_some {rows : List RawRow} {events : List StoredEvent} {conflict : Conflict}
    (found : first_conflict crates rows events = .ok (some conflict)) :
    ∃ earlier event later before row after, events = earlier ++ event :: later ∧ rows = before ++ row :: after ∧
      conflict = ⟨event.event.actor, event.event.action, row.id⟩ ∧ Holds crates row event ∧
      (∀ r ∈ before, ¬ Holds crates r event) ∧ ∀ e ∈ earlier, ∀ r ∈ rows, ¬ Holds crates r e := by
  induction events with
  | nil => cases found
  | cons event rest ih =>
    rw [first_conflict] at found
    split at found
    · cases found
    · next id here =>
      cases found
      obtain ⟨before, row, after, split, same, holds, first⟩ := main_chain_row_with_some crates here
      exact ⟨[], event, rest, before, row, after, rfl, split, by rw [same], holds, first, by simp⟩
    · next clear =>
      obtain ⟨earlier, other, later, before, row, after, rfl, split, same, holds, first, none⟩ := ih found
      refine ⟨event :: earlier, other, later, before, row, after, rfl, split, same, holds, first, ?_⟩
      intro e inside
      rcases List.mem_cons.mp inside with rfl | old
      · exact main_chain_row_with_none crates clear
      · exact none e old

/-- A marker among the rows is found, or a row before it cannot be read. -/
theorem merged_already_of_marked {segment_id : String} {rows : List RawRow} {row : RawRow} (inside : row ∈ rows)
    (marks : MarksMerged crates segment_id row) :
    merged_already crates segment_id rows = .ok true ∨ ∃ error, merged_already crates segment_id rows = .error error := by
  induction rows with
  | nil => cases inside
  | cons head rest ih =>
    rw [merged_already]
    by_cases action : head.action = ACTION_SEGMENT_MERGED
    · rw [if_neg (not_not.mpr action)]
      cases decoded : decode crates head.detail_json with
      | error error => exact .inr ⟨error, rfl⟩
      | ok detail =>
        simp only
        by_cases names : text_at "segment_id" detail = some segment_id
        · rw [if_pos names]
          exact .inl rfl
        · rw [if_neg names]
          rcases List.mem_cons.mp inside with rfl | later
          · obtain ⟨_, read, reads, here⟩ := marks
            rw [decoded] at reads
            cases reads
            exact absurd here names
          · exact ih later
    · rw [if_pos action]
      rcases List.mem_cons.mp inside with rfl | later
      · exact absurd marks.1 action
      · exact ih later

/-- Where every marker can be read and none names the segment, none is found. -/
theorem merged_already_of_unmarked {segment_id : String} {rows : List RawRow}
    (readable : ∀ row ∈ rows, row.action = ACTION_SEGMENT_MERGED → ∃ detail, decode crates row.detail_json = .ok detail)
    (unmarked : ∀ row ∈ rows, ¬ MarksMerged crates segment_id row) : merged_already crates segment_id rows = .ok false := by
  induction rows with
  | nil => rfl
  | cons head rest ih =>
    have tail := ih (fun row inside => readable row (List.mem_cons_of_mem _ inside))
      (fun row inside => unmarked row (List.mem_cons_of_mem _ inside))
    rw [merged_already]
    by_cases action : head.action = ACTION_SEGMENT_MERGED
    · obtain ⟨detail, decoded⟩ := readable head List.mem_cons_self action
      have other : ¬ text_at "segment_id" detail = some segment_id := by
        intro names
        exact unmarked head List.mem_cons_self ⟨action, detail, decoded, names⟩
      rw [if_neg (not_not.mpr action), decoded]
      simp only [other, if_false, tail]
    · rw [if_pos action, tail]

theorem merged_already_false {segment_id : String} {rows : List RawRow}
    (found : merged_already crates segment_id rows = .ok false) :
    (∀ row ∈ rows, row.action = ACTION_SEGMENT_MERGED → ∃ detail, decode crates row.detail_json = .ok detail) ∧
      ∀ row ∈ rows, ¬ MarksMerged crates segment_id row := by
  induction rows with
  | nil => simp
  | cons head rest ih =>
    rw [merged_already] at found
    by_cases action : head.action = ACTION_SEGMENT_MERGED
    · rw [if_neg (not_not.mpr action)] at found
      cases decoded : decode crates head.detail_json with
      | error error =>
        rw [decoded] at found
        cases found
      | ok detail =>
        rw [decoded] at found
        by_cases names : text_at "segment_id" detail = some segment_id
        · simp only [names, if_true] at found
          cases found
        · simp only [names, if_false] at found
          obtain ⟨readable, unmarked⟩ := ih found
          constructor
          · rintro row inside marker
            rcases List.mem_cons.mp inside with rfl | later
            · exact ⟨detail, decoded⟩
            · exact readable row later marker
          · rintro row inside marks
            rcases List.mem_cons.mp inside with rfl | later
            · obtain ⟨_, read, reads, here⟩ := marks
              rw [decoded] at reads
              cases reads
              exact names here
            · exact unmarked row later marks
    · rw [if_pos action] at found
      obtain ⟨readable, unmarked⟩ := ih found
      constructor
      · rintro row inside marker
        rcases List.mem_cons.mp inside with rfl | later
        · exact absurd marker action
        · exact readable row later marker
      · rintro row inside marks
        rcases List.mem_cons.mp inside with rfl | later
        · exact absurd marks.1 action
        · exact unmarked row later marks

/-- What an admitted segment's row says. -/
theorem mergeable_ok {db : AuditDb} {segment_id : String} {segment : Segment} (admitted : mergeable crates db segment_id = .ok segment) :
    db.segments.find segment_id = some segment ∧ segment.kind = .Temporary ∧
      (segment.state = .Open ∨ segment.state = .Closed) ∧
      merged_already crates segment_id db.audit_events.rows = .ok false ∧
      ∀ note, segment.note = some note → partial_merge_recorded note = false := by
  unfold mergeable at admitted
  cases found : db.segments.find segment_id with
  | none =>
    rw [found] at admitted
    cases admitted
  | some row =>
    rw [found] at admitted
    simp only at admitted
    by_cases kind : row.kind = .Temporary
    · rw [if_neg (not_not.mpr kind)] at admitted
      by_cases state : row.state ≠ .Open ∧ row.state ≠ .Closed
      · rw [if_pos state] at admitted
        cases admitted
      · rw [if_neg state] at admitted
        have live : row.state = .Open ∨ row.state = .Closed := by
          by_contra neither
          rw [not_or] at neither
          exact state neither
        cases marked : merged_already crates segment_id db.audit_events.rows with
        | error error =>
          rw [marked] at admitted
          cases admitted
        | ok already =>
          rw [marked] at admitted
          cases already with
          | true => cases admitted
          | false =>
            simp only at admitted
            cases noted : row.note with
            | none =>
              rw [noted] at admitted
              cases admitted
              exact ⟨rfl, kind, live, rfl, by simp [noted]⟩
            | some note =>
              rw [noted] at admitted
              simp only at admitted
              split_ifs at admitted with partly
              cases admitted
              refine ⟨rfl, kind, live, rfl, ?_⟩
              intro other same
              rw [noted] at same
              cases same
              simpa using partly
    · rw [if_pos kind] at admitted
      cases admitted

/-- A segment adopted under a name no row has stands closed in the table. -/
theorem AuditStore.adopt_segment_absent (store : AuditStore) {w : World} {segment_id : String}
    (absent : (w.db store).segments.find segment_id = none) (granted : w.updates.headD none = none)
    (head_prev_chain : Option String) (head_prev_length : Option Int) :
    store.adopt_segment segment_id head_prev_chain head_prev_length w =
      (.ok (), { w with updates := w.updates.tail }.put store { w.db store with
        segments := (w.db store).segments.replace {
          segment_id, kind := .Temporary, head_hash := none, head_prev_chain, head_prev_length, opened_at_ms := none,
          closed_at_ms := none, state := .Closed, note := some "adopted from another node" } }) := by
  have looked : store.segment segment_id w = (.ok none, w) := by rw [segment, get_run, absent]
  rw [adopt_segment, bind_of_ok looked, if_neg (by simp), insert_segment]
  simp only
  rw [bind_of_ok looked, if_neg (by simp)]
  exact execute_granted store granted _

/-! ### Appends one after the other -/

/-- How many of so many appends are granted before one is refused, the error of that one, and the answers left. -/
def settle_all : Nat → List (Option AuditError) → Option (Nat × AuditError) × List (Option AuditError)
  | 0, answers => (none, answers)
  | n + 1, answers =>
    match settle (AuditStore.APPEND_MAX_ATTEMPTS - 1) answers with
    | (some error, rest) => (some (0, error), rest)
    | (none, rest) =>
      match settle_all n rest with
      | (some (granted, error), rest) => (some (granted + 1, error), rest)
      | (none, rest) => (none, rest)

/-- However many appends are to come, none of them is refused for good. -/
def Unrefused (answers : List (Option AuditError)) : Prop := ∀ n, (settle_all n answers).1 = none

section Unrefused
variable {answers : List (Option AuditError)}

/-- The first append is granted, and so are those after it. -/
theorem Unrefused.one (unrefused : Unrefused answers) :
    (settle (AuditStore.APPEND_MAX_ATTEMPTS - 1) answers).1 = none ∧
      Unrefused (settle (AuditStore.APPEND_MAX_ATTEMPTS - 1) answers).2 := by
  cases first : settle (AuditStore.APPEND_MAX_ATTEMPTS - 1) answers with
  | mk answer rest =>
    cases answer with
    | some error =>
      have refused := unrefused 1
      rw [settle_all, first] at refused
      cases refused
    | none =>
      refine ⟨rfl, fun n => ?_⟩
      have granted := unrefused (n + 1)
      rw [settle_all, first] at granted
      cases later : settle_all n rest with
      | mk outcome left =>
        simp only [later] at granted
        cases outcome with
        | none => rfl
        | some refusal => cases granted

theorem Unrefused.several (unrefused : Unrefused answers) (n : Nat) :
    (settle_all n answers).1 = none ∧ Unrefused (settle_all n answers).2 := by
  induction n generalizing answers with
  | zero => exact ⟨rfl, unrefused⟩
  | succ n ih =>
    obtain ⟨granted, later⟩ := unrefused.one
    cases first : settle (AuditStore.APPEND_MAX_ATTEMPTS - 1) answers with
    | mk answer rest =>
      rw [first] at granted later
      simp only at granted later
      subst granted
      obtain ⟨none_refused, left⟩ := ih later
      rw [settle_all, first]
      simp only
      cases outcome : settle_all n rest with
      | mk refusal left_over =>
        rw [outcome] at none_refused left
        simp only at none_refused left
        subst none_refused
        exact ⟨rfl, left⟩

theorem Unrefused.append_error {w : World} (unrefused : Unrefused w.appends) : w.append_error = none :=
  unrefused.one.1
theorem Unrefused.append_spent {w : World} (unrefused : Unrefused w.appends) : Unrefused w.append_spent.appends :=
  unrefused.one.2

/-- Attempts that all succeed are refused nothing. -/
theorem unrefused_of_granted (granted : ∀ answer ∈ answers, answer = none) : Unrefused answers := by
  intro n
  induction n generalizing answers with
  | zero => rfl
  | succ n ih =>
    have first : settle (AuditStore.APPEND_MAX_ATTEMPTS - 1) answers = (none, answers.tail) := by
      cases answers with
      | nil => rfl
      | cons answer rest =>
        rw [granted answer List.mem_cons_self]
        rfl
    have later := ih fun answer inside => granted answer (List.mem_of_mem_tail inside)
    rw [settle_all, first]
    simp only
    cases outcome : settle_all n answers.tail with
    | mk refusal left =>
      rw [outcome] at later
      simp only at later
      subst later
      rfl

theorem unrefused_nil : Unrefused [] := unrefused_of_granted nofun

end Unrefused

namespace World
variable (w : World) (store : AuditStore)

/-- The world with events appended to a store in order. -/
def appended_all (events : List AuditEvent) : World := events.foldl (fun w event => w.appended crates store event) w

@[simp] theorem appended_all_nil : w.appended_all crates store [] = w := rfl
@[simp] theorem appended_all_cons (event : AuditEvent) (events : List AuditEvent) :
    w.appended_all crates store (event :: events) = (w.appended crates store event).appended_all crates store events := rfl

theorem appended_all_db (events : List AuditEvent) (other : AuditStore) :
    (w.appended_all crates store events).db other =
      if other = store then { w.db store with audit_events := (w.db store).audit_events.append_all crates events }
      else w.db other := by
  induction events generalizing w with
  | nil =>
    by_cases same : other = store
    · rw [if_pos same, same]
      rfl
    · rw [if_neg same]
      rfl
  | cons event events ih =>
    rw [appended_all_cons, ih]
    by_cases same : other = store
    · simp [same, World.appended]
    · simp [same, World.appended, db_put]

@[simp] theorem appended_all_appends (events : List AuditEvent) :
    (w.appended_all crates store events).appends = w.appends := by
  induction events generalizing w with
  | nil => rfl
  | cons event events ih => exact ih (w.appended crates store event)
@[simp] theorem appended_all_updates (events : List AuditEvent) :
    (w.appended_all crates store events).updates = w.updates := by
  induction events generalizing w with
  | nil => rfl
  | cons event events ih => exact ih (w.appended crates store event)
@[simp] theorem appended_all_clock (events : List AuditEvent) : (w.appended_all crates store events).clock = w.clock := by
  induction events generalizing w with
  | nil => rfl
  | cons event events ih => exact ih (w.appended crates store event)

end World

namespace AuditStore
variable (store : AuditStore)

/-- The transcription appends as many events as are granted, and notes the first refusal on the row. -/
theorem transcribe_run (segment_id : String) (total : Nat) (events : List StoredEvent) (merged : Nat) (w : World) :
    store.transcribe crates segment_id total events merged w =
      match settle_all events.length w.appends with
      | (none, rest) =>
        (.ok (merged + events.length), { w with appends := rest }.appended_all crates store (events.map outgoing))
      | (some (granted, error), rest) =>
        (.error error, (store.set_segment_note segment_id (partial_merge_note (merged + granted) total error)
          ({ w with appends := rest }.appended_all crates store ((events.take granted).map outgoing))).2) := by
  induction events generalizing merged w with
  | nil => rfl
  | cons event rest ih =>
    rw [transcribe, bind_run, attempt_run, List.length_cons, settle_all]
    cases first : settle (APPEND_MAX_ATTEMPTS - 1) w.appends with
    | mk answer left =>
      cases answer with
      | some error =>
        have refused : w.append_error = some error := by rw [World.append_error, first]
        have spent : w.append_spent = { w with appends := left } := by rw [World.append_spent, first]
        rw [append_refused crates store refused, spent]
        rfl
      | none =>
        have granted : w.append_error = none := by rw [World.append_error, first]
        have spent : w.append_spent = { w with appends := left } := by rw [World.append_spent, first]
        rw [append_granted crates store granted, spent]
        simp only [ih]
        cases later : settle_all rest.length left with
        | mk outcome answers =>
          have here : settle_all rest.length ({ w with appends := left }.appended crates store (outgoing event)).appends =
              (outcome, answers) := later
          rw [here]
          rcases outcome with _ | ⟨count, error⟩
          · simp only [List.map_cons, World.appended_all_cons, Nat.add_assoc, Nat.add_comm 1]
            rfl
          · simp only [List.take_succ_cons, List.map_cons, World.appended_all_cons, Nat.add_assoc, Nat.add_comm 1]
            rfl

end AuditStore

/-! ### The two ends of a merge -/

/-- The row update's answer used up, and two readings of the clock. -/
def World.updated (w : World) : World := { w with updates := w.updates.tail }
def World.ticked (w : World) : World := { w with clock := w.clock.tail.tail }

@[simp] theorem updated_db (w : World) (store : AuditStore) : w.updated.db store = w.db store := rfl
@[simp] theorem ticked_db (w : World) (store : AuditStore) : w.ticked.db store = w.db store := rfl
@[simp] theorem ticked_updates (w : World) : w.ticked.updates = w.updates := rfl
@[simp] theorem ticked_append_error (w : World) : w.ticked.append_error = w.append_error := rfl

/-- The markers, made from two readings of the clock. -/
def forked_event (segment : Segment) (conflict : Conflict) (clock : List Int) : AuditEvent :=
  .new (clock.tail.headD 0) "host" ACTION_SEGMENT_FORKED (segment_forked_detail segment.segment_id segment.kind
    (clock.headD 0) (conflict_reason conflict) (some conflict.id))
def merged_event (segment : Segment) (merged : Nat) (clock : List Int) : AuditEvent :=
  .new (clock.tail.headD 0) "host" ACTION_SEGMENT_MERGED (segment_merged_detail segment.segment_id segment.kind
    (clock.headD 0) merged)

namespace AuditStore
variable (store : AuditStore)

theorem update_segment_granted {w : World} (granted : w.updates.headD none = none) (segment_id : String)
    (rewrite : Segment → Segment) (keeps : ∀ s, (rewrite s).segment_id = s.segment_id) :
    store.update_segment segment_id rewrite keeps w =
      (.ok (), w.updated.put store { w.db store with segments := (w.db store).segments.update segment_id rewrite keeps }) :=
  execute_granted store granted _

theorem update_segment_refused {w : World} {error : AuditError} (refused : w.updates.headD none = some error)
    (segment_id : String) (rewrite : Segment → Segment) (keeps : ∀ s, (rewrite s).segment_id = s.segment_id) :
    store.update_segment segment_id rewrite keeps w = (.error error, w.updated) :=
  execute_refused store refused _

variable (segment : Segment)

/-- Once the clock was read, the end of a conflict is one append and one row update. -/
theorem fork_segment_ticked (conflict : Conflict) (w : World) :
    store.fork_segment crates segment conflict w =
      (do
        let _ ← store.append crates (forked_event segment conflict w.clock)
        store.mark_segment_forked segment.segment_id (conflict_reason conflict)
        return .Forked (conflict_reason conflict) : Act MergeOutcome) w.ticked := rfl

theorem fork_segment_refused (conflict : Conflict) {w : World} {error : AuditError}
    (refused : w.append_error = some error) :
    store.fork_segment crates segment conflict w = (.error error, w.ticked.append_spent) := by
  rw [fork_segment_ticked]
  exact bind_of_error (append_refused crates store (w := w.ticked) refused _)

theorem fork_segment_unmarked (conflict : Conflict) {w : World} {error : AuditError}
    (granted : w.append_error = none) (refused : w.updates.headD none = some error) :
    store.fork_segment crates segment conflict w =
      (.error error, (w.ticked.append_spent.appended crates store (forked_event segment conflict w.clock)).updated) := by
  rw [fork_segment_ticked]
  refine (bind_of_ok (append_granted crates store (w := w.ticked) granted _)).trans (bind_of_error ?_)
  refine update_segment_refused store ?_ _ _ _
  exact refused

theorem fork_segment_marked (conflict : Conflict) {w : World}
    (granted : w.append_error = none) (marked : w.updates.headD none = none) :
    ∃ after, store.fork_segment crates segment conflict w = (.ok (.Forked (conflict_reason conflict)), after) ∧
      ∀ other, after.db other = if other = store then
        { w.db store with
          audit_events := ((w.db store).audit_events.append crates (forked_event segment conflict w.clock)).2
          segments := (w.db store).segments.update segment.segment_id
            (fun s => { s with state := .Forked, note := some (conflict_reason conflict) }) fun _ => rfl }
        else w.db other := by
  rw [fork_segment_ticked]
  have append := append_granted crates store (w := w.ticked) granted (forked_event segment conflict w.clock)
  have mark := update_segment_granted store
    (w := w.ticked.append_spent.appended crates store (forked_event segment conflict w.clock)) marked segment.segment_id
    (fun s => { s with state := .Forked, note := some (conflict_reason conflict) }) fun _ => rfl
  refine ⟨_, (bind_of_ok append).trans (bind_of_ok mark), ?_⟩
  intro other
  rw [World.db_put]
  by_cases same : other = store
  · simp [same, World.appended]
  · simp [same, World.appended, World.db_put]

/-- The transcription was refused part way. -/
theorem fold_segment_partial (events : List StoredEvent) {w : World} {granted : Nat} {error : AuditError}
    {rest : List (Option AuditError)} (refused : settle_all events.length w.appends = (some (granted, error), rest)) :
    store.fold_segment crates segment events w =
      (.error error, (store.set_segment_note segment.segment_id (partial_merge_note granted events.length error)
        ({ w with appends := rest }.appended_all crates store ((events.take granted).map outgoing))).2) := by
  have run := transcribe_run crates store segment.segment_id events.length events 0 w
  simp only [refused, Nat.zero_add] at run
  rw [fold_segment, bind_run, run]

/-- The world after the transcription was granted, the marker next. -/
def transcribed (events : List StoredEvent) (w : World) : World :=
  { w with appends := (settle_all events.length w.appends).2 }.appended_all crates store (events.map outgoing)

theorem transcribed_db (events : List StoredEvent) (w : World) (other : AuditStore) :
    (store.transcribed crates events w).db other = if other = store then
      { w.db store with audit_events := (w.db store).audit_events.append_all crates (events.map outgoing) }
      else w.db other :=
  World.appended_all_db crates _ store (events.map outgoing) other

theorem fold_segment_transcribed (events : List StoredEvent) {w : World}
    (granted : (settle_all events.length w.appends).1 = none) :
    store.fold_segment crates segment events w =
      (do
        let _ ← store.append crates (merged_event segment events.length w.clock)
        store.mark_segment_folded segment.segment_id (← store.last_hash)
        return .Folded events.length : Act MergeOutcome) (store.transcribed crates events w).ticked := by
  have run := transcribe_run crates store segment.segment_id events.length events 0 w
  cases outcome : settle_all events.length w.appends with
  | mk answer rest =>
    rw [outcome] at granted
    subst granted
    rw [outcome, Nat.zero_add] at run
    refine (bind_of_ok run).trans ?_
    rw [transcribed, outcome]
    simp only [bind_run, now_ms, World.ticked, World.appended_all_clock, merged_event]

theorem fold_segment_unmerged (events : List StoredEvent) {w : World} {error : AuditError}
    (granted : (settle_all events.length w.appends).1 = none)
    (refused : (store.transcribed crates events w).append_error = some error) :
    store.fold_segment crates segment events w =
      (.error error, (store.transcribed crates events w).ticked.append_spent) := by
  rw [fold_segment_transcribed crates store segment events granted]
  exact bind_of_error (append_refused crates store (w := World.ticked _) refused _)

theorem fold_segment_unmarked (events : List StoredEvent) {w : World} {error : AuditError}
    (granted : (settle_all events.length w.appends).1 = none)
    (merged : (store.transcribed crates events w).append_error = none) (refused : w.updates.headD none = some error) :
    store.fold_segment crates segment events w =
      (.error error, ((store.transcribed crates events w).ticked.append_spent.appended crates store
        (merged_event segment events.length w.clock)).updated) := by
  rw [fold_segment_transcribed crates store segment events granted]
  refine (bind_of_ok (append_granted crates store (w := World.ticked _) merged _)).trans ?_
  refine (bind_of_ok rfl).trans (bind_of_error ?_)
  refine update_segment_refused store ?_ _ _ _
  simpa [transcribed, World.appended] using refused

theorem fold_segment_marked (events : List StoredEvent) {w : World}
    (granted : (settle_all events.length w.appends).1 = none)
    (merged : (store.transcribed crates events w).append_error = none) (marked : w.updates.headD none = none) :
    ∃ after, store.fold_segment crates segment events w = (.ok (.Folded events.length), after) ∧
      after.updates = w.updates.tail ∧ ∀ other, after.db other = if other = store then
        let audit_events := (w.db store).audit_events.append_all crates
          (events.map outgoing ++ [merged_event segment events.length w.clock])
        { w.db store with
          audit_events
          segments := (w.db store).segments.update segment.segment_id
            (fun s => { s with state := .Folded, head_hash := audit_events.last_hash }) fun _ => rfl }
        else w.db other := by
  rw [fold_segment_transcribed crates store segment events granted]
  have append := append_granted crates store (w := (store.transcribed crates events w).ticked) merged
    (merged_event segment events.length w.clock)
  have last : ∀ v : World, store.last_hash v = (.ok (v.db store).audit_events.last_hash, v) := fun _ => rfl
  have mark := update_segment_granted store
    (w := (store.transcribed crates events w).ticked.append_spent.appended crates store
      (merged_event segment events.length w.clock))
    (by simpa [transcribed, World.appended] using marked) segment.segment_id
    (fun s => { s with
      state := .Folded
      head_hash := (((store.transcribed crates events w).ticked.append_spent.appended crates store
        (merged_event segment events.length w.clock)).db store).audit_events.last_hash }) fun _ => rfl
  refine ⟨_, (bind_of_ok append).trans ((bind_of_ok (last _)).trans (bind_of_ok mark)), ?_, ?_⟩
  · simp [World.updated, World.appended, transcribed]
  · intro other
    rw [World.db_put]
    by_cases same : other = store
    · simp only [same, if_true, World.appended, World.db_put_self, World.append_spent_db, ticked_db, transcribed_db,
        append_all_append, append_all_cons, append_all_nil]
    · simp [same, World.appended, World.db_put, transcribed_db]

end AuditStore

end Riscdom.Audit
