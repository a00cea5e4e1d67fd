import Riscdom.SegmentLife

/-!
The opening of a segment: its row first, then its event, and the row taken back
when the event is refused. Row and event correspond after every call, unless the
row that should go cannot be taken back.
-/
namespace Riscdom.Audit
open Riscdom.Json Riscdom.HashChain Riscdom.KeyedTable Fallible.Act Riscdom.Machine

/-! ### Rows and their opening events -/

/-- The rows hold one opening event of the segment, and the segment's anchor is the row just before it. -/
def Anchored (crates : Crates) (segment : Segment) (rows : List RawRow) : Prop :=
  ∃ front row back, rows = front ++ row :: back ∧
    marks crates ACTION_SEGMENT_OPENED segment.segment_id row = true ∧
    markers crates ACTION_SEGMENT_OPENED segment.segment_id front = 0 ∧
    markers crates ACTION_SEGMENT_OPENED segment.segment_id back = 0 ∧
    segment.head_prev_chain = front.getLast?.map RawRow.hash ∧ segment.head_prev_length = front.getLast?.map RawRow.id

/-- The segments opened here are anchored each, and a name that no row has is the name of no opening event. -/
structure Accounted (crates : Crates) (store : AuditStore) (w : World) : Prop where
  anchored : ∀ segment_id segment, w.segment store segment_id = some segment → segment.opened_at_ms.isSome →
    Anchored crates segment (w.rows store)
  unnamed : ∀ segment_id, w.segment store segment_id = none →
    markers crates ACTION_SEGMENT_OPENED segment_id (w.rows store) = 0

section
variable {crates : Crates} {store : AuditStore} {segment_id : String}

theorem markers_append (action : String) (first second : List RawRow) :
    markers crates action segment_id (first ++ second) =
      markers crates action segment_id first + markers crates action segment_id second := List.countP_append

theorem markers_cons (action : String) (row : RawRow) (rows : List RawRow) :
    markers crates action segment_id (row :: rows) =
      markers crates action segment_id rows + if marks crates action segment_id row then 1 else 0 := List.countP_cons

/-- An anchored segment has exactly one opening event. -/
theorem Anchored.once {segment : Segment} {rows : List RawRow} (anchored : Anchored crates segment rows) :
    markers crates ACTION_SEGMENT_OPENED segment.segment_id rows = 1 := by
  obtain ⟨front, row, back, rfl, marking, before, after, _⟩ := anchored
  rw [markers_append, markers_cons, before, after, if_pos marking]

/-- Events of other kinds after it leave the anchor in place. -/
theorem Anchored.grown {segment : Segment} {rows more : List RawRow} (anchored : Anchored crates segment rows)
    (quiet : markers crates ACTION_SEGMENT_OPENED segment.segment_id more = 0) : Anchored crates segment (rows ++ more) := by
  obtain ⟨front, row, back, rfl, marking, before, after, chain, length⟩ := anchored
  refine ⟨front, row, back ++ more, by simp, marking, before, ?_, chain, length⟩
  rw [markers_append, after, quiet]

theorem quiet_of_action {rows : List RawRow} (other : ∀ row ∈ rows, row.action ≠ ACTION_SEGMENT_OPENED) :
    markers crates ACTION_SEGMENT_OPENED segment_id rows = 0 := by
  refine List.countP_eq_zero.mpr fun row inside => ?_
  simp [marks, other row inside]

end

/-! ### A call among the events of other connections -/

/-- What other connections append while a call runs: between the two readings of its anchor, before its row is written, before
    each attempt of its append, and before the row is taken back. What comes ahead of the first reading is there when the
    call begins, for it leaves the segments alone. -/
structure Meanwhile where
  reading : List AuditEvent
  writing : List AuditEvent
  waiting : List (List AuditEvent)
  clearing : List AuditEvent

namespace Meanwhile

def still : Meanwhile := ⟨[], [], [], []⟩

def events (m : Meanwhile) : List AuditEvent := m.reading ++ m.writing ++ m.waiting.flatten ++ m.clearing

/-- The events that come before the attempts that are made, so many being left. -/
def arrived : Nat → List (Option AuditError) → List (List AuditEvent) → List AuditEvent
  | 0, _, waiting => waiting.headD []
  | left + 1, answers, waiting =>
    waiting.headD [] ++ match answers.headD none with
      | some error => if is_lock_error error then arrived left answers.tail waiting.tail else []
      | none => []

theorem arrived_nil (left : Nat) (answers : List (Option AuditError)) : arrived left answers [] = [] := by
  induction left generalizing answers with
  | zero => rfl
  | succ left ih =>
    rw [arrived, List.tail_nil]
    cases answers.headD none with
    | none => rfl
    | some error => simp [ih]

/-- The events that come before the attempts are among those that could. -/
theorem arrived_subset (left : Nat) (answers : List (Option AuditError)) (waiting : List (List AuditEvent)) :
    arrived left answers waiting ⊆ waiting.flatten := by
  have first : waiting.headD [] ⊆ waiting.flatten := by cases waiting <;> simp
  induction left generalizing answers waiting with
  | zero => exact first
  | succ left ih =>
    rw [arrived]
    refine List.append_subset.mpr ⟨first, ?_⟩
    have later : waiting.tail.flatten ⊆ waiting.flatten := by cases waiting <;> simp
    cases answers.headD none with
    | none => exact List.nil_subset _
    | some error =>
      simp only
      split_ifs
      · exact List.Subset.trans (ih _ _ (by cases waiting.tail <;> simp)) later
      · exact List.nil_subset _

/-- The events that come after the first reading and before the last attempt. -/
def ahead (m : Meanwhile) (answers : List (Option AuditError)) : List AuditEvent :=
  m.reading ++ m.writing ++ arrived (AuditStore.APPEND_MAX_ATTEMPTS - 1) answers m.waiting

theorem before_subset (m : Meanwhile) : m.reading ++ m.writing ⊆ m.events := by
  rw [events, List.append_assoc]
  exact List.subset_append_left _ _

theorem through_subset (m : Meanwhile) (answers : List (Option AuditError)) : m.ahead answers ++ m.clearing ⊆ m.events := by
  rw [ahead, events]
  refine List.append_subset.mpr ⟨List.append_subset.mpr ⟨?_, ?_⟩, List.subset_append_right _ _⟩
  · exact List.subset_append_of_subset_left _ (List.subset_append_left _ _)
  · exact List.subset_append_of_subset_left _ (List.subset_append_of_subset_right _ (arrived_subset _ _ _))

theorem ahead_subset (m : Meanwhile) (answers : List (Option AuditError)) : m.ahead answers ⊆ m.events :=
  List.Subset.trans (List.subset_append_left _ _) (m.through_subset answers)

end Meanwhile

/-- A store with the events of other connections on its chain. -/
def AuditDb.beside (crates : Crates) (db : AuditDb) (events : List AuditEvent) : AuditDb :=
  { db with audit_events := db.audit_events.append_all crates events }

/-- The world after the clock was read. -/
def World.later (w : World) : World := { w with clock := w.clock.tail }

namespace AuditStore
variable (crates : Crates) (store : AuditStore)

/-- Events of other connections come onto the chain. -/
def arrive (events : List AuditEvent) : Act Unit := fun w => (.ok (), w.appended_all crates store events)

/-- `append_retrying`, with the events of other connections before each attempt. -/
def append_retrying_beside (event : AuditEvent) : Nat → List (List AuditEvent) → Act StoredEvent
  | 0, waiting => do
    arrive crates store (waiting.headD [])
    append_once crates store event
  | left + 1, waiting => do
    arrive crates store (waiting.headD [])
    match ← attempt (append_once crates store event) with
    | .ok stored => return stored
    | .error error => if is_lock_error error then append_retrying_beside event left waiting.tail else fail error

def append_beside (event : AuditEvent) (waiting : List (List AuditEvent)) : Act StoredEvent :=
  append_retrying_beside crates store event (max APPEND_MAX_ATTEMPTS 1 - 1) waiting

/-- The call once it has a name and an anchor: the row, the event, and the row taken back. -/
def record_opening (segment : Segment) (m : Meanwhile) : Act Segment := do
  store.insert_segment segment
  match ← attempt (append_beside crates store
    (.new (← now_ms) "host" ACTION_SEGMENT_OPENED (segment_opened_detail segment)) m.waiting) with
  | .ok _ => return segment
  | .error error =>
    arrive crates store m.clearing
    store.execute fun db => { db with segments := db.segments.delete segment.segment_id }
    fail error

/-- `open_segment_inner`, with the events of other connections between its statements. -/
def open_segment_beside (kind : SegmentKind) (owner : Option String) (m : Meanwhile) : Act Segment := do
  let now ← now_ms
  let segment_id ← store.free_segment_id now owner
  let head_prev_chain ← last_hash store
  arrive crates store m.reading
  let head_prev_length ← last_id store
  arrive crates store m.writing
  record_opening crates store
    { segment_id, kind, head_hash := none, head_prev_chain, head_prev_length, opened_at_ms := some now, closed_at_ms := none,
      state := .Open, note := none } m

end AuditStore

section
variable {crates : Crates} {store : AuditStore}

theorem appended_all_append (w : World) (first second : List AuditEvent) :
    w.appended_all crates store (first ++ second) = (w.appended_all crates store first).appended_all crates store second :=
  List.foldl_append

theorem beside_append (db : AuditDb) (first second : List AuditEvent) :
    db.beside crates (first ++ second) = (db.beside crates first).beside crates second := by
  rw [AuditDb.beside, append_all_append]
  rfl

/-- Events of other connections change the chain alone. -/
theorem joined_db (w : World) (events : List AuditEvent) :
    (w.appended_all crates store events).db store = (w.db store).beside crates events := by
  rw [World.appended_all_db, if_pos rfl]
  rfl

/-- They leave the answers to come. -/
theorem joined_answers (w : World) (events : List AuditEvent) (appends : List (Option AuditError)) :
    World.appended_all crates { w with appends } store events = { w.appended_all crates store events with appends } := by
  induction events generalizing w with
  | nil => rfl
  | cons event rest ih => exact ih (w.appended crates store event)

theorem joined_error (w : World) (events : List AuditEvent) :
    (w.appended_all crates store events).append_error = w.append_error := by
  rw [World.append_error, World.appended_all_appends, World.append_error]

theorem arrive_run (events : List AuditEvent) (w : World) :
    store.arrive crates events w = (.ok (), w.appended_all crates store events) := rfl

/-- The attempts come to what they come to after the events that arrive before the last of them. -/
theorem append_retrying_beside_run (event : AuditEvent) (left : Nat) (waiting : List (List AuditEvent)) (w : World) :
    store.append_retrying_beside crates event left waiting w =
      store.append_retrying crates event left (w.appended_all crates store (Meanwhile.arrived left w.appends waiting)) := by
  induction left generalizing waiting w with
  | zero => rfl
  | succ left ih =>
    rw [AuditStore.append_retrying_beside, bind_of_ok (arrive_run _ w), bind_run, attempt_run, Meanwhile.arrived]
    generalize waiting.headD [] = first
    cases answer : w.appends.headD none with
    | none =>
      have granted : (w.appended_all crates store first).appends.headD none = none := by rw [World.appended_all_appends, answer]
      rw [AuditStore.append_once_granted crates store granted, List.append_nil,
        AuditStore.append_retrying_granted crates store granted]
      rfl
    | some error =>
      have refused : (w.appended_all crates store first).appends.headD none = some error := by rw [World.appended_all_appends, answer]
      rw [AuditStore.append_once_refused crates store refused]
      by_cases locked : is_lock_error error = true
      · have again : (w.appended_all crates store (first ++ Meanwhile.arrived left w.appends.tail waiting.tail)).appends.headD none =
            some error := by rw [World.appended_all_appends, answer]
        simp only [locked, if_true]
        rw [AuditStore.append_retrying_locked crates store again locked, ih, appended_all_append, World.appended_all_appends]
        simp only [World.appended_all_appends]
        congr 1
        exact joined_answers (w.appended_all crates store first) _ w.appends.tail
      · simp only [locked, Bool.false_eq_true, if_false, List.append_nil]
        rw [AuditStore.append_retrying_refused crates store refused event (.inr locked)]
        rfl

theorem append_beside_run (event : AuditEvent) (waiting : List (List AuditEvent)) (w : World) :
    store.append_beside crates event waiting w = store.append crates event
      (w.appended_all crates store (Meanwhile.arrived (AuditStore.APPEND_MAX_ATTEMPTS - 1) w.appends waiting)) :=
  append_retrying_beside_run event _ waiting w

/-- With nothing between its statements the call is the code's own. -/
theorem open_segment_beside_still (kind : SegmentKind) (owner : Option String) :
    store.open_segment_beside crates kind owner .still = store.open_segment_inner crates kind owner := by
  have append (event : AuditEvent) : store.append_beside crates event [] = store.append crates event := by
    funext w
    rw [append_beside_run, Meanwhile.arrived_nil]
    rfl
  funext w
  simp only [AuditStore.open_segment_beside, AuditStore.open_segment_inner, AuditStore.record_opening, Meanwhile.still, append]
  rfl

end

/-! ### What one call does -/

/-- The row that an opening writes. -/
def new_segment (crates : Crates) (store : AuditStore) (kind : SegmentKind) (m : Meanwhile) (w : World) (segment_id : String) :
    Segment where
  segment_id := segment_id
  kind := kind
  head_hash := none
  head_prev_chain := (w.db store).audit_events.last_hash
  head_prev_length := ((w.db store).audit_events.append_all crates m.reading).last_id
  opened_at_ms := some (w.clock.headD 0)
  closed_at_ms := none
  state := .Open
  note := none

@[simp] theorem new_segment_id (crates : Crates) (store : AuditStore) (kind : SegmentKind) (m : Meanwhile) (w : World)
    (id : String) : (new_segment crates store kind m w id).segment_id = id := rfl

/-- The event that an opening appends. -/
def opening_event (segment : Segment) (w : World) : AuditEvent :=
  .new (w.clock.tail.headD 0) "host" ACTION_SEGMENT_OPENED (segment_opened_detail segment)

/-- The row is written: there is a name for it, and the statement is granted. -/
def Written (store : AuditStore) (owner : Option String) (w : World) : Prop :=
  (∃ id, AuditStore.free_id (w.db store).segments (w.clock.headD 0) owner = .ok id) ∧ w.updates.headD none = none

/-- The row is written, its event refused, and the row cannot be taken back. -/
def Stranded (store : AuditStore) (owner : Option String) (w : World) : Prop :=
  Written store owner w ∧ w.append_error ≠ none ∧ w.updates.tail.headD none ≠ none

/-- The row and its event are written, and the newest row before the event is not the one that the anchor was read of. -/
def Overtaken (crates : Crates) (store : AuditStore) (owner : Option String) (m : Meanwhile) (w : World) : Prop :=
  Written store owner w ∧ w.append_error = none ∧
    ¬ ((w.db store).audit_events.last_hash = ((w.db store).audit_events.append_all crates (m.ahead w.appends)).last_hash ∧
      ((w.db store).audit_events.append_all crates m.reading).last_id =
        ((w.db store).audit_events.append_all crates (m.ahead w.appends)).last_id)

/-- The three ends of a call: no segment is opened, the row is there with its event, or the row without. -/
inductive OpeningEnd (crates : Crates) (store : AuditStore) (kind : SegmentKind) (owner : Option String) (m : Meanwhile)
    (w : World) : Except AuditError Segment → AuditDb → Prop
  | refused (error : AuditError) (events : List AuditEvent) (inside : events ⊆ m.events) (clear : ¬ Stranded store owner w)
      (behind : ¬ Overtaken crates store owner m w) :
    OpeningEnd crates store kind owner m w (.error error) ((w.db store).beside crates events)
  | opened (id : String) (written : Written store owner w) (recorded : w.append_error = none)
      (fresh : (w.db store).segments.find id = none) :
    OpeningEnd crates store kind owner m w (.ok (new_segment crates store kind m w id))
      { w.db store with
        segments := (w.db store).segments.replace (new_segment crates store kind m w id)
        audit_events := (((w.db store).audit_events.append_all crates (m.ahead w.appends)).append crates
          (opening_event (new_segment crates store kind m w id) w)).2 }
  | stranded (error : AuditError) (id : String) (events : List AuditEvent) (inside : events ⊆ m.events)
      (stuck : Stranded store owner w) (fresh : (w.db store).segments.find id = none) :
    OpeningEnd crates store kind owner m w (.error error)
      { (w.db store).beside crates events with
        segments := (w.db store).segments.replace (new_segment crates store kind m w id) }

section
variable {crates : Crates} {store : AuditStore} {segment_id : String}

@[simp] theorem later_db (w : World) (on : AuditStore) : w.later.db on = w.db on := rfl

theorem free_segment_id_run (owner : Option String) (w : World) :
    store.free_segment_id (w.clock.headD 0) owner w.later =
      (AuditStore.free_id (w.db store).segments (w.clock.headD 0) owner, w.later) := by
  rw [AuditStore.free_segment_id, bind_run, AuditStore.read, get_run, later_db]
  rfl

theorem open_segment_named (kind : SegmentKind) {owner : Option String} (m : Meanwhile) {w : World} {id : String}
    (given : AuditStore.free_id (w.db store).segments (w.clock.headD 0) owner = .ok id) :
    store.open_segment_beside crates kind owner m w = store.record_opening crates (new_segment crates store kind m w id) m
      (w.later.appended_all crates store (m.reading ++ m.writing)) := by
  have tick : now_ms w = (.ok (w.clock.headD 0), w.later) := rfl
  have named := @free_segment_id_run store owner w
  rw [given] at named
  have hash : store.last_hash w.later = (.ok (w.db store).audit_events.last_hash, w.later) := rfl
  have id : store.last_id (w.later.appended_all crates store m.reading) =
      (.ok ((w.db store).audit_events.append_all crates m.reading).last_id, w.later.appended_all crates store m.reading) := by
    rw [AuditStore.last_id, get_run, joined_db, later_db]
    rfl
  rw [AuditStore.open_segment_beside, bind_of_ok tick, bind_of_ok named, bind_of_ok hash, bind_of_ok (arrive_run _ _),
    bind_of_ok id, bind_of_ok (arrive_run _ _), ← appended_all_append]
  rfl

theorem insert_segment_fresh {segment : Segment} {w : World} (fresh : (w.db store).segments.find segment.segment_id = none) :
    store.insert_segment segment w = store.execute (fun db => { db with segments := db.segments.replace segment }) w := by
  have looked : store.segment segment.segment_id w = (.ok none, w) := by
    rw [AuditStore.segment, get_run, fresh]
  rw [AuditStore.insert_segment, bind_of_ok looked, if_neg (by simp)]

/-- The world with the row in it. -/
def World.rowed (w : World) (store : AuditStore) (segment : Segment) : World :=
  w.updated.put store { w.db store with segments := (w.db store).segments.replace segment }

theorem rowed_db (w : World) (segment : Segment) :
    (w.rowed store segment).db store = { w.db store with segments := (w.db store).segments.replace segment } :=
  World.db_put_self _ _ _

section Recorded
variable {segment : Segment} {m : Meanwhile} {w : World} (fresh : (w.db store).segments.find segment.segment_id = none)
include fresh

theorem record_opening_refused {error : AuditError} (refused : w.updates.headD none = some error) :
    store.record_opening crates segment m w = (.error error, w.updated) := by
  rw [AuditStore.record_opening, bind_of_error]
  rw [insert_segment_fresh fresh]
  exact AuditStore.execute_refused store refused _

/-- The append of a row that was written, after the events that come before its last attempt. -/
theorem record_opening_written (granted : w.updates.headD none = none) :
    store.record_opening crates segment m w = (do
      match ← attempt (store.append crates
        (.new (w.clock.headD 0) "host" ACTION_SEGMENT_OPENED (segment_opened_detail segment))) with
      | .ok _ => return segment
      | .error error =>
        store.arrive crates m.clearing
        store.execute fun db => { db with segments := db.segments.delete segment.segment_id }
        fail error : Act Segment) ((w.rowed store segment).later.appended_all crates store
          (Meanwhile.arrived (AuditStore.APPEND_MAX_ATTEMPTS - 1) w.appends m.waiting)) := by
  have insert : store.insert_segment segment w = (.ok (), w.rowed store segment) := by
    rw [insert_segment_fresh fresh]
    exact AuditStore.execute_granted store granted _
  have tick : now_ms (w.rowed store segment) = (.ok (w.clock.headD 0), (w.rowed store segment).later) := rfl
  rw [AuditStore.record_opening, bind_of_ok insert, bind_of_ok tick, bind_run, attempt_run, append_beside_run, bind_run,
    attempt_run]
  rfl

theorem record_opening_appended (granted : w.updates.headD none = none) (recorded : w.append_error = none) :
    store.record_opening crates segment m w = (.ok segment,
      (((w.rowed store segment).later.appended_all crates store
        (Meanwhile.arrived (AuditStore.APPEND_MAX_ATTEMPTS - 1) w.appends m.waiting)).append_spent).appended crates store
          (.new (w.clock.headD 0) "host" ACTION_SEGMENT_OPENED (segment_opened_detail segment))) := by
  have recorded_later : ((w.rowed store segment).later.appended_all crates store
      (Meanwhile.arrived (AuditStore.APPEND_MAX_ATTEMPTS - 1) w.appends m.waiting)).append_error = none :=
    (joined_error _ _).trans recorded
  rw [record_opening_written fresh granted, bind_run, attempt_run, AuditStore.append_granted crates store recorded_later]
  rfl

/-- The world in which the row is to be taken back. -/
theorem record_opening_unrecorded {error : AuditError} (granted : w.updates.headD none = none)
    (unrecorded : w.append_error = some error) :
    ∃ v : World, v.updates = w.updates.tail ∧
      v.db store = { (w.db store).beside crates
        (Meanwhile.arrived (AuditStore.APPEND_MAX_ATTEMPTS - 1) w.appends m.waiting ++ m.clearing) with
          segments := (w.db store).segments.replace segment } ∧
      store.record_opening crates segment m w = (do
        store.execute fun db => { db with segments := db.segments.delete segment.segment_id }
        fail error : Act Segment) v := by
  refine ⟨((w.rowed store segment).later.appended_all crates store
    (Meanwhile.arrived (AuditStore.APPEND_MAX_ATTEMPTS - 1) w.appends m.waiting)).append_spent.appended_all crates store
      m.clearing, ?_, ?_, ?_⟩
  · rw [World.appended_all_updates, World.append_spent_updates, World.appended_all_updates]
    rfl
  · rw [joined_db, World.append_spent_db, joined_db, later_db, rowed_db, beside_append]
    rfl
  · have unrecorded_later : ((w.rowed store segment).later.appended_all crates store
        (Meanwhile.arrived (AuditStore.APPEND_MAX_ATTEMPTS - 1) w.appends m.waiting)).append_error = some error :=
      (joined_error _ _).trans unrecorded
    rw [record_opening_written fresh granted, bind_run, attempt_run, AuditStore.append_refused crates store unrecorded_later]
    rfl

theorem record_opening_taken_back {error : AuditError} (granted : w.updates.headD none = none)
    (unrecorded : w.append_error = some error) (deleted : w.updates.tail.headD none = none) :
    (store.record_opening crates segment m w).1 = .error error ∧ (store.record_opening crates segment m w).2.db store =
      (w.db store).beside crates
        (Meanwhile.arrived (AuditStore.APPEND_MAX_ATTEMPTS - 1) w.appends m.waiting ++ m.clearing) := by
  obtain ⟨v, updates, held, run⟩ := @record_opening_unrecorded crates store segment m w fresh error granted unrecorded
  rw [run, bind_of_ok (AuditStore.execute_granted store (by rw [updates, deleted]) _), held]
  simp only
  rw [Table.delete_replace fresh]
  exact ⟨rfl, World.db_put_self _ _ _⟩

theorem record_opening_stranded {error stuck : AuditError} (granted : w.updates.headD none = none)
    (unrecorded : w.append_error = some error) (kept : w.updates.tail.headD none = some stuck) :
    (store.record_opening crates segment m w).1 = .error stuck ∧ (store.record_opening crates segment m w).2.db store =
      { (w.db store).beside crates
        (Meanwhile.arrived (AuditStore.APPEND_MAX_ATTEMPTS - 1) w.appends m.waiting ++ m.clearing) with
          segments := (w.db store).segments.replace segment } := by
  obtain ⟨v, updates, held, run⟩ := @record_opening_unrecorded crates store segment m w fresh error granted unrecorded
  rw [run, bind_of_error (AuditStore.execute_refused store (by rw [updates, kept]) _)]
  exact ⟨rfl, held⟩

end Recorded

theorem open_segment_cases (kind : SegmentKind) (owner : Option String) (m : Meanwhile) (w : World) :
    OpeningEnd crates store kind owner m w (store.open_segment_beside crates kind owner m w).1
      ((store.open_segment_beside crates kind owner m w).2.db store) := by
  cases given : AuditStore.free_id (w.db store).segments (w.clock.headD 0) owner with
  | error error =>
    have tick : now_ms w = (.ok (w.clock.headD 0), w.later) := rfl
    have unnamed := @free_segment_id_run store owner w
    rw [given] at unnamed
    have unwritten : ¬ Written store owner w := by
      rintro ⟨⟨id, named⟩, _⟩
      rw [given] at named
      cases named
    rw [AuditStore.open_segment_beside, bind_of_ok tick, bind_of_error unnamed]
    exact .refused error [] (List.nil_subset _) (fun stuck => unwritten stuck.1) fun late => unwritten late.1
  | ok id =>
    rw [open_segment_named kind m given]
    obtain ⟨v, run⟩ : ∃ v, v = w.later.appended_all crates store (m.reading ++ m.writing) := ⟨_, rfl⟩
    have seen : v.db store = (w.db store).beside crates (m.reading ++ m.writing) := by
      rw [run, joined_db]
      rfl
    have answers : v.appends = w.appends := by rw [run, World.appended_all_appends]; rfl
    have updates : v.updates = w.updates := by rw [run, World.appended_all_updates]; rfl
    have clock : v.clock = w.clock.tail := by rw [run, World.appended_all_clock]; rfl
    have error : v.append_error = w.append_error := by rw [run, joined_error]; rfl
    have absent : (w.db store).segments.find id = none := free_id_absent given
    have fresh : (v.db store).segments.find (new_segment crates store kind m w id).segment_id = none := by
      rw [seen]
      exact absent
    have besides (events : List AuditEvent) :
        (v.db store).beside crates events = (w.db store).beside crates (m.reading ++ m.writing ++ events) := by
      rw [seen, beside_append (w.db store) (m.reading ++ m.writing)]
    have until_end : m.reading ++ m.writing ++
        (Meanwhile.arrived (AuditStore.APPEND_MAX_ATTEMPTS - 1) v.appends m.waiting ++ m.clearing) ⊆ m.events := by
      rw [← List.append_assoc]
      exact m.through_subset v.appends
    rw [← run]
    cases inserting : w.updates.headD none with
    | some refusal =>
      have unwritten : ¬ Written store owner w := by
        rintro ⟨_, granted⟩
        rw [inserting] at granted
        cases granted
      rw [record_opening_refused fresh (updates ▸ inserting)]
      have held : v.updated.db store = (w.db store).beside crates (m.reading ++ m.writing) := seen
      rw [held]
      exact .refused refusal _ m.before_subset (fun stuck => unwritten stuck.1) fun late => unwritten late.1
    | none =>
      have written : Written store owner w := ⟨⟨id, given⟩, inserting⟩
      cases answer : w.append_error with
      | none =>
        rw [record_opening_appended fresh (updates ▸ inserting) (error.trans answer), World.appended, World.db_put_self]
        have held : ((v.rowed store (new_segment crates store kind m w id)).later.appended_all crates store
            (Meanwhile.arrived (AuditStore.APPEND_MAX_ATTEMPTS - 1) v.appends m.waiting)).append_spent.db store =
            { (w.db store).beside crates (m.ahead w.appends) with
              segments := (w.db store).segments.replace (new_segment crates store kind m w id) } := by
          rw [World.append_spent_db, joined_db, later_db, rowed_db, seen, answers, Meanwhile.ahead,
            beside_append (w.db store) (m.reading ++ m.writing)]
          rfl
        rw [held, clock]
        exact .opened id written answer absent
      | some refusal =>
        have behind : ¬ Overtaken crates store owner m w := by
          rintro ⟨-, recorded, -⟩
          rw [answer] at recorded
          cases recorded
        cases deleting : w.updates.tail.headD none with
        | none =>
          obtain ⟨result, held⟩ := @record_opening_taken_back crates store _ m v fresh _ (updates ▸ inserting)
            (error.trans answer) (updates ▸ deleting)
          rw [result, held, besides]
          exact .refused refusal _ until_end (fun stuck => stuck.2.2 deleting) behind
        | some stuck =>
          obtain ⟨result, held⟩ := @record_opening_stranded crates store _ m v fresh _ _ (updates ▸ inserting)
            (error.trans answer) (updates ▸ deleting)
          rw [result, held, besides]
          have rows : (v.db store).segments = (w.db store).segments := by rw [seen]; rfl
          rw [rows]
          exact .stranded stuck id _ until_end ⟨written, by rw [answer]; simp, by rw [deleting]; simp⟩ absent

/-! ### What the other operations leave -/

/-- What a row says of how it was opened. -/
structure SameOpening (old row : Segment) : Prop where
  name : old.segment_id = row.segment_id
  time : old.opened_at_ms = row.opened_at_ms
  chain : old.head_prev_chain = row.head_prev_chain
  length : old.head_prev_length = row.head_prev_length

/-- Events came of fitting actions only, no segment was opened or says another opening than before, and no row went. -/
structure Undisturbed (crates : Crates) (fits : String → Prop) (store : AuditStore) (v w : World) : Prop where
  events : Grows crates (fun event => fits event.action) store v w
  rows : ∀ segment_id row, w.segment store segment_id = some row → row.opened_at_ms.isSome →
    ∃ old, v.segment store segment_id = some old ∧ SameOpening old row
  stays : ∀ segment_id, w.segment store segment_id = none → v.segment store segment_id = none

section Undisturbed
variable {fits : String → Prop}

theorem Undisturbed.of_eq {v w : World} (events : Grows crates (fun event => fits event.action) store v w)
    (same : (w.db store).segments = (v.db store).segments) : Undisturbed crates fits store v w where
  events := events
  rows segment_id row found _ := ⟨row, by rw [World.segment, ← same]; exact found, rfl, rfl, rfl, rfl⟩
  stays segment_id absent := by
    rw [World.segment, ← same]
    exact absent

theorem Undisturbed.refl (w : World) : Undisturbed crates fits store w w := .of_eq (.refl w) rfl

theorem Undisturbed.trans {u v w : World} (first : Undisturbed crates fits store u v)
    (second : Undisturbed crates fits store v w) : Undisturbed crates fits store u w where
  events := first.events.trans second.events
  rows segment_id row found opened := by
    obtain ⟨middle, there, later⟩ := second.rows segment_id row found opened
    obtain ⟨old, here, earlier⟩ := first.rows segment_id middle there (by rw [later.time]; exact opened)
    exact ⟨old, here, earlier.name.trans later.name, earlier.time.trans later.time, earlier.chain.trans later.chain,
      earlier.length.trans later.length⟩
  stays segment_id absent := first.stays segment_id (second.stays segment_id absent)

theorem undisturbed_climbed : Climbed (Undisturbed crates fits store) where
  refl := .refl
  trans := .trans
  tick _ := .of_eq (.of_eq rfl) rfl
  opens path w := by
    refine .of_eq (open_at_grows path w) ?_
    rw [AuditStore.open_at]
    cases w.opens.headD none with
    | none => exact congrArg AuditDb.segments ((opened_alike w ⟨path⟩ w.opens.tail).db store)
    | some error => rfl

theorem append_undisturbed (on : AuditStore) {event : AuditEvent} (fitting : fits event.action) :
    Does (Undisturbed crates fits store) (on.append crates event) := by
  intro w
  refine .of_eq (append_grows on fitting w) ?_
  cases outcome : w.append_error with
  | none =>
    rw [AuditStore.append_granted crates on outcome, World.appended, World.db_put]
    split_ifs with same
    · rw [same]
      rfl
    · rfl
  | some error =>
    rw [AuditStore.append_refused crates on outcome]
    rfl

/-- A change of the rows that opens none, takes none away, and leaves what they say of their openings. -/
theorem execute_undisturbed (on : AuditStore) {change : AuditDb → AuditDb}
    (chain : ∀ db, (change db).audit_events = db.audit_events)
    (rows : ∀ db segment_id row, (change db).segments.find segment_id = some row → row.opened_at_ms.isSome →
      ∃ old, db.segments.find segment_id = some old ∧ SameOpening old row)
    (stays : ∀ db segment_id, (change db).segments.find segment_id = none → db.segments.find segment_id = none) :
    Does (Undisturbed crates fits store) (on.execute change) := by
  intro w
  have events : Grows crates (fun event => fits event.action) store w _ := execute_grows on chain w
  cases answer : w.updates.headD none with
  | some error =>
    rw [AuditStore.execute_refused on answer] at events ⊢
    exact .of_eq events rfl
  | none =>
    rw [AuditStore.execute_granted on answer] at events ⊢
    by_cases same : store = on
    · subst same
      refine ⟨events, fun segment_id row found opened => ?_, fun segment_id absent => ?_⟩
      · rw [World.segment, World.db_put_self] at found
        exact rows _ segment_id row found opened
      · rw [World.segment, World.db_put_self] at absent
        exact stays _ segment_id absent
    · refine .of_eq events ?_
      rw [World.db_put, if_neg same]
      rfl

/-- A row is put in that was not opened here. -/
theorem insert_segment_undisturbed (on : AuditStore) {segment : Segment} (adopted : segment.opened_at_ms = none) :
    Does (Undisturbed crates fits store) (on.insert_segment segment) := by
  refine undisturbed_climbed.insert_segment on (execute_undisturbed on (fun _ => rfl) ?_ ?_)
  · intro db segment_id row found opened
    rw [Table.find_replace] at found
    split_ifs at found with name
    · cases found
      rw [adopted] at opened
      cases opened
    · exact ⟨row, found, rfl, rfl, rfl, rfl⟩
  · intro db segment_id absent
    rw [Table.find_replace] at absent
    split_ifs at absent with name
    exact absent

/-- A row is rewritten in what it says of other things. -/
theorem update_segment_undisturbed (on : AuditStore) (segment_id : String) (rewrite : Segment → Segment)
    (keeps : ∀ s, (rewrite s).segment_id = s.segment_id) (beside : ∀ s, SameOpening s (rewrite s)) :
    Does (Undisturbed crates fits store) (on.update_segment segment_id rewrite keeps) := by
  refine execute_undisturbed on (fun _ => rfl) ?_ ?_
  · intro db other row found opened
    rw [Table.find_update] at found
    split_ifs at found with name
    · obtain ⟨old, here, rfl⟩ := Option.map_eq_some_iff.mp found
      exact ⟨old, here, beside old⟩
    · exact ⟨row, found, rfl, rfl, rfl, rfl⟩
  · intro db other absent
    rw [Table.find_update] at absent
    split_ifs at absent with name
    · exact Option.map_eq_none_iff.mp absent
    · exact absent

/-- The actions of the events an operation may append beside those of a segment's end. -/
def Brings (fits : String → Prop) (w : World) : Op → Prop
  | .append event => fits event.action
  | .merge_segment audit_dir segment_id => ∀ row ∈ w.rows (segment_file audit_dir segment_id), fits row.action
  | _ => True

theorem decoded_actions {rows : List RawRow} {events : List StoredEvent} (fitting : ∀ row ∈ rows, fits row.action)
    (decoded : rows.mapM (RawRow.into_stored crates) = .ok events) : ∀ event ∈ events, fits event.event.action := by
  rw [decoded_iff] at decoded
  induction decoded with
  | nil => simp
  | @cons row event rows events read _ ih =>
    intro other inside
    rcases List.mem_cons.mp inside with rfl | later
    · have same : other.event.action = row.action := by
        unfold RawRow.into_stored at read
        split at read
        · cases read
          rfl
        · cases read
      rw [same]
      exact fitting row List.mem_cons_self
    · exact ih (fun row inside => fitting row (List.mem_cons_of_mem _ inside)) other later

variable (closed : fits ACTION_SEGMENT_CLOSED) (forked : fits ACTION_SEGMENT_FORKED) (merged : fits ACTION_SEGMENT_MERGED)
include forked merged

theorem merge_segment_undisturbed {audit_dir : FilePath} {segment_id : String} {w : World}
    (fitting : ∀ row ∈ w.rows (segment_file audit_dir segment_id), fits row.action) :
    Undisturbed crates fits store w (store.merge_segment crates audit_dir segment_id w).2 := by
  obtain ⟨seen, alike, run⟩ := store.merge_segment_run crates audit_dir segment_id w
  have read : Undisturbed crates fits store w seen :=
    .of_eq (.of_eq (congrArg AuditDb.audit_events (alike.db store))) (congrArg AuditDb.segments (alike.db store))
  rw [run]
  cases planned : merge_plan crates store audit_dir segment_id w with
  | error error => exact read
  | ok plan =>
    obtain ⟨segment, events, conflict⟩ := plan
    have actions := decoded_actions fitting (merge_plan_ok crates planned).2.1
    cases conflict with
    | some conflict =>
      refine read.trans (undisturbed_climbed.fork_segment store segment conflict (fun now at_ms => ?_) ?_ seen)
      · exact append_undisturbed store forked
      · exact update_segment_undisturbed store _ _ _ fun _ => ⟨rfl, rfl, rfl, rfl⟩
    | none =>
      refine read.trans (undisturbed_climbed.fold_segment store segment (fun event inside => ?_) (fun note => ?_)
        (fun now at_ms count => ?_) (fun head => ?_) seen)
      · exact append_undisturbed store (actions event inside)
      · exact update_segment_undisturbed store _ _ _ fun _ => ⟨rfl, rfl, rfl, rfl⟩
      · exact append_undisturbed store merged
      · exact update_segment_undisturbed store _ _ _ fun _ => ⟨rfl, rfl, rfl, rfl⟩

include closed

/-- Every operation but an opening. -/
theorem operate_undisturbed {w : World} {op : Op} (brings : Brings fits w op)
    (other : ∀ kind owner, op ≠ .open_segment kind owner) : Undisturbed crates fits store w (operate crates store w op) := by
  cases op with
  | append event => exact append_undisturbed store brings w
  | open_segment kind owner => exact absurd rfl (other kind owner)
  | close_segment segment_id =>
    refine undisturbed_climbed.close_segment store segment_id (fun state at_ms _ => ?_) (fun now at_ms => ?_) w
    · exact update_segment_undisturbed store _ _ _ fun _ => ⟨rfl, rfl, rfl, rfl⟩
    · exact append_undisturbed store closed
  | adopt_segment segment_id chain length =>
    have adopts : Does (Undisturbed crates fits store) (store.adopt_segment segment_id chain length) := by
      refine undisturbed_climbed.bind (does_get .refl _) fun found => ?_
      split_ifs
      · exact does_pure .refl _
      · exact insert_segment_undisturbed store rfl
    exact adopts w
  | merge_segment audit_dir segment_id => exact merge_segment_undisturbed forked merged brings
  | elsewhere world =>
    exact .of_eq (.of_eq (congrArg AuditDb.audit_events (around_db w store world)))
      (congrArg AuditDb.segments (around_db w store world))

end Undisturbed

/-! ### Row and event along runs -/

theorem opening_read (segment : Segment) (w : World) (table : EventTable) :
    decode crates (table.row_of crates (opening_event segment w)).detail_json = .ok (segment_opened_detail segment) ∧
      text_at "segment_id" (segment_opened_detail segment) = some segment.segment_id := by
  constructor
  · refine decode_to_string crates (plain_json ?_) (le_trans (depth_json (d := 0) ?_) (by omega))
    · cases segment.head_prev_chain <;> simp [Value.ofOption]
    · cases segment.head_prev_chain <;> simp [Value.ofOption]
  · simp [segment_opened_detail, text_at_json, lookup]

/-- The event of an opening names the segment and no other. -/
theorem opening_marks (segment : Segment) (w : World) (table : EventTable) (other : String) :
    marks crates ACTION_SEGMENT_OPENED other (table.row_of crates (opening_event segment w)) = true ↔ segment.segment_id = other := by
  obtain ⟨read, names⟩ := @opening_read crates segment w table
  have action : (table.row_of crates (opening_event segment w)).action = ACTION_SEGMENT_OPENED := rfl
  rw [marks, read, action]
  simp [names]

theorem SameOpening.anchored {old row : Segment} {rows : List RawRow} (same : SameOpening old row)
    (anchored : Anchored crates old rows) : Anchored crates row rows := by
  unfold Anchored at anchored ⊢
  rwa [same.name, same.chain, same.length] at anchored

/-- Where the one event that may mark a segment comes last, the segment is anchored just before it. -/
theorem Anchored.before_last {segment : Segment} {front : List RawRow} {row : RawRow}
    (anchored : Anchored crates segment (front ++ [row]))
    (quiet : markers crates ACTION_SEGMENT_OPENED segment.segment_id front = 0) :
    segment.head_prev_chain = front.getLast?.map RawRow.hash ∧ segment.head_prev_length = front.getLast?.map RawRow.id := by
  obtain ⟨first, mark, back, split, marking, -, -, chain, length⟩ := anchored
  rcases List.eq_nil_or_concat back with rfl | ⟨others, last, rfl⟩
  · obtain ⟨rfl, -⟩ := List.append_inj' split rfl
    exact ⟨chain, length⟩
  · have inside : front = first ++ mark :: others :=
      (List.append_inj' (split.trans (by simp : _ = (first ++ mark :: others) ++ [last])) rfl).1
    rw [inside, markers_append, markers_cons, if_pos marking] at quiet
    omega

theorem quiet_of_grows {v w : World} (grows : Grows crates (fun event => event.action ≠ ACTION_SEGMENT_OPENED) store v w) :
    ∃ rows, w.rows store = v.rows store ++ rows ∧ ∀ segment_id, markers crates ACTION_SEGMENT_OPENED segment_id rows = 0 := by
  obtain ⟨rows, grown, recorded⟩ := grows.rows
  refine ⟨rows, grown, fun segment_id => quiet_of_action fun row inside => ?_⟩
  obtain ⟨event, other, records⟩ := recorded row inside
  rw [records.2.2.1]
  exact other

theorem Accounted.undisturbed {v w : World} (accounted : Accounted crates store v)
    (undisturbed : Undisturbed crates (· ≠ ACTION_SEGMENT_OPENED) store v w) : Accounted crates store w := by
  obtain ⟨rows, grown, quiet⟩ := quiet_of_grows undisturbed.events
  refine ⟨fun segment_id segment found opened => ?_, fun segment_id absent => ?_⟩
  · obtain ⟨old, here, same⟩ := undisturbed.rows segment_id segment found opened
    rw [grown]
    exact same.anchored ((accounted.anchored segment_id old here (by rw [same.time]; exact opened)).grown
      (by rw [same.name]; exact quiet _))
  · rw [grown, markers_append, accounted.unnamed segment_id (undisturbed.stays segment_id absent), quiet]

/-- What a call reports is what became of the table and the chain: an error leaves the table, and a segment has its row, and
    its event behind the row that its anchor is read of. -/
def Faithful (crates : Crates) (store : AuditStore) (kind : SegmentKind) (owner : Option String) (m : Meanwhile) (w : World) :
    Prop :=
  match store.open_segment_beside crates kind owner m w with
  | (.error _, after) => (after.db store).segments = (w.db store).segments
  | (.ok segment, after) =>
    w.segment store segment.segment_id = none ∧
      (after.db store).segments = (w.db store).segments.replace segment ∧ segment.opened_at_ms.isSome ∧
      ∃ others row, after.rows store = w.rows store ++ others ++ [row] ∧
        marks crates ACTION_SEGMENT_OPENED segment.segment_id row = true ∧
        segment.head_prev_chain = (w.rows store ++ others).getLast?.map RawRow.hash ∧
        segment.head_prev_length = (w.rows store ++ others).getLast?.map RawRow.id

/-- The rows behind which an opening's event comes. -/
theorem opened_rows (kind : SegmentKind) (m : Meanwhile) {w after : World} {id : String}
    (held : after.db store = { w.db store with
      segments := (w.db store).segments.replace (new_segment crates store kind m w id)
      audit_events := (((w.db store).audit_events.append_all crates (m.ahead w.appends)).append crates
        (opening_event (new_segment crates store kind m w id) w)).2 }) :
    after.rows store = ((w.db store).audit_events.append_all crates (m.ahead w.appends)).rows ++
      [((w.db store).audit_events.append_all crates (m.ahead w.appends)).row_of crates
        (opening_event (new_segment crates store kind m w id) w)] := by
  rw [World.rows, held]
  exact EventTable.append_rows crates _ _

theorem faithful_iff (kind : SegmentKind) (owner : Option String) (m : Meanwhile) (w : World) :
    Faithful crates store kind owner m w ↔ ¬ Stranded store owner w ∧ ¬ Overtaken crates store owner m w := by
  have cases_of := @open_segment_cases crates store kind owner m w
  unfold Faithful
  generalize store.open_segment_beside crates kind owner m w = run at cases_of ⊢
  obtain ⟨result, after⟩ := run
  simp only at cases_of
  generalize held : after.db store = db at cases_of
  cases cases_of with
  | refused error events inside clear behind =>
    have same := congrArg AuditDb.segments held
    exact ⟨fun _ => ⟨clear, behind⟩, fun _ => same⟩
  | opened id written recorded fresh =>
    have clear : ¬ Stranded store owner w := fun stuck => stuck.2.1 recorded
    have replaced := congrArg AuditDb.segments held
    have rows := opened_rows kind m held
    constructor
    · rintro ⟨-, -, -, others, row, grown, -, chain, length⟩
      refine ⟨clear, fun late => late.2.2 ?_⟩
      rw [rows] at grown
      obtain ⟨before, -⟩ := List.append_inj' grown rfl
      rw [← before] at chain length
      exact ⟨chain, length⟩
    · rintro ⟨-, behind⟩
      obtain ⟨chain, length⟩ := not_not.mp fun moved => behind ⟨written, recorded, moved⟩
      obtain ⟨others, grown, -⟩ := append_all_rows crates (w.db store).audit_events (m.ahead w.appends)
      refine ⟨fresh, replaced, rfl, others, _, ?_, (opening_marks _ w
        ((w.db store).audit_events.append_all crates (m.ahead w.appends)) _).mpr rfl, ?_, ?_⟩
      · rw [rows, grown]
        rfl
      · rw [World.rows, ← grown]
        exact chain
      · rw [World.rows, ← grown]
        exact length
  | stranded error id events inside stuck fresh =>
    refine ⟨fun same => ?_, fun clear => absurd stuck clear.1⟩
    simp only [held] at same
    have found := congrArg (fun table => table.find id) same
    simp [Table.find_replace, fresh] at found

/-- What other connections append is no opening of a segment. -/
def Meanwhile.Quiet (m : Meanwhile) : Prop := ∀ event ∈ m.events, event.action ≠ ACTION_SEGMENT_OPENED

/-- A row is put in, and its event comes last: the two correspond exactly when the row's anchor is what came just before. -/
theorem Accounted.opened_iff {w after : World} {segment : Segment} {others : List RawRow} {row : RawRow}
    (accounted : Accounted crates store w) (fresh : w.segment store segment.segment_id = none)
    (opened_here : segment.opened_at_ms.isSome) (table : (after.db store).segments = (w.db store).segments.replace segment)
    (rows : after.rows store = w.rows store ++ others ++ [row])
    (still : ∀ segment_id, markers crates ACTION_SEGMENT_OPENED segment_id others = 0)
    (marking : ∀ other, marks crates ACTION_SEGMENT_OPENED other row = true ↔ segment.segment_id = other) :
    Accounted crates store after ↔
      segment.head_prev_chain = (w.rows store ++ others).getLast?.map RawRow.hash ∧
        segment.head_prev_length = (w.rows store ++ others).getLast?.map RawRow.id := by
  have found_in (segment_id : String) : after.segment store segment_id =
      if segment_id = segment.segment_id then some segment else w.segment store segment_id := by
    rw [World.segment, table, Table.find_replace]
    rfl
  have silent : markers crates ACTION_SEGMENT_OPENED segment.segment_id (w.rows store ++ others) = 0 := by
    rw [markers_append, accounted.unnamed _ fresh, still]
  have beside {other : String} (differs : other ≠ segment.segment_id) :
      markers crates ACTION_SEGMENT_OPENED other [row] = 0 := by
    refine List.countP_eq_zero.mpr fun last inside => ?_
    rw [List.mem_singleton.mp inside, marking]
    exact differs.symm
  constructor
  · intro stays
    have anchored := stays.anchored segment.segment_id segment (by rw [found_in, if_pos rfl]) opened_here
    rw [rows] at anchored
    exact anchored.before_last silent
  · rintro ⟨chain, length⟩
    refine ⟨fun segment_id other found opened => ?_, fun segment_id absent => ?_⟩
    · rw [found_in] at found
      rw [rows]
      split_ifs at found with name
      · cases found
        exact ⟨w.rows store ++ others, row, [], rfl, (marking _).mpr rfl, silent, rfl, chain, length⟩
      · refine ((accounted.anchored segment_id other found opened).grown (still _)).grown (beside ?_)
        rw [Table.key_of_find found]
        exact name
    · rw [found_in] at absent
      split_ifs at absent with name
      rw [rows, markers_append, markers_append, accounted.unnamed segment_id absent, still, beside name]

theorem accounted_open_iff (kind : SegmentKind) (owner : Option String) {m : Meanwhile} (quiet : m.Quiet) {w : World}
    (accounted : Accounted crates store w) : Accounted crates store (store.open_segment_beside crates kind owner m w).2 ↔
      ¬ Stranded store owner w ∧ ¬ Overtaken crates store owner m w := by
  have cases_of := @open_segment_cases crates store kind owner m w
  generalize store.open_segment_beside crates kind owner m w = run at cases_of ⊢
  obtain ⟨result, after⟩ := run
  simp only at cases_of ⊢
  generalize held : after.db store = db at cases_of
  cases cases_of with
  | refused error events inside clear behind =>
    have grows : Grows crates (fun event => event.action ≠ ACTION_SEGMENT_OPENED) store w after :=
      ⟨events, fun event among => quiet event (inside among), congrArg AuditDb.audit_events held⟩
    have undisturbed : Undisturbed crates (· ≠ ACTION_SEGMENT_OPENED) store w after :=
      .of_eq grows (by rw [held]; rfl)
    exact ⟨fun _ => ⟨clear, behind⟩, fun _ => accounted.undisturbed undisturbed⟩
  | opened id written recorded fresh =>
    have clear : ¬ Stranded store owner w := fun stuck => stuck.2.1 recorded
    have rows := opened_rows kind m held
    have grows : Grows crates (fun event => event.action ≠ ACTION_SEGMENT_OPENED) store w
        (w.appended_all crates store (m.ahead w.appends)) :=
      appended_all_grows w fun event among => quiet event (m.ahead_subset _ among)
    obtain ⟨others, grown, still⟩ := quiet_of_grows grows
    rw [World.rows, joined_db] at grown
    change ((w.db store).audit_events.append_all crates (m.ahead w.appends)).rows = _ at grown
    rw [grown] at rows
    have absent : w.segment store (new_segment crates store kind m w id).segment_id = none := fresh
    rw [accounted.opened_iff absent rfl (congrArg AuditDb.segments held) rows still fun other => opening_marks _ w _ other, ← grown]
    constructor
    · exact fun anchor => ⟨clear, fun late => late.2.2 anchor⟩
    · exact fun ends => not_not.mp fun moved => ends.2 ⟨written, recorded, moved⟩
  | stranded error id events inside stuck fresh =>
    refine ⟨fun stays => ?_, fun clear => absurd stuck clear.1⟩
    have grows : Grows crates (fun event => event.action ≠ ACTION_SEGMENT_OPENED) store w after :=
      ⟨events, fun event among => quiet event (inside among), congrArg AuditDb.audit_events held⟩
    obtain ⟨others, grown, still⟩ := quiet_of_grows grows
    have found : after.segment store id = some (new_segment crates store kind m w id) := by
      simp [World.segment, held, Table.find_replace]
    have once := (stays.anchored id _ found rfl).once
    rw [grown, markers_append, new_segment_id, accounted.unnamed id fresh, still] at once
    exact absurd once (by decide)

/-- A step of a store's life: an operation, or an opening with the events of other connections between its statements. -/
inductive Turn
  | alone (op : Op)
  | opening (kind : SegmentKind) (owner : Option String) (m : Meanwhile)

def take_turn (crates : Crates) (store : AuditStore) (w : World) : Turn → World
  | .alone op => operate crates store w op
  | .opening kind owner m => (store.open_segment_beside crates kind owner m w).2

/-- An operation is its turn, an opening's with nothing between its statements. -/
theorem take_turn_opening (w : World) (kind : SegmentKind) (owner : Option String) :
    take_turn crates store w (.alone (.open_segment kind owner)) = take_turn crates store w (.opening kind owner .still) := by
  rw [take_turn, take_turn, open_segment_beside_still]
  rfl

/-- No opening leaves its row stranded or is overtaken, and nothing else brings in an opening event. -/
def InTurn (crates : Crates) (store : AuditStore) (w : World) : Turn → Prop
  | .opening _ owner m => m.Quiet ∧ ¬ Stranded store owner w ∧ ¬ Overtaken crates store owner m w
  | .alone (.open_segment _ owner) => ¬ Stranded store owner w
  | .alone op => Brings (· ≠ ACTION_SEGMENT_OPENED) w op

/-- With nothing between its statements no opening is overtaken. -/
theorem still_not_overtaken (owner : Option String) (w : World) : ¬ Overtaken crates store owner .still w := by
  rintro ⟨-, -, moved⟩
  rw [Meanwhile.ahead, show Meanwhile.still.waiting = [] from rfl, Meanwhile.arrived_nil] at moved
  exact moved ⟨rfl, rfl⟩

theorem accounted_turn (w : World) (turn : Turn) (accounted : Accounted crates store w) (in_turn : InTurn crates store w turn) :
    Accounted crates store (take_turn crates store w turn) := by
  cases turn with
  | opening kind owner m => exact (accounted_open_iff kind owner in_turn.1 accounted).mpr in_turn.2
  | alone op =>
    cases op with
    | open_segment kind owner =>
      rw [take_turn_opening]
      refine (accounted_open_iff kind owner ?_ accounted).mpr ⟨in_turn, still_not_overtaken owner w⟩
      intro event among
      cases among
    | _ =>
      rw [take_turn]
      exact accounted.undisturbed (operate_undisturbed (by decide) (by decide) (by decide) in_turn (by simp))

/-- Rows never go. -/
theorem turn_stays (w : World) (turn : Turn) (absent : (take_turn crates store w turn).segment store segment_id = none) :
    w.segment store segment_id = none := by
  have opening (kind : SegmentKind) (owner : Option String) (m : Meanwhile)
      (absent : (take_turn crates store w (.opening kind owner m)).segment store segment_id = none) :
      w.segment store segment_id = none := by
    have cases_of := @open_segment_cases crates store kind owner m w
    rw [World.segment, take_turn] at absent
    generalize (store.open_segment_beside crates kind owner m w).1 = result at cases_of
    generalize (store.open_segment_beside crates kind owner m w).2.db store = db at absent cases_of
    cases cases_of with
    | refused => exact absent
    | opened id =>
      rw [Table.find_replace] at absent
      split_ifs at absent
      exact absent
    | stranded error id =>
      rw [Table.find_replace] at absent
      split_ifs at absent
      exact absent
  cases turn with
  | opening kind owner m => exact opening kind owner m absent
  | alone op =>
    cases op with
    | open_segment kind owner =>
      rw [take_turn_opening] at absent
      exact opening kind owner .still absent
    | _ =>
      have undisturbed := @operate_undisturbed crates store (fun _ => True) trivial trivial trivial w
      rw [take_turn] at absent
      refine (undisturbed ?_ (by simp)).stays segment_id absent
      simp [Brings]

end

theorem turns_stay {crates : Crates} {store : AuditStore} {segment_id : String} {w : World} (turns : List Turn)
    (present : w.segment store segment_id ≠ none) : (run (take_turn crates store) w turns).segment store segment_id ≠ none := by
  have keeps : ∀ (v : World) (turn : Turn), v.segment store segment_id ≠ none →
      (take_turn crates store v turn).segment store segment_id ≠ none :=
    fun v turn there gone => there (turn_stays v turn gone)
  exact run_invariant keeps present turns

theorem accounted_of_new (crates : Crates) {store : AuditStore} {w : World} (new : w.disk store.path = none) :
    Accounted crates store w := by
  have empty : w.db store = .empty := by rw [World.db, new]; rfl
  refine ⟨fun segment_id segment found _ => ?_, fun segment_id _ => ?_⟩
  · rw [World.segment, empty] at found
    cases found
  · rw [World.rows, empty]
    rfl

/-- A segment's name is given out once in the life of a store. -/
theorem name_once {crates : Crates} {store : AuditStore} {w : World} {kind later_kind : SegmentKind}
    {owner later_owner : Option String} {m later_m : Meanwhile} {first second : Segment} (between : List Turn)
    (opened : (store.open_segment_beside crates kind owner m w).1 = .ok first)
    (reopened : (store.open_segment_beside crates later_kind later_owner later_m
      (run (take_turn crates store) (take_turn crates store w (.opening kind owner m)) between)).1 = .ok second) :
    first.segment_id ≠ second.segment_id := by
  have there : (take_turn crates store w (.opening kind owner m)).segment store first.segment_id ≠ none := by
    have cases_of := @open_segment_cases crates store kind owner m w
    rw [opened] at cases_of
    rw [take_turn, World.segment]
    generalize (store.open_segment_beside crates kind owner m w).2.db store = db at cases_of
    cases cases_of with
    | opened id written recorded fresh => simp [Table.find_replace]
  have still := @turns_stay crates store _ _ between there
  have cases_of := @open_segment_cases crates store later_kind later_owner later_m
    (run (take_turn crates store) (take_turn crates store w (.opening kind owner m)) between)
  rw [reopened] at cases_of
  generalize (store.open_segment_beside crates later_kind later_owner later_m _).2.db store = db at cases_of
  cases cases_of with
  | opened id written recorded fresh =>
    rintro same
    rw [same] at still
    exact still fresh

/-- Each call tells the truth, and leaves every opened segment with its one opening event just behind its anchor, exactly
    when it strands no row and is not overtaken; no run of such calls, whatever happens between them, parts row and event,
    and no name is given out twice. -/
theorem opened_once_iff (crates : Crates) (store : AuditStore) :
    (∀ kind owner m w,
      (Faithful crates store kind owner m w ↔ ¬ Stranded store owner w ∧ ¬ Overtaken crates store owner m w) ∧
      (m.Quiet → Accounted crates store w → (Accounted crates store (store.open_segment_beside crates kind owner m w).2 ↔
        ¬ Stranded store owner w ∧ ¬ Overtaken crates store owner m w))) ∧
      (∀ start : World, start.disk store.path = none → ∀ turns : List Turn,
        Allowed (take_turn crates store) (InTurn crates store) start turns →
          Accounted crates store (run (take_turn crates store) start turns)) ∧
      ∀ (w : World) (between : List Turn) kind owner m later_kind later_owner later_m first second,
        (store.open_segment_beside crates kind owner m w).1 = .ok first →
        (store.open_segment_beside crates later_kind later_owner later_m
          (run (take_turn crates store) (take_turn crates store w (.opening kind owner m)) between)).1 = .ok second →
        first.segment_id ≠ second.segment_id := by
  refine ⟨fun kind owner m w => ⟨faithful_iff kind owner m w, fun quiet => accounted_open_iff kind owner quiet⟩, ?_, ?_⟩
  · intro start new turns allowed
    exact run_keeps accounted_turn (accounted_of_new crates new) allowed
  · intro w between kind owner m later_kind later_owner later_m first second opened reopened
    exact name_once between opened reopened

/-- The append meets a full disk, and so does the removal of the row. -/
def full_disk_world : World :=
  { blank_world with
    appends := [some (.Sqlite .Unknown "database or disk is full")]
    updates := [none, some (.Sqlite .Unknown "database or disk is full")] }

theorem full_disk_strands : Stranded ⟨["data", "audit.db"]⟩ none full_disk_world := by
  refine ⟨⟨⟨"seg-0", by decide⟩, rfl⟩, ?_, by simp [full_disk_world]⟩
  rw [show full_disk_world.append_error = some (.Sqlite .Unknown "database or disk is full") from rfl]
  exact Option.some_ne_none _

/-- With nothing between its statements too, a call on a full disk leaves a row without its event. -/
theorem opened_without_event : ¬ ∃ crates : Crates, ∀ (store : AuditStore) (kind : SegmentKind) (owner : Option String)
    (w : World), Faithful crates store kind owner .still w := by
  rintro ⟨crates, faithful⟩
  exact ((faithful_iff .Temporary none .still full_disk_world).mp (faithful _ _ _ _)).1 full_disk_strands

end Riscdom.Audit
