import Riscdom.SegmentRows

/-!
Merges that fail part way: what is left of them on the chain and on the row, and
exactly when every later merge of the segment recognises it.
-/
namespace Riscdom.Audit
open Riscdom.Json Riscdom.HashChain Riscdom.KeyedTable Fallible.Act Riscdom.Machine

section
variable (crates : Crates)

/-- The store remembers a merge of the segment: in the note of its row, or in a marker on its chain. -/
def Remembered (store : AuditStore) (segment_id : String) (w : World) : Prop :=
  (∃ row note, w.segment store segment_id = some row ∧ row.note = some note ∧ partial_merge_recorded note = true) ∨
    ∃ row ∈ w.rows store, MarksMerged crates segment_id row

variable {crates} {store : AuditStore} {segment_id : String}

/-- A merge that is remembered is refused. -/
theorem remembered_refused {w : World} (remembered : Remembered crates store segment_id w) (audit_dir : FilePath) :
    ∃ error, merge_plan crates store audit_dir segment_id w = .error error := by
  cases planned : merge_plan crates store audit_dir segment_id w with
  | error error => exact ⟨error, rfl⟩
  | ok plan =>
    exfalso
    obtain ⟨found, _, _, unmarked, unnoted⟩ := mergeable_ok crates (merge_plan_ok crates planned).1
    rcases remembered with ⟨row, note, here, noted, partly⟩ | ⟨row, inside, marks⟩
    · rw [World.segment, found] at here
      cases here
      rw [unnoted note noted] at partly
      cases partly
    · rcases merged_already_of_marked crates inside marks with marked | ⟨error, unread⟩
      · rw [World.rows, unmarked] at marked
        cases marked
      · rw [World.rows, unmarked] at unread
        cases unread

/-- A close keeps the note, and every other operation the whole row or the chain. -/
theorem remembered_of_closed {v w : World} (remembered : Remembered crates store segment_id v)
    (closed : ClosedRow store segment_id v w) (grows : Grows crates Unrestricted store v w) :
    Remembered crates store segment_id w := by
  rcases remembered with ⟨row, note, found, noted, partly⟩ | ⟨row, inside, marks⟩
  · obtain ⟨after, there, made, _⟩ := closed row found
    refine .inl ⟨after, note, there, ?_, partly⟩
    rw [made]
    exact noted
  · obtain ⟨more, rows, _⟩ := grows.rows
    refine .inr ⟨row, ?_, marks⟩
    rw [rows]
    exact List.mem_append_left more inside

theorem remembered_operate (w : World) (op : Op) (remembered : Remembered crates store segment_id w) :
    Remembered crates store segment_id (operate crates store w op) := by
  refine remembered_of_closed remembered ?_ (operate_grows crates store w op)
  cases op with
  | append event => exact (append_same_row store event w).closed
  | open_segment kind owner => exact (open_segment_same_row kind owner w).closed
  | close_segment other => exact close_segment_closed other w
  | adopt_segment other chain length => exact (adopt_segment_same_row other chain length w).closed
  | merge_segment audit_dir other =>
    by_cases same : segment_id = other
    · subst same
      obtain ⟨error, refused⟩ := remembered_refused remembered audit_dir
      obtain ⟨after, run, unchanged⟩ := merge_refused_unchanged crates refused
      rw [operate, run]
      exact (SameRow.of_eq (congrArg AuditDb.segments (unchanged store))).closed
    · exact (merge_segment_same_row same w).closed
  | elsewhere world => exact (SameRow.of_eq (congrArg AuditDb.segments (around_db w store world))).closed

/-- Whatever happens after it, every merge of the segment fails, appends nothing and leaves the segment table. -/
def NeverRelabelled (crates : Crates) (store : AuditStore) (segment_id : String) (w : World) : Prop :=
  ∀ (ops : List Op) (audit_dir : FilePath), ∃ error after,
    store.merge_segment crates audit_dir segment_id (reached crates store w ops) = (.error error, after) ∧
    after.rows store = (reached crates store w ops).rows store ∧
    (after.db store).segments = ((reached crates store w ops).db store).segments

theorem remembered_never_relabelled {w : World} (remembered : Remembered crates store segment_id w) :
    NeverRelabelled crates store segment_id w := by
  intro ops audit_dir
  have later : Remembered crates store segment_id (reached crates store w ops) :=
    run_invariant remembered_operate remembered ops
  obtain ⟨error, refused⟩ := remembered_refused later audit_dir
  obtain ⟨after, run, unchanged⟩ := merge_refused_unchanged crates refused
  exact ⟨error, after, run, congrArg (fun db => db.audit_events.rows) (unchanged store),
    congrArg AuditDb.segments (unchanged store)⟩

/-! ### What can be read -/

/-- The rows of an act can all be read. -/
def Readable (crates : Crates) (rows : List RawRow) (actor action : String) : Prop :=
  ∀ row ∈ rows, row.actor = actor → row.action = action → ∃ detail, decode crates row.detail_json = .ok detail

theorem main_chain_row_with_readable {actor action : String} {rows : List RawRow} (detail : Value)
    (readable : Readable crates rows actor action) : ∃ found, main_chain_row_with crates actor action detail rows = .ok found := by
  induction rows with
  | nil => exact ⟨none, rfl⟩
  | cons row rest ih =>
    have tail := ih fun row inside => readable row (List.mem_cons_of_mem _ inside)
    rw [main_chain_row_with]
    by_cases act : row.actor = actor ∧ row.action = action
    · obtain ⟨existing, decoded⟩ := readable row List.mem_cons_self act.1 act.2
      rw [if_pos act, decoded]
      simp only
      split_ifs
      · exact ⟨some row.id, rfl⟩
      · exact tail
    · rw [if_neg act]
      exact tail

theorem readable_of_main_chain_row_with {actor action : String} {rows : List RawRow} {detail : Value}
    (found : main_chain_row_with crates actor action detail rows = .ok none) : Readable crates rows actor action := by
  induction rows with
  | nil => simp [Readable]
  | cons row rest ih =>
    rw [main_chain_row_with] at found
    intro other inside same_actor same_action
    by_cases act : row.actor = actor ∧ row.action = action
    · rw [if_pos act] at found
      cases decoded : decode crates row.detail_json with
      | error error =>
        rw [decoded] at found
        cases found
      | ok existing =>
        rw [decoded] at found
        simp only at found
        split_ifs at found
        · cases found
        · rcases List.mem_cons.mp inside with rfl | later
          · exact ⟨existing, decoded⟩
          · exact ih found other later same_actor same_action
    · rw [if_neg act] at found
      rcases List.mem_cons.mp inside with rfl | later
      · exact absurd ⟨same_actor, same_action⟩ act
      · exact ih found other later same_actor same_action

theorem first_conflict_readable {rows : List RawRow} {events : List StoredEvent}
    (readable : ∀ event ∈ events, Readable crates rows event.event.actor event.event.action) :
    ∃ found, first_conflict crates rows events = .ok found := by
  induction events with
  | nil => exact ⟨none, rfl⟩
  | cons event rest ih =>
    obtain ⟨found, here⟩ := main_chain_row_with_readable (cleared_detail event.event.detail)
      (readable event List.mem_cons_self)
    obtain ⟨later, tail⟩ := ih fun event inside => readable event (List.mem_cons_of_mem _ inside)
    rw [first_conflict, here]
    cases found with
    | some id => exact ⟨_, rfl⟩
    | none => exact ⟨later, tail⟩

theorem readable_of_first_conflict {rows : List RawRow} {events : List StoredEvent}
    (found : first_conflict crates rows events = .ok none) :
    ∀ event ∈ events, Readable crates rows event.event.actor event.event.action := by
  induction events with
  | nil => simp
  | cons event rest ih =>
    rw [first_conflict] at found
    split at found
    · cases found
    · cases found
    · next clear =>
      intro other inside
      rcases List.mem_cons.mp inside with rfl | later
      · exact readable_of_main_chain_row_with clear
      · exact ih found other later

theorem Decodable.readable {rows : List RawRow} (decodable : Decodable crates rows) (actor action : String) :
    Readable crates rows actor action :=
  fun row inside _ _ => decodable row inside

/-- What was read from a segment's file is readable again as it is transcribed. -/
theorem outgoing_readable {file : List RawRow} {events : List StoredEvent}
    (decoded : file.mapM (RawRow.into_stored crates) = .ok events) :
    ∀ event ∈ events, ∃ value, decode crates (crates.json.to_string (outgoing event).detail) = .ok value := by
  intro event inside
  rw [decoded_iff] at decoded
  induction decoded with
  | nil => cases inside
  | cons head _ ih =>
    rcases List.mem_cons.mp inside with rfl | later
    · exact decode_again crates PROVISIONAL (decode_of_into_stored head)
    · exact ih later

theorem transcribed_decodable {events : List StoredEvent} {rows : List RawRow}
    (readable : ∀ event ∈ events, ∃ value, decode crates (crates.json.to_string (outgoing event).detail) = .ok value)
    (recorded : List.Forall₂ (Records crates) (events.map outgoing) rows) : Decodable crates rows := by
  induction events generalizing rows with
  | nil =>
    cases recorded
    simp [Decodable]
  | cons event rest ih =>
    cases recorded with
    | cons head tail =>
      intro row inside
      rcases List.mem_cons.mp inside with rfl | later
      · rw [head.2.2.2.2]
        exact readable event List.mem_cons_self
      · exact ih (fun other old => readable other (List.mem_cons_of_mem _ old)) tail row later

/-! ### The chain left behind -/

/-- The event is transcribed to a merged marker of the segment it comes from. -/
def NamesItself (crates : Crates) (segment_id : String) (event : StoredEvent) : Prop :=
  event.event.action = ACTION_SEGMENT_MERGED ∧
    ∃ detail, decode crates (crates.json.to_string (cleared_detail event.event.detail)) = .ok detail ∧
      text_at "segment_id" detail = some segment_id

theorem marks_of_records {event : StoredEvent} {row : RawRow} (recorded : Records crates (outgoing event) row) :
    MarksMerged crates segment_id row ↔ NamesItself crates segment_id event := by
  obtain ⟨_, _, action, _, detail⟩ := recorded
  rw [MarksMerged, NamesItself, action, detail]
  rfl

/-- The transcribed rows mark the merge exactly when one of their events names its own segment. -/
theorem transcribed_marks {events : List StoredEvent} {rows : List RawRow}
    (recorded : List.Forall₂ (Records crates) (events.map outgoing) rows) :
    (∃ row ∈ rows, MarksMerged crates segment_id row) ↔ ∃ event ∈ events, NamesItself crates segment_id event := by
  induction events generalizing rows with
  | nil =>
    cases recorded
    simp
  | cons event rest ih =>
    cases recorded with
    | cons head tail => simp [marks_of_records head, ih tail]

/-- The store holds the first events of a merge and nothing else is changed. -/
def Halfway (crates : Crates) (store : AuditStore) (events : List StoredEvent) (w v : World) : Prop :=
  ∀ other, v.db other = if other = store then
    { w.db store with audit_events := (w.db store).audit_events.append_all crates (events.map outgoing) }
    else w.db other

theorem Halfway.rows {events : List StoredEvent} {w v : World} (halfway : Halfway crates store events w v) :
    ∃ rows, v.rows store = w.rows store ++ rows ∧ List.Forall₂ (Records crates) (events.map outgoing) rows := by
  obtain ⟨rows, grown, recorded⟩ := append_all_rows crates (w.db store).audit_events (events.map outgoing)
  refine ⟨rows, ?_, recorded⟩
  rw [World.rows, halfway store, if_pos rfl]
  exact grown

/-- A merge that left nothing but transcribed rows is admitted again, unless one of them marks it as merged. -/
theorem halfway_mergeable {w v : World} {segment : Segment} {events : List StoredEvent} {rows : List RawRow}
    (admitted : mergeable crates (w.db store) segment_id = .ok segment) (halfway : Halfway crates store events w v)
    (grown : v.rows store = w.rows store ++ rows) (decodable : Decodable crates rows)
    (unmarked : ∀ row ∈ rows, ¬ MarksMerged crates segment_id row) :
    mergeable crates (v.db store) segment_id = .ok segment := by
  obtain ⟨found, kind, live, clear, unnoted⟩ := mergeable_ok crates admitted
  obtain ⟨readable, none_before⟩ := merged_already_false crates clear
  have same : (v.db store).segments.find segment_id = some segment := by
    rw [halfway store, if_pos rfl]
    exact found
  have still_clear : merged_already crates segment_id (v.db store).audit_events.rows = .ok false := by
    change merged_already crates segment_id (v.rows store) = .ok false
    rw [grown]
    refine merged_already_of_unmarked crates ?_ ?_
    · intro row inside marker
      rcases List.mem_append.mp inside with old | new
      · exact readable row old marker
      · exact decodable row new
    · intro row inside
      rcases List.mem_append.mp inside with old | new
      · exact none_before row old
      · exact unmarked row new
  have state : ¬ (segment.state ≠ .Open ∧ segment.state ≠ .Closed) := by
    rintro ⟨not_open, not_closed⟩
    rcases live with is_open | is_closed
    · exact not_open is_open
    · exact not_closed is_closed
  rw [mergeable, same]
  simp only
  rw [if_neg (not_not.mpr kind), if_neg state, still_clear]
  simp only
  cases noted : segment.note with
  | none => rfl
  | some note => simp [unnoted note noted]

/-- Such a merge goes on a second time. -/
theorem halfway_planned {w v : World} {audit_dir : FilePath} {segment : Segment} {events transcribed : List StoredEvent}
    (planned : merge_plan crates store audit_dir segment_id w = .ok ⟨segment, events, none⟩)
    (halfway : Halfway crates store transcribed w v) (among : ∀ event ∈ transcribed, event ∈ events)
    (unnamed : ¬ ∃ event ∈ transcribed, NamesItself crates segment_id event) (opens : v.opens = []) :
    ∃ plan, merge_plan crates store audit_dir segment_id v = .ok plan := by
  obtain ⟨admitted, decoded, checked⟩ := merge_plan_ok crates planned
  simp only at admitted decoded checked
  obtain ⟨rows, grown, recorded⟩ := halfway.rows
  have decodable := transcribed_decodable (fun event inside => outgoing_readable decoded event (among event inside)) recorded
  have unmarked : ∀ row ∈ rows, ¬ MarksMerged crates segment_id row := by
    intro row inside marks
    exact unnamed ((transcribed_marks recorded).mp ⟨row, inside, marks⟩)
  have again := halfway_mergeable admitted halfway grown decodable unmarked
  -- The file is the one read before, or the store's own with the transcribed rows after it.
  have reread : ∃ others, (v.rows (segment_file audit_dir segment_id)).mapM (RawRow.into_stored crates) = .ok others ∧
      ∃ found, first_conflict crates (v.rows store) others = .ok found := by
    by_cases own : segment_file audit_dir segment_id = store
    · have whole : Decodable crates (v.rows store) := by
        rw [grown, decodable_append]
        rw [own] at decoded
        exact ⟨decodable_of_events decoded, decodable⟩
      obtain ⟨others, read⟩ := events_of_decodable whole
      refine ⟨others, by rw [own, read], ?_⟩
      exact first_conflict_readable fun event _ => whole.readable _ _
    · have file : v.rows (segment_file audit_dir segment_id) = w.rows (segment_file audit_dir segment_id) := by
        rw [World.rows, halfway, if_neg own]
        rfl
      refine ⟨events, by rw [file, decoded], ?_⟩
      refine first_conflict_readable fun event inside row here actor action => ?_
      rw [grown] at here
      rcases List.mem_append.mp here with old | new
      · exact readable_of_first_conflict checked event inside row old actor action
      · exact decodable row new
  obtain ⟨others, read, found, conflict⟩ := reread
  refine ⟨⟨segment, others, found⟩, ?_⟩
  rw [merge_plan, again, opens]
  simp only [List.headD_nil, read, conflict]

/-- The chain left behind is recognised by every later merge exactly when it holds a marker of the segment. -/
theorem halfway_recognised_iff {w v : World} {audit_dir : FilePath} {segment : Segment}
    {events transcribed : List StoredEvent}
    (planned : merge_plan crates store audit_dir segment_id w = .ok ⟨segment, events, none⟩)
    (halfway : Halfway crates store transcribed w v) (among : ∀ event ∈ transcribed, event ∈ events) :
    NeverRelabelled crates store segment_id v ↔ ∃ event ∈ transcribed, NamesItself crates segment_id event := by
  constructor
  · intro never
    by_contra unnamed
    -- The merge is called again at once, and every write of it succeeds.
    let retried : World := { disk := v.disk, clock := [], appends := [], updates := [], opens := [] }
    have world : reached crates store v [.elsewhere retried] = retried := by
      rw [reached, run_cons, run_nil, operate, World.around]
      simp only [retried, Function.update_eq_self]
    have again : Halfway crates store transcribed w retried := halfway
    obtain ⟨plan, replanned⟩ := halfway_planned planned again among unnamed rfl
    have writes := merge_planned_writes replanned (unrefused_of_granted (by simp [retried]))
    obtain ⟨error, after, merged, rows, _⟩ := never [.elsewhere retried] audit_dir
    rw [world] at merged rows
    rw [merged, rows] at writes
    exact lt_irrefl _ writes
  · intro named
    obtain ⟨rows, grown, recorded⟩ := halfway.rows
    obtain ⟨row, inside, marks⟩ := (transcribed_marks recorded).mpr named
    refine remembered_never_relabelled (.inr ⟨row, ?_, marks⟩)
    rw [grown]
    exact List.mem_append_right _ inside

/-! ### Where the failure falls -/

/-- The failure leaves a record: its note was written, or its marker was, or an event names the segment as merged. -/
def FailureRecorded (crates : Crates) (segment_id : String) (events : List StoredEvent) (w : World) : Prop :=
  match settle_all events.length w.appends with
  | (some (granted, _), _) =>
    w.updates.headD none = none ∨ ∃ event ∈ events.take granted, NamesItself crates segment_id event
  | (none, rest) =>
    (settle (AuditStore.APPEND_MAX_ATTEMPTS - 1) rest).1 = none ∨ ∃ event ∈ events, NamesItself crates segment_id event

theorem partial_merge_note_recorded (merged total : Nat) (error : AuditError) :
    partial_merge_recorded (partial_merge_note merged total error) = true := by
  rw [partial_merge_recorded, partial_merge_note, List.isPrefixOf_iff_prefix]
  simp only [String.toList_append, List.append_assoc]
  exact List.prefix_append _ _

theorem merged_event_marks (segment : Segment) (merged : Nat) (clock : List Int) (table : EventTable) :
    MarksMerged crates segment.segment_id (table.row_of crates (merged_event segment merged clock)) := by
  refine ⟨rfl, segment_merged_detail segment.segment_id segment.kind (clock.headD 0) merged, ?_, ?_⟩
  · refine decode_to_string crates (plain_json ?_) (le_trans (depth_json (d := 0) ?_) (by omega))
    · simp
    · simp
  · simp [segment_merged_detail, text_at_json, lookup]

section Failed
variable {w : World} {audit_dir : FilePath} {segment : Segment} {events : List StoredEvent}

/-- The transcription stopped at an append, and the note on the row was tried. -/
theorem stopped_never_relabelled_iff {granted : Nat} {error : AuditError} {rest : List (Option AuditError)}
    (planned : merge_plan crates store audit_dir segment_id w = .ok ⟨segment, events, none⟩)
    (stopped : settle_all events.length w.appends = (some (granted, error), rest)) :
    NeverRelabelled crates store segment_id (store.merge_segment crates audit_dir segment_id w).2 ↔
      w.updates.headD none = none ∨ ∃ event ∈ events.take granted, NamesItself crates segment_id event := by
  obtain ⟨seen, alike, merged⟩ := store.merge_segment_run crates audit_dir segment_id w
  rw [planned] at merged
  simp only at merged
  rw [store.fold_segment_partial crates segment events (w := seen) (by rw [alike.appends, stopped])] at merged
  have found : (w.db store).segments.find segment_id = some segment := (mergeable_ok crates (merge_plan_ok crates planned).1).1
  obtain rfl := admitted_name (merge_plan_ok crates planned).1
  let base : World := { seen with appends := rest }.appended_all crates store ((events.take granted).map outgoing)
  have updates : base.updates = w.updates := by
    rw [World.appended_all_updates]
    exact alike.updates
  have halfway : Halfway crates store (events.take granted) w base := by
    intro other
    rw [World.appended_all_db]
    have db : ∀ on : AuditStore, ({ seen with appends := rest } : World).db on = w.db on := alike.db
    rw [db, db]
  cases answer : w.updates.headD none with
  | none =>
    refine ⟨fun _ => .inl rfl, fun _ => ?_⟩
    rw [merged, AuditStore.set_segment_note, AuditStore.update_segment_granted store (w := base) (by rw [updates, answer])]
    refine remembered_never_relabelled (.inl ?_)
    refine ⟨{ segment with note := some (partial_merge_note granted events.length error) }, _, ?_, rfl,
      partial_merge_note_recorded granted events.length error⟩
    rw [World.segment, World.db_put_self, Table.find_update, if_pos rfl, halfway store, if_pos rfl, found]
    rfl
  | some refusal =>
    rw [merged, AuditStore.set_segment_note, AuditStore.update_segment_refused store (w := base) (by rw [updates, answer])]
    have left : Halfway crates store (events.take granted) w base.updated := halfway
    rw [halfway_recognised_iff planned left fun event inside => List.mem_of_mem_take inside]
    simp

/-- Every event was transcribed, and the marker was refused. -/
theorem merge_fold_unmerged {error : AuditError}
    (planned : merge_plan crates store audit_dir segment_id w = .ok ⟨segment, events, none⟩)
    (granted : (settle_all events.length w.appends).1 = none)
    (refused : (settle (AuditStore.APPEND_MAX_ATTEMPTS - 1) (settle_all events.length w.appends).2).1 = some error) :
    ∃ after, store.merge_segment crates audit_dir segment_id w = (.error error, after) ∧
      Halfway crates store events w after := by
  obtain ⟨seen, alike, merged⟩ := store.merge_segment_run crates audit_dir segment_id w
  rw [planned] at merged
  simp only at merged
  have unmerged : (store.transcribed crates events seen).append_error = some error := by
    rw [World.append_error, AuditStore.transcribed, World.appended_all_appends, alike.appends]
    exact refused
  rw [store.fold_segment_unmerged crates segment events (by rw [alike.appends, granted]) unmerged] at merged
  refine ⟨_, merged, ?_⟩
  intro other
  rw [World.append_spent_db, ticked_db, AuditStore.transcribed_db, alike.db, alike.db]

/-- The marker was written, and the row update after it was refused. -/
theorem marked_never_relabelled
    (planned : merge_plan crates store audit_dir segment_id w = .ok ⟨segment, events, none⟩)
    (granted : (settle_all events.length w.appends).1 = none)
    (recorded : (settle (AuditStore.APPEND_MAX_ATTEMPTS - 1) (settle_all events.length w.appends).2).1 = none)
    (failed : ∃ error, (store.merge_segment crates audit_dir segment_id w).1 = .error error) :
    NeverRelabelled crates store segment_id (store.merge_segment crates audit_dir segment_id w).2 := by
  obtain ⟨seen, alike, merged⟩ := store.merge_segment_run crates audit_dir segment_id w
  rw [planned] at merged
  simp only at merged
  have name : segment.segment_id = segment_id := admitted_name (merge_plan_ok crates planned).1
  have transcribed : (settle_all events.length seen.appends).1 = none := by rw [alike.appends, granted]
  have marked : (store.transcribed crates events seen).append_error = none := by
    rw [World.append_error, AuditStore.transcribed, World.appended_all_appends, alike.appends]
    exact recorded
  cases answer : seen.updates.headD none with
  | none =>
    exfalso
    obtain ⟨after, folded, _⟩ := store.fold_segment_marked crates segment events transcribed marked answer
    obtain ⟨error, failed⟩ := failed
    rw [merged, folded] at failed
    cases failed
  | some refusal =>
    rw [merged, store.fold_segment_unmarked crates segment events transcribed marked answer]
    refine remembered_never_relabelled (.inr ⟨_, ?_, name ▸ merged_event_marks segment events.length seen.clock
      ((store.transcribed crates events seen).db store).audit_events⟩)
    rw [World.rows, updated_db, World.appended, World.db_put_self, EventTable.append_rows]
    exact List.mem_append_right _ (List.mem_singleton.mpr rfl)

end Failed

end

/-- A merge that failed while it wrote is refused by every later merge of the segment exactly when the failure left a
    record. -/
theorem half_done_merge_refused_iff (crates : Crates) (store : AuditStore) (audit_dir : FilePath) (segment_id : String)
    (w : World) (segment : Segment) (events : List StoredEvent)
    (planned : merge_plan crates store audit_dir segment_id w = .ok ⟨segment, events, none⟩)
    (failed : ∃ error, (store.merge_segment crates audit_dir segment_id w).1 = .error error) :
    NeverRelabelled crates store segment_id (store.merge_segment crates audit_dir segment_id w).2 ↔
      FailureRecorded crates segment_id events w := by
  unfold FailureRecorded
  cases outcome : settle_all events.length w.appends with
  | mk stopped rest =>
    cases stopped with
    | some stopped =>
      obtain ⟨granted, error⟩ := stopped
      exact stopped_never_relabelled_iff planned outcome
    | none =>
      have granted : (settle_all events.length w.appends).1 = none := by rw [outcome]
      simp only
      cases marked : (settle (AuditStore.APPEND_MAX_ATTEMPTS - 1) rest).1 with
      | some error =>
        obtain ⟨after, merged, halfway⟩ := merge_fold_unmerged planned granted (by rw [outcome, marked])
        rw [merged, halfway_recognised_iff planned halfway fun _ inside => inside]
        simp
      | none => exact ⟨fun _ => .inl rfl, fun _ => marked_never_relabelled planned granted (by rw [outcome, marked]) failed⟩

/-! ### At a delivered segment of one event -/

/-- The row of a segment that was delivered closed. -/
def delivered_segment : Segment :=
  { segment_id := "seg-7", kind := .Temporary, head_hash := none, head_prev_chain := none, head_prev_length := none,
    opened_at_ms := none, closed_at_ms := none, state := .Closed, note := some "adopted from another node" }

/-- A merge of one delivered event into a chain that holds none is planned without a conflict. -/
theorem delivered_planned (crates : Crates) {event : AuditEvent} (plain : Plain event.detail)
    (shallow : depth event.detail ≤ 127) {w : World} (opens : w.opens = [])
    (own : w.db ⟨["data", "audit.db"]⟩ = { AuditDb.empty with segments := Table.empty.replace delivered_segment })
    (beside : w.db ⟨["data", "audit-segments", "seg-7.db"]⟩ =
      { AuditDb.empty with audit_events := (EventTable.empty.append crates event).2 }) :
    merge_plan crates ⟨["data", "audit.db"]⟩ ["data"] "seg-7" w =
      .ok ⟨delivered_segment, [(EventTable.empty.append crates event).1], none⟩ := by
  have file : segment_file ["data"] "seg-7" = ⟨["data", "audit-segments", "seg-7.db"]⟩ := by decide
  have admitted : mergeable crates { AuditDb.empty with segments := Table.empty.replace delivered_segment } "seg-7" =
      .ok delivered_segment := rfl
  have rows : w.rows ⟨["data", "audit-segments", "seg-7.db"]⟩ = [EventTable.empty.row_of crates event] := by
    rw [World.rows, beside]
    rfl
  have empty : w.rows ⟨["data", "audit.db"]⟩ = [] := by
    rw [World.rows, own]
    rfl
  have read := EventTable.row_of_stored crates EventTable.empty event plain shallow
  have events : [EventTable.empty.row_of crates event].mapM (RawRow.into_stored crates) =
      .ok [(EventTable.empty.append crates event).1] := decoded_iff.mpr (.cons read .nil)
  rw [merge_plan, own, admitted, opens]
  simp only [List.headD_nil, file, rows, events, empty]
  rfl

/-- A store that holds the row and no event, the segment's file beside it, and the answers of the writes to come. -/
def interrupted_world (crates : Crates) (appends updates : List (Option AuditError)) : World :=
  let file : AuditStore := ⟨["data", "audit-segments", "seg-7.db"]⟩
  let world : World := { disk := fun _ => none, clock := [7, 8], appends, updates, opens := [] }
  (world.put file { AuditDb.empty with audit_events := (EventTable.empty.append crates provisional_event).2 }).put
    ⟨["data", "audit.db"]⟩ { AuditDb.empty with segments := Table.empty.replace delivered_segment }

theorem interrupted_planned (crates : Crates) (appends updates : List (Option AuditError)) :
    merge_plan crates ⟨["data", "audit.db"]⟩ ["data"] "seg-7" (interrupted_world crates appends updates) =
      .ok ⟨delivered_segment, [(EventTable.empty.append crates provisional_event).1], none⟩ := by
  have apart : (⟨["data", "audit-segments", "seg-7.db"]⟩ : AuditStore) ≠ ⟨["data", "audit.db"]⟩ := by decide
  refine delivered_planned crates (plain_json (by simp)) (by decide) rfl (World.db_put_self _ _ _) ?_
  rw [interrupted_world, World.db_put, if_neg apart, World.db_put_self]

theorem refused_update_never_relabelled :
    NeverRelabelled provisional_crates ⟨["data", "audit.db"]⟩ "seg-7"
      (AuditStore.merge_segment provisional_crates ⟨["data", "audit.db"]⟩ ["data"] "seg-7"
        (interrupted_world provisional_crates [none, none] [some (.Sqlite .Unknown "disk I/O error")])).2 := by
  have planned := interrupted_planned provisional_crates [none, none] [some (.Sqlite .Unknown "disk I/O error")]
  have failed : ∃ error, (AuditStore.merge_segment provisional_crates ⟨["data", "audit.db"]⟩ ["data"] "seg-7"
      (interrupted_world provisional_crates [none, none] [some (.Sqlite .Unknown "disk I/O error")])).1 = .error error := by
    obtain ⟨after, more, row, merged, _⟩ := merge_fold_unmarked planned
      (unrefused_of_granted (by simp [interrupted_world])) (show _ = some (.Sqlite .Unknown "disk I/O error") from rfl)
    exact ⟨_, by rw [merged]⟩
  rw [half_done_merge_refused_iff provisional_crates _ _ _ _ _ _ planned failed]
  exact .inl rfl

/-- A merge whose marker is refused leaves no record, and the next merge of the segment writes to the chain. -/
theorem refused_marker_relabelled : ¬ ∃ crates : Crates, ∀ (store : AuditStore) (audit_dir : FilePath)
    (segment_id : String) (w : World) (segment : Segment) (events : List StoredEvent),
    merge_plan crates store audit_dir segment_id w = .ok ⟨segment, events, none⟩ → events ≠ [] → w.append_error = none →
      (∃ error, (store.merge_segment crates audit_dir segment_id w).1 = .error error) →
        NeverRelabelled crates store segment_id (store.merge_segment crates audit_dir segment_id w).2 := by
  rintro ⟨crates, never⟩
  let refusal : AuditError := .Sqlite .Unknown "disk I/O error"
  have planned := interrupted_planned crates [none, some refusal] []
  obtain ⟨after, merged, halfway⟩ := merge_fold_unmerged planned rfl (show _ = some refusal from rfl)
  have later := never _ _ _ _ _ _ planned (by simp) rfl ⟨refusal, by rw [merged]⟩
  rw [merged, halfway_recognised_iff planned halfway fun _ inside => inside] at later
  obtain ⟨other, inside, marker, _⟩ := later
  rw [List.mem_singleton.mp inside] at marker
  exact absurd marker (show ¬ "llm.request" = ACTION_SEGMENT_MERGED by decide)

end Riscdom.Audit
