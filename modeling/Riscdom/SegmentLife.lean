import Riscdom.PartialMerge

/-!
The life of a segment: how many markers of its end the chain holds, and that a
row which has ended stays as it is. A close asks for no state, and a merge
transcribes whatever the segment's file holds; both are kept in bounds here by
what the caller does.
-/
namespace Riscdom.Audit
open Riscdom.Json Riscdom.HashChain Riscdom.KeyedTable Fallible.Act Riscdom.Machine
variable (crates : Crates)

/-- The row is a marker of a kind that names the segment. -/
def marks (action segment_id : String) (row : RawRow) : Bool :=
  row.action == action && match decode crates row.detail_json with
    | .ok detail => text_at "segment_id" detail == some segment_id
    | .error _ => false

/-- How many markers of a kind name the segment. -/
def markers (action segment_id : String) (rows : List RawRow) : Nat := rows.countP (marks crates action segment_id)

/-- How many markers say that the segment ended, one way or the other. -/
def ends (segment_id : String) (rows : List RawRow) : Nat :=
  markers crates ACTION_SEGMENT_MERGED segment_id rows + markers crates ACTION_SEGMENT_FORKED segment_id rows

/-- A segment is folded or forked for good. -/
def SegmentState.Ended (state : SegmentState) : Prop := state = .Folded ∨ state = .Forked

/-- The event marks the end of a segment. -/
def EndMarker (event : AuditEvent) : Prop := event.action = ACTION_SEGMENT_MERGED ∨ event.action = ACTION_SEGMENT_FORKED

/-- A row that records the event marks no end of the segment. -/
def Beside (segment_id : String) (event : AuditEvent) : Prop :=
  ∀ row, Records crates event row → ends crates segment_id [row] = 0

section
variable {crates} {store : AuditStore} {segment_id : String}

theorem ends_append (first second : List RawRow) :
    ends crates segment_id (first ++ second) = ends crates segment_id first + ends crates segment_id second := by
  simp only [ends, markers, List.countP_append]
  omega

theorem ends_of_rows {rows : List RawRow} (beside : ∀ row ∈ rows, ends crates segment_id [row] = 0) :
    ends crates segment_id rows = 0 := by
  induction rows with
  | nil => rfl
  | cons row rest ih =>
    have head := beside row List.mem_cons_self
    have tail := ih fun other inside => beside other (List.mem_cons_of_mem _ inside)
    rw [← List.singleton_append, ends_append, head, tail]

theorem beside_of_action {event : AuditEvent} (other : ¬ EndMarker event) : Beside crates segment_id event := by
  intro row recorded
  have merged : row.action ≠ ACTION_SEGMENT_MERGED := by
    intro same
    exact other (.inl (recorded.2.2.1 ▸ same))
  have forked : row.action ≠ ACTION_SEGMENT_FORKED := by
    intro same
    exact other (.inr (recorded.2.2.1 ▸ same))
  simp [ends, markers, marks, merged, forked]

/-- An event whose detail names another segment is beside this one. -/
theorem beside_of_name {event : AuditEvent} {named : String} (plain : Plain event.detail) (shallow : depth event.detail ≤ 127)
    (names : text_at "segment_id" event.detail = some named) (differs : segment_id ≠ named) :
    Beside crates segment_id event := by
  intro row recorded
  have read : decode crates row.detail_json = .ok event.detail := by
    rw [recorded.2.2.2.2]
    exact decode_to_string crates plain shallow
  have other : ¬ named = segment_id := fun same => differs same.symm
  simp [ends, markers, marks, read, names, other]

/-- An end marker that names the segment counts once. -/
theorem ends_of_marker {event : AuditEvent} {row : RawRow} (recorded : Records crates event row) (marker : EndMarker event)
    (plain : Plain event.detail) (shallow : depth event.detail ≤ 127)
    (names : text_at "segment_id" event.detail = some segment_id) : ends crates segment_id [row] = 1 := by
  have read : decode crates row.detail_json = .ok event.detail := by
    rw [recorded.2.2.2.2]
    exact decode_to_string crates plain shallow
  have apart : ACTION_SEGMENT_MERGED ≠ ACTION_SEGMENT_FORKED := by decide
  rcases marker with merged | forked
  · have action : row.action = ACTION_SEGMENT_MERGED := recorded.2.2.1.trans merged
    simp [ends, markers, marks, read, names, action, apart]
  · have action : row.action = ACTION_SEGMENT_FORKED := recorded.2.2.1.trans forked
    simp [ends, markers, marks, read, names, action, apart.symm]

theorem Grows.ends {v w : World} (grows : Grows crates (Beside crates segment_id) store v w) :
    ends crates segment_id (w.rows store) = ends crates segment_id (v.rows store) := by
  obtain ⟨rows, grown, recorded⟩ := grows.rows
  have none : Audit.ends crates segment_id rows = 0 := by
    refine ends_of_rows fun row inside => ?_
    obtain ⟨event, beside, records⟩ := recorded row inside
    exact beside row records
  rw [grown, ends_append, none, Nat.add_zero]

/-! ### The markers of a merge -/

theorem forked_detail_plain (segment_id : String) (kind : SegmentKind) (at_ms : Int) (reason : String) (id : Int) :
    Plain (segment_forked_detail segment_id kind at_ms reason (some id)) ∧
      depth (segment_forked_detail segment_id kind at_ms reason (some id)) ≤ 127 ∧
      text_at "segment_id" (segment_forked_detail segment_id kind at_ms reason (some id)) = some segment_id := by
  refine ⟨plain_json (by simp), le_trans (depth_json (d := 0) (by simp)) (by omega), ?_⟩
  simp [segment_forked_detail, text_at_json, lookup]

theorem merged_detail_plain (segment_id : String) (kind : SegmentKind) (at_ms : Int) (count : Nat) :
    Plain (segment_merged_detail segment_id kind at_ms count) ∧
      depth (segment_merged_detail segment_id kind at_ms count) ≤ 127 ∧
      text_at "segment_id" (segment_merged_detail segment_id kind at_ms count) = some segment_id := by
  refine ⟨plain_json (by simp), le_trans (depth_json (d := 0) (by simp)) (by omega), ?_⟩
  simp [segment_merged_detail, text_at_json, lookup]

/-! ### What an orderly operation keeps -/

/-- The end of a segment stands in its row as often as on the chain, which is at most once. -/
def EndRecorded (crates : Crates) (store : AuditStore) (segment_id : String) (w : World) : Prop :=
  ends crates segment_id (w.rows store) = 0 ∨
    ends crates segment_id (w.rows store) = 1 ∧ ∃ row, w.segment store segment_id = some row ∧ row.state.Ended

/-- Row writes succeed; a close is for a segment that has not ended, and no end marker comes in from outside: by a
    merge that transcribes it, or by an append. -/
def Orderly (crates : Crates) (store : AuditStore) (w : World) (op : Op) : Prop :=
  w.updates = [] ∧
    match op with
    | .append event => ¬ EndMarker event
    | .close_segment segment_id => ∀ row, w.segment store segment_id = some row → ¬ row.state.Ended
    | .merge_segment audit_dir segment_id => ∀ segment events,
        merge_plan crates store audit_dir segment_id w = .ok ⟨segment, events, none⟩ →
          ∀ event ∈ events, ¬ EndMarker (outgoing event)
    | _ => True

theorem EndRecorded.quiet {v w : World} (recorded : EndRecorded crates store segment_id v)
    (same : SameRow store segment_id v w) (grows : Grows crates (Beside crates segment_id) store v w) :
    EndRecorded crates store segment_id w := by
  rw [EndRecorded, grows.ends]
  rcases recorded with none | ⟨once, row, found, ended⟩
  · exact .inl none
  · exact .inr ⟨once, row, same row found, ended⟩

/-- Where a segment has not ended, no marker names it. -/
theorem EndRecorded.none {w : World} (recorded : EndRecorded crates store segment_id w)
    (live : ∀ row, w.segment store segment_id = some row → ¬ row.state.Ended) : ends crates segment_id (w.rows store) = 0 := by
  rcases recorded with none | ⟨_, row, found, ended⟩
  · exact none
  · exact absurd ended (live row found)

theorem live_of_mergeable {db : AuditDb} {segment : Segment} (admitted : mergeable crates db segment_id = .ok segment) :
    ¬ segment.state.Ended := by
  obtain ⟨_, _, live, _⟩ := mergeable_ok crates admitted
  rintro (folded | forked)
  · rcases live with is_open | is_closed
    · rw [folded] at is_open
      cases is_open
    · rw [folded] at is_closed
      cases is_closed
  · rcases live with is_open | is_closed
    · rw [forked] at is_open
      cases is_open
    · rw [forked] at is_closed
      cases is_closed

theorem appended_all_grows {fits : AuditEvent → Prop} (w : World) {events : List AuditEvent}
    (kind : ∀ event ∈ events, fits event) : Grows crates fits store w (w.appended_all crates store events) := by
  refine ⟨events, kind, ?_⟩
  rw [World.appended_all_db, if_pos rfl]

section Merge
variable {w : World} {audit_dir : FilePath} {segment : Segment} {events : List StoredEvent}

/-- A merge that meets a conflict marks the segment forked, on the chain and in its row, or changes nothing. -/
theorem fork_recorded {conflict : Conflict}
    (planned : merge_plan crates store audit_dir segment_id w = .ok ⟨segment, events, some conflict⟩)
    (updates : w.updates = []) (before : ends crates segment_id (w.rows store) = 0) :
    EndRecorded crates store segment_id (store.merge_segment crates audit_dir segment_id w).2 := by
  have found : (w.db store).segments.find segment_id = some segment := (mergeable_ok crates (merge_plan_ok crates planned).1).1
  obtain rfl := admitted_name (merge_plan_ok crates planned).1
  obtain ⟨seen, alike, merged⟩ := store.merge_segment_run crates audit_dir segment.segment_id w
  rw [planned] at merged
  simp only at merged
  cases answer : seen.append_error with
  | some error =>
    rw [merged, store.fork_segment_refused crates segment conflict answer]
    refine .inl ?_
    rw [World.rows, World.append_spent_db, ticked_db, alike.db]
    exact before
  | none =>
    obtain ⟨after, forked, held⟩ := store.fork_segment_marked crates segment conflict answer
      (by rw [alike.updates, updates]; rfl)
    have marker : Records crates (forked_event segment conflict seen.clock)
        ((seen.db store).audit_events.row_of crates (forked_event segment conflict seen.clock)) := ⟨rfl, rfl, rfl, rfl, rfl⟩
    obtain ⟨plain, shallow, names⟩ := forked_detail_plain segment.segment_id segment.kind
      (seen.clock.headD 0) (conflict_reason conflict) conflict.id
    have once := ends_of_marker marker (.inr rfl) plain shallow names
    have earlier : ends crates segment.segment_id (seen.db store).audit_events.rows = 0 := by
      rw [alike.db]
      exact before
    rw [merged, forked]
    refine .inr ⟨?_, { segment with state := .Forked, note := some (conflict_reason conflict) }, ?_, .inr rfl⟩
    · rw [World.rows, held store, if_pos rfl, EventTable.append_rows, ends_append, earlier, once]
    · rw [World.segment, held store, if_pos rfl, Table.find_update, if_pos rfl, alike.db, found]
      rfl

/-- A merge without a conflict marks the segment folded, on the chain and in its row, or leaves no marker of it. -/
theorem fold_recorded (planned : merge_plan crates store audit_dir segment_id w = .ok ⟨segment, events, none⟩)
    (updates : w.updates = []) (before : ends crates segment_id (w.rows store) = 0)
    (transcribed : ∀ event ∈ events, Beside crates segment_id (outgoing event)) :
    EndRecorded crates store segment_id (store.merge_segment crates audit_dir segment_id w).2 := by
  have found : (w.db store).segments.find segment_id = some segment := (mergeable_ok crates (merge_plan_ok crates planned).1).1
  obtain rfl := admitted_name (merge_plan_ok crates planned).1
  obtain ⟨seen, alike, merged⟩ := store.merge_segment_run crates audit_dir segment.segment_id w
  rw [planned] at merged
  simp only at merged
  have read : Grows crates (Beside crates segment.segment_id) store w seen :=
    .of_eq (congrArg AuditDb.audit_events (alike.db store))
  have outgoing_beside : ∀ event ∈ events.map outgoing, Beside crates segment.segment_id event := by
    intro event inside
    obtain ⟨stored, here, rfl⟩ := List.mem_map.mp inside
    exact transcribed stored here
  cases outcome : settle_all events.length seen.appends with
  | mk stopped rest =>
    cases stopped with
    | some stopped =>
      obtain ⟨granted, error⟩ := stopped
      rw [merged, store.fold_segment_partial crates segment events outcome]
      refine .inl ?_
      let spent : World := { seen with appends := rest }
      have some_events : Grows crates (Beside crates segment.segment_id) store spent
          (spent.appended_all crates store ((events.take granted).map outgoing)) := by
        refine appended_all_grows spent fun event inside => outgoing_beside event ?_
        rw [List.map_take] at inside
        exact List.mem_of_mem_take inside
      have kept : Grows crates (Beside crates segment.segment_id) store w spent := read.trans (.of_eq rfl)
      have noted : Does (Grows crates (Beside crates segment.segment_id) store)
          (store.set_segment_note segment.segment_id (partial_merge_note granted events.length error)) :=
        update_segment_grows store _ _ _
      exact ((kept.trans some_events).trans (noted _)).ends.trans before
    | none =>
      have granted : (settle_all events.length seen.appends).1 = none := by rw [outcome]
      have whole : Grows crates (Beside crates segment.segment_id) store w (store.transcribed crates events seen) :=
        (read.trans (.of_eq rfl)).trans (appended_all_grows { seen with appends := _ } outgoing_beside)
      cases answer : (store.transcribed crates events seen).append_error with
      | some error =>
        rw [merged, store.fold_segment_unmerged crates segment events granted answer]
        exact .inl (whole.ends.trans before)
      | none =>
        obtain ⟨after, folded, _, held⟩ := store.fold_segment_marked crates segment events granted answer
          (by rw [alike.updates, updates]; rfl)
        let table := (seen.db store).audit_events.append_all crates (events.map outgoing)
        have earlier : ends crates segment.segment_id table.rows = 0 := by
          have kept := whole.ends.trans before
          rwa [World.rows, AuditStore.transcribed_db, if_pos rfl] at kept
        have marker : Records crates (merged_event segment events.length seen.clock)
            (table.row_of crates (merged_event segment events.length seen.clock)) := ⟨rfl, rfl, rfl, rfl, rfl⟩
        obtain ⟨plain, shallow, names⟩ := merged_detail_plain segment.segment_id segment.kind
          (seen.clock.headD 0) events.length
        have once := ends_of_marker marker (.inl rfl) plain shallow names
        have rows : ((seen.db store).audit_events.append_all crates
            (events.map outgoing ++ [merged_event segment events.length seen.clock])).rows =
              table.rows ++ [table.row_of crates (merged_event segment events.length seen.clock)] := by
          rw [append_all_append, append_all_cons, append_all_nil, EventTable.append_rows]
        have marked : ∃ head, after.segment store segment.segment_id =
            some { segment with state := .Folded, head_hash := head } := by
          refine ⟨((seen.db store).audit_events.append_all crates
            (events.map outgoing ++ [merged_event segment events.length seen.clock])).last_hash, ?_⟩
          rw [World.segment, held store, if_pos rfl, Table.find_update, if_pos rfl, alike.db, found]
          rfl
        obtain ⟨head, marked⟩ := marked
        rw [merged, folded]
        refine .inr ⟨?_, _, marked, .inl rfl⟩
        rw [World.rows, held store, if_pos rfl]
        simp only
        rw [rows, ends_append, earlier, once]

/-- A merge of another segment marks no end of this one. -/
theorem merge_beside {other : String} (differs : segment_id ≠ other)
    (transcribed : ∀ segment events, merge_plan crates store audit_dir other w = .ok ⟨segment, events, none⟩ →
      ∀ event ∈ events, Beside crates segment_id (outgoing event)) :
    Grows crates (Beside crates segment_id) store w (store.merge_segment crates audit_dir other w).2 := by
  obtain ⟨seen, alike, merged⟩ := store.merge_segment_run crates audit_dir other w
  have read : Grows crates (Beside crates segment_id) store w seen :=
    .of_eq (congrArg AuditDb.audit_events (alike.db store))
  rw [merged]
  cases planned : merge_plan crates store audit_dir other w with
  | error error => exact read
  | ok plan =>
    obtain ⟨segment, events, conflict⟩ := plan
    obtain rfl := admitted_name (merge_plan_ok crates planned).1
    cases conflict with
    | some conflict =>
      refine read.trans (fork_segment_grows store segment conflict (fun now at_ms => ?_) seen)
      obtain ⟨plain, shallow, names⟩ := forked_detail_plain segment.segment_id segment.kind at_ms
        (conflict_reason conflict) conflict.id
      exact beside_of_name plain shallow names differs
    | none =>
      refine read.trans (fold_segment_grows store segment (transcribed segment events planned) (fun now at_ms count => ?_) seen)
      obtain ⟨plain, shallow, names⟩ := merged_detail_plain segment.segment_id segment.kind at_ms count
      exact beside_of_name plain shallow names differs

end Merge

theorem opened_no_marker (now : Int) (segment : Segment) :
    ¬ EndMarker (.new now "host" ACTION_SEGMENT_OPENED (segment_opened_detail segment)) := by
  simp [EndMarker, AuditEvent.new, ACTION_SEGMENT_OPENED, ACTION_SEGMENT_MERGED, ACTION_SEGMENT_FORKED]

theorem closed_no_marker (now : Int) (segment_id : String) (closed_at_ms : Int) :
    ¬ EndMarker (.new now "host" ACTION_SEGMENT_CLOSED (segment_closed_detail segment_id closed_at_ms)) := by
  simp [EndMarker, AuditEvent.new, ACTION_SEGMENT_CLOSED, ACTION_SEGMENT_MERGED, ACTION_SEGMENT_FORKED]

theorem end_recorded_operate {w : World} {op : Op} (recorded : EndRecorded crates store segment_id w)
    (orderly : Orderly crates store w op) : EndRecorded crates store segment_id (operate crates store w op) := by
  obtain ⟨updates, allowed⟩ := orderly
  cases op with
  | append event =>
    exact recorded.quiet (append_same_row store event w) (append_grows store (beside_of_action allowed) w)
  | open_segment kind owner =>
    refine recorded.quiet (open_segment_same_row kind owner w) (open_segment_grows store kind owner ?_ w)
    intro now segment
    exact beside_of_action (opened_no_marker now segment)
  | close_segment other =>
    have grows : Grows crates (Beside crates segment_id) store w (store.close_segment crates other w).2 := by
      refine close_segment_grows store other (fun now at_ms => ?_) w
      exact beside_of_action (closed_no_marker now other at_ms)
    by_cases same : segment_id = other
    · subst same
      exact .inl (grows.ends.trans (recorded.none allowed))
    · exact recorded.quiet (close_segment_same_row same w) grows
  | adopt_segment other chain length =>
    exact recorded.quiet (adopt_segment_same_row other chain length w) (adopt_segment_grows store other chain length w)
  | merge_segment audit_dir other =>
    by_cases same : segment_id = other
    · subst same
      cases planned : merge_plan crates store audit_dir segment_id w with
      | error error =>
        obtain ⟨after, run, unchanged⟩ := merge_refused_unchanged crates planned
        rw [operate, run, EndRecorded, World.rows, World.segment, unchanged store]
        exact recorded
      | ok plan =>
        obtain ⟨segment, events, conflict⟩ := plan
        have admitted := (merge_plan_ok crates planned).1
        have before : ends crates segment_id (w.rows store) = 0 := by
          refine recorded.none fun row found => ?_
          rw [World.segment, (mergeable_ok crates admitted).1] at found
          cases found
          exact live_of_mergeable admitted
        cases conflict with
        | some conflict => exact fork_recorded planned updates before
        | none =>
          refine fold_recorded planned updates before fun event inside => ?_
          exact beside_of_action (allowed segment events planned event inside)
    · refine recorded.quiet (merge_segment_same_row same w) (merge_beside same ?_)
      intro segment events planned event inside
      exact beside_of_action (allowed segment events planned event inside)
  | elsewhere world =>
    rw [operate, EndRecorded, World.rows, World.segment, around_db]
    exact recorded

/-- A row that has ended is passed by every orderly operation. -/
theorem ended_operate {w : World} {op : Op} {row : Segment} (found : w.segment store segment_id = some row)
    (ended : row.state.Ended) (orderly : Orderly crates store w op) :
    (operate crates store w op).segment store segment_id = some row := by
  cases op with
  | append event => exact append_same_row store event w row found
  | open_segment kind owner => exact open_segment_same_row kind owner w row found
  | close_segment other =>
    by_cases same : segment_id = other
    · subst same
      exact absurd ended (orderly.2 row found)
    · exact close_segment_same_row same w row found
  | adopt_segment other chain length => exact adopt_segment_same_row other chain length w row found
  | merge_segment audit_dir other =>
    by_cases same : segment_id = other
    · subst same
      cases planned : merge_plan crates store audit_dir segment_id w with
      | error error =>
        obtain ⟨after, run, unchanged⟩ := merge_refused_unchanged crates planned
        rw [operate, run, World.segment, unchanged store]
        exact found
      | ok plan =>
        have admitted := (merge_plan_ok crates planned).1
        rw [World.segment, (mergeable_ok crates admitted).1] at found
        cases found
        exact absurd ended (live_of_mergeable admitted)
    · exact merge_segment_same_row same w row found
  | elsewhere world =>
    rw [operate, World.segment, around_db]
    exact found

end

/-- Along every orderly run the chain holds at most one marker of the end of each segment, and a row that has ended
    stays as it is. -/
theorem orderly_segments_end_once (crates : Crates) (store : AuditStore) (start : World)
    (new : start.disk store.path = none) (ops : List Op)
    (orderly : Allowed (operate crates store) (Orderly crates store) start ops) (segment_id : String) :
    ends crates segment_id ((reached crates store start ops).rows store) ≤ 1 ∧
      ∀ first second, ops = first ++ second → ∀ row, (reached crates store start first).segment store segment_id = some row →
        row.state.Ended → (reached crates store start ops).segment store segment_id = some row := by
  constructor
  · have empty : EndRecorded crates store segment_id start := by
      refine .inl ?_
      rw [World.rows, World.db, new]
      rfl
    have recorded : EndRecorded crates store segment_id (reached crates store start ops) :=
      run_keeps (fun _ _ good allowed => end_recorded_operate good allowed) empty orderly
    rcases recorded with none | ⟨once, _⟩
    · omega
    · omega
  · rintro first second rfl row found ended
    rw [reached, run_append]
    have later := ((allowed_append start first second).mp orderly).2
    have keeps : ∀ w op, w.segment store segment_id = some row → Orderly crates store w op →
        (operate crates store w op).segment store segment_id = some row :=
      fun _ _ good allowed => ended_operate good ended allowed
    exact run_keeps keeps found later

/-! ### A folded segment, and one that was closed again -/

/-- The segment's row has not ended. -/
def Alive (store : AuditStore) (segment_id : String) (w : World) : Prop :=
  ∃ row, w.segment store segment_id = some row ∧ ¬ row.state.Ended

theorem ClosedRow.alive {store : AuditStore} {segment_id : String} {v w : World} (closed : ClosedRow store segment_id v w)
    (alive : Alive store segment_id v) : Alive store segment_id w := by
  obtain ⟨row, found, live⟩ := alive
  obtain ⟨after, there, _, state⟩ := closed row found
  refine ⟨after, there, ?_⟩
  rcases state with same | is_closed | is_open
  · rw [same]
    exact live
  · simp [is_closed, SegmentState.Ended]
  · simp [is_open, SegmentState.Ended]

/-- A close takes a row back into life, wherever it was. -/
theorem close_segment_revives (crates : Crates) {store : AuditStore} {segment_id : String} {w : World} {row : Segment}
    (found : w.segment store segment_id = some row) (updates : w.updates = []) :
    Alive store segment_id (store.close_segment crates segment_id w).2 := by
  have looked : store.segment segment_id w = (.ok (some row), w) := by
    rw [World.segment] at found
    rw [AuditStore.segment, get_run, found]
  let ticked : World := { w with clock := w.clock.tail }
  have tick : now_ms w = (.ok (w.clock.headD 0), ticked) := rfl
  have mark := AuditStore.update_segment_granted store (w := ticked) (by simp [ticked, updates]) segment_id
    (fun s => { s with state := .Closed, closed_at_ms := some (w.clock.headD 0) }) fun _ => rfl
  rw [AuditStore.close_segment, bind_of_ok looked]
  simp only
  rw [bind_of_ok tick, AuditStore.set_segment_state, bind_of_ok mark]
  -- The row is closed now, and what is left of the close keeps it in life.
  suffices rest : Does (ClosedRow store segment_id) _ by
    refine (rest _).alive ⟨{ row with state := .Closed, closed_at_ms := some (w.clock.headD 0) }, ?_, ?_⟩
    · rw [World.segment] at found
      rw [World.segment, World.db_put_self, Table.find_update, if_pos rfl, show ticked.db store = w.db store from rfl, found]
      rfl
    · simp [SegmentState.Ended]
  refine does_bind .trans (fun w => (now_ms_same_row w).closed) fun stamp => ?_
  refine does_bind .trans (does_attempt fun w => (append_same_row store _ w).closed) fun result => ?_
  cases result with
  | ok stored => exact does_pure .refl _
  | error error => exact does_bind .trans (set_segment_state_closed (.inr rfl) _) fun _ => does_fail .refl _

/-- A segment adopted and merged though its file holds nothing. -/
def folded_run : List Op := [.adopt_segment "seg-7" none none, .merge_segment ["data"] "seg-7"]

/-- A world with no file in it, where every write succeeds. -/
def blank_world : World where
  disk := fun _ => none
  clock := []
  appends := []
  updates := []
  opens := []

/-- The segment is planned without an event, once it was adopted. -/
theorem adopted_planned (crates : Crates) : ∃ segment,
    merge_plan crates ⟨["data", "audit.db"]⟩ ["data"] "seg-7"
      (reached crates ⟨["data", "audit.db"]⟩ blank_world [.adopt_segment "seg-7" none none]) = .ok ⟨segment, [], none⟩ := by
  have file : segment_file ["data"] "seg-7" = ⟨["data", "audit-segments", "seg-7.db"]⟩ := by decide
  have apart : (⟨["data", "audit-segments", "seg-7.db"]⟩ : AuditStore) ≠ ⟨["data", "audit.db"]⟩ := by decide
  rw [adopted_segment_world crates ⟨["data", "audit.db"]⟩ "seg-7" rfl rfl, merge_plan, file]
  simp only [World.rows, World.db_put_self, World.db_put, if_neg apart]
  exact ⟨_, rfl⟩

theorem folded_run_ends_once :
    ends provisional_crates "seg-7" ((reached provisional_crates ⟨["data", "audit.db"]⟩ blank_world folded_run).rows
      ⟨["data", "audit.db"]⟩) ≤ 1 := by
  have orderly : Allowed (operate provisional_crates ⟨["data", "audit.db"]⟩)
      (Orderly provisional_crates ⟨["data", "audit.db"]⟩) blank_world folded_run := by
    have adopted : operate provisional_crates ⟨["data", "audit.db"]⟩ blank_world (.adopt_segment "seg-7" none none) =
        reached provisional_crates ⟨["data", "audit.db"]⟩ blank_world [.adopt_segment "seg-7" none none] := by
      rw [reached, run_cons, run_nil]
    refine ⟨⟨rfl, trivial⟩, ⟨?_, ?_⟩, trivial⟩
    · rw [adopted, adopted_segment_world provisional_crates ⟨["data", "audit.db"]⟩ "seg-7" rfl rfl]
      rfl
    · intro segment events planned event inside
      obtain ⟨_, known⟩ := adopted_planned provisional_crates
      rw [adopted, known] at planned
      cases planned
      cases inside
  exact (orderly_segments_end_once provisional_crates ⟨["data", "audit.db"]⟩ blank_world rfl folded_run orderly "seg-7").1

/-- A call on the segments of a store. -/
def SegmentCall : Op → Prop
  | .open_segment _ _ => True
  | .close_segment _ => True
  | .adopt_segment _ _ _ => True
  | .merge_segment _ _ => True
  | _ => False

/-- A close after a merge takes the folded row back to closed. -/
theorem folded_segment_revived : ¬ ∃ crates : Crates, ∀ (store : AuditStore) (start : World),
    start.disk store.path = none → start.updates = [] → ∀ ops : List Op, (∀ op ∈ ops, SegmentCall op) →
      ∀ segment_id, ends crates segment_id ((reached crates store start ops).rows store) ≤ 1 ∧
        ∀ first second, ops = first ++ second → ∀ row,
          (reached crates store start first).segment store segment_id = some row → row.state.Ended →
          ∃ later, (reached crates store start ops).segment store segment_id = some later ∧ later.state = row.state := by
  rintro ⟨crates, law⟩
  let store : AuditStore := ⟨["data", "audit.db"]⟩
  obtain ⟨segment, planned⟩ := adopted_planned crates
  have world := adopted_segment_world crates store (w := blank_world) "seg-7" rfl rfl
  have name : segment.segment_id = "seg-7" := admitted_name (merge_plan_ok crates planned).1
  have admitted := (mergeable_ok crates (merge_plan_ok crates planned).1).1
  simp only at admitted
  obtain ⟨after, merged, spent, held⟩ := merge_folded planned
    (by rw [world]; exact unrefused_of_granted (by simp [blank_world])) (by rw [world]; rfl)
  have folded : reached crates store blank_world folded_run = after := by
    have split : folded_run = [.adopt_segment "seg-7" none none] ++ [.merge_segment ["data"] "seg-7"] := rfl
    rw [split, reached_snoc, operate, merged]
  have marked : ∃ row, after.segment store "seg-7" = some row ∧ row.state = .Folded := by
    rw [World.segment, held store, if_pos rfl, Table.find_update, name, if_pos rfl, admitted]
    exact ⟨_, rfl, rfl⟩
  obtain ⟨row, found, state⟩ := marked
  have updates : after.updates = [] := by
    rw [spent, world]
    rfl
  obtain ⟨later, there, live⟩ := close_segment_revives crates found updates
  obtain ⟨last, here, same⟩ := (law store blank_world rfl rfl (folded_run ++ [.close_segment "seg-7"])
    (by simp [folded_run, SegmentCall]) "seg-7").2 folded_run [.close_segment "seg-7"] rfl row
    (by rw [folded]; exact found) (.inl state)
  rw [reached_snoc, folded, operate, there] at here
  cases here
  rw [state] at same
  exact live (.inl same)

end Riscdom.Audit
