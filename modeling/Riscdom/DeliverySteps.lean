import Riscdom.Receiving

/-!
What each part of a delivery does to the files: which of them it leaves alone,
what it appends to the chain, and what a merge comes to while no append is
refused for good.
-/
namespace Riscdom.Audit
open Riscdom.Json Fallible.Act

/-! ### What is left alone -/

/-- The chain grew by events of a kind, refusals are as far off as before, and besides the chain's file and one other
    every file is as it was. -/
structure Frame (crates : Crates) (fits : AuditEvent → Prop) (store file : AuditStore) (v w : World) : Prop where
  grows : Grows crates fits store v w
  unrefused : Unrefused v.appends → Unrefused w.appends
  beside : ∀ other, other ≠ store → other ≠ file → w.db other = v.db other

section Frame
variable {crates : Crates} {fits : AuditEvent → Prop} {store file : AuditStore}

theorem Frame.refl (w : World) : Frame crates fits store file w w := ⟨.refl w, id, fun _ _ _ => rfl⟩
theorem Frame.trans {u v w : World} (first : Frame crates fits store file u v) (second : Frame crates fits store file v w) :
    Frame crates fits store file u w where
  grows := first.grows.trans second.grows
  unrefused := fun before => second.unrefused (first.unrefused before)
  beside := by
    intro other apart elsewhere
    rw [second.beside other apart elsewhere, first.beside other apart elsewhere]

/-- A step that leaves the answers to the appends and every database alone. -/
theorem Frame.of_same {v w : World} (appends : w.appends = v.appends) (same : ∀ other, w.db other = v.db other) :
    Frame crates fits store file v w where
  grows := .of_eq (by rw [same])
  unrefused := by rw [appends]; exact id
  beside := fun other _ _ => same other

/-- Where only the chain's own file was touched, another may be allowed. -/
theorem Frame.widen {v w : World} (frame : Frame crates fits store store v w) : Frame crates fits store file v w :=
  ⟨frame.grows, frame.unrefused, fun other apart _ => frame.beside other apart apart⟩

theorem Frame.mono {wider : AuditEvent → Prop} {v w : World} (frame : Frame crates fits store file v w)
    (weaker : ∀ event, fits event → wider event) : Frame crates wider store file v w := by
  obtain ⟨⟨events, kind, grown⟩, unrefused, beside⟩ := frame
  exact ⟨⟨events, fun event inside => weaker event (kind event inside), grown⟩, unrefused, beside⟩

theorem open_at_same (path : FilePath) :
    Does (fun v w => w.appends = v.appends ∧ ∀ other, w.db other = v.db other) (AuditStore.open_at path) := by
  intro w
  rw [AuditStore.open_at]
  cases w.opens.headD none with
  | some error => exact ⟨rfl, fun _ => rfl⟩
  | none =>
    refine ⟨rfl, fun other => ?_⟩
    simp only [World.db_put]
    split_ifs with same
    · rw [same]
    · rfl

theorem frame_climbed : Climbed (Frame crates fits store file) where
  refl := .refl
  trans := .trans
  tick := fun _ => .of_same rfl fun _ => rfl
  opens := fun path w => .of_same (open_at_same path w).1 (open_at_same path w).2

/-- An append to the chain, of an event of the kind. -/
theorem append_frame {event : AuditEvent} (kind : fits event) :
    Does (Frame crates fits store file) (store.append crates event) := by
  intro w
  refine ⟨append_grows store kind w, fun unrefused => ?_, fun other apart _ => ?_⟩
  · rw [AuditStore.append_granted crates store unrefused.append_error]
    exact unrefused.append_spent
  · cases outcome : w.append_error with
    | none =>
      rw [AuditStore.append_granted crates store outcome]
      simp only [World.appended, World.db_put, if_neg apart, World.append_spent_db]
    | some error =>
      rw [AuditStore.append_refused crates store outcome]
      rfl

/-- An append to the other file. -/
theorem append_beside_frame (apart : file ≠ store) (event : AuditEvent) :
    Does (Frame crates fits store file) (file.append crates event) := by
  intro w
  have elsewhere (other : AuditStore) (differs : other ≠ file) : (file.append crates event w).2.db other = w.db other := by
    cases outcome : w.append_error with
    | none =>
      rw [AuditStore.append_granted crates file outcome]
      simp only [World.appended, World.db_put, if_neg differs, World.append_spent_db]
    | some error =>
      rw [AuditStore.append_refused crates file outcome]
      rfl
  refine ⟨.of_eq ?_, fun unrefused => ?_, fun other _ differs => elsewhere other differs⟩
  · rw [elsewhere store (Ne.symm apart)]
  · rw [AuditStore.append_granted crates file unrefused.append_error]
    exact unrefused.append_spent

/-- A statement on another table of the chain's file. -/
theorem execute_frame {change : AuditDb → AuditDb} (aside : ∀ db, (change db).audit_events = db.audit_events) :
    Does (Frame crates fits store file) (store.execute change) := by
  intro w
  refine ⟨execute_grows store aside w, fun unrefused => ?_, fun other apart _ => ?_⟩
  · cases answer : w.updates.headD none with
    | none =>
      rw [AuditStore.execute_granted store answer]
      exact unrefused
    | some error =>
      rw [AuditStore.execute_refused store answer]
      exact unrefused
  · cases answer : w.updates.headD none with
    | none =>
      rw [AuditStore.execute_granted store answer, World.db_put, if_neg apart]
      rfl
    | some error =>
      rw [AuditStore.execute_refused store answer]
      rfl

/-- A segment whose row is there is not adopted anew. -/
theorem adopt_segment_present {w : World} {segment_id : String} {segment : Segment}
    (found : (w.db store).segments.find segment_id = some segment) (head_prev_chain : Option String)
    (head_prev_length : Option Int) : store.adopt_segment segment_id head_prev_chain head_prev_length w = (.ok (), w) := by
  have looked : store.segment segment_id w = (.ok (some segment), w) := by rw [AuditStore.segment, get_run, found]
  rw [AuditStore.adopt_segment, bind_of_ok looked]
  rfl

theorem adopt_segment_frame (segment_id : String) (head_prev_chain : Option String) (head_prev_length : Option Int) :
    Does (Frame crates fits store file) (store.adopt_segment segment_id head_prev_chain head_prev_length) :=
  frame_climbed.adopt_segment store segment_id _ _ fun _ _ => frame_climbed.insert_segment store (execute_frame fun _ => rfl)

theorem fork_segment_frame (segment : Segment) (conflict : Conflict)
    (forked : ∀ now forked_at_ms, fits (.new now "host" ACTION_SEGMENT_FORKED (segment_forked_detail segment.segment_id
      segment.kind forked_at_ms (conflict_reason conflict) (some conflict.id)))) :
    Does (Frame crates fits store file) (store.fork_segment crates segment conflict) := by
  refine frame_climbed.fork_segment store segment conflict ?_ (execute_frame fun _ => rfl)
  intro now forked_at_ms
  exact append_frame (forked now forked_at_ms)

theorem merge_segment_frame (audit_dir : FilePath) (segment_id : String) (any : ∀ event, fits event) :
    Does (Frame crates fits store file) (store.merge_segment crates audit_dir segment_id) :=
  frame_climbed.merge_segment store audit_dir segment_id (fun event => append_frame (any event))
    fun _ _ _ => execute_frame fun _ => rfl

end Frame

/-! ### What a merge comes to -/

section Merge
variable {crates : Crates} {store : AuditStore} {audit_dir : FilePath} {segment_id : String} {w : World}
  {segment : Segment} {events : List StoredEvent}

/-- A transcription that no append of is refused finds the marker's granted too. -/
theorem transcription_granted (crates : Crates) (store : AuditStore) (events : List StoredEvent) {seen : World} (unrefused : Unrefused seen.appends) :
    (settle_all events.length seen.appends).1 = none ∧ (store.transcribed crates events seen).append_error = none := by
  obtain ⟨granted, left⟩ := unrefused.several events.length
  have appends : (store.transcribed crates events seen).appends = (settle_all events.length seen.appends).2 := by
    simp only [AuditStore.transcribed, World.appended_all_appends]
  refine ⟨granted, Unrefused.append_error ?_⟩
  rw [appends]
  exact left

/-- Where the mark on the row is granted as well, the merge is told folded: the events, and the marker after them. -/
theorem merge_marked (planned : merge_plan crates store audit_dir segment_id w = .ok ⟨segment, events, none⟩)
    (unrefused : Unrefused w.appends) (marked : w.updates.headD none = none) :
    ∃ after, store.merge_segment crates audit_dir segment_id w = (.ok (.Folded events.length), after) ∧
      (after.db store).audit_events = (w.db store).audit_events.append_all crates
        (events.map outgoing ++ [merged_event segment events.length w.clock]) := by
  obtain ⟨seen, alike, run⟩ := store.merge_segment_run crates audit_dir segment_id w
  rw [planned] at run
  obtain ⟨granted, merged⟩ := transcription_granted crates store events (alike.appends.symm ▸ unrefused)
  obtain ⟨after, folded, _, held⟩ := store.fold_segment_marked crates segment events granted merged (by rw [alike.updates, marked])
  refine ⟨after, run.trans folded, ?_⟩
  rw [held store, if_pos rfl, alike.db, alike.clock]

/-- A transcription that no append of is refused: the events, and the marker after them. The mark on the row may still
    fail. -/
theorem merge_written (planned : merge_plan crates store audit_dir segment_id w = .ok ⟨segment, events, none⟩)
    (unrefused : Unrefused w.appends) :
    ∃ result after, store.merge_segment crates audit_dir segment_id w = (result, after) ∧
      (result = .ok (.Folded events.length) ∨ ∃ error, result = .error error) ∧
      (after.db store).audit_events = (w.db store).audit_events.append_all crates
        (events.map outgoing ++ [merged_event segment events.length w.clock]) := by
  cases marked : w.updates.headD none with
  | none =>
    obtain ⟨after, folded, held⟩ := merge_marked planned unrefused marked
    exact ⟨_, after, folded, .inl rfl, held⟩
  | some error =>
    obtain ⟨seen, alike, run⟩ := store.merge_segment_run crates audit_dir segment_id w
    rw [planned] at run
    obtain ⟨granted, merged⟩ := transcription_granted crates store events (alike.appends.symm ▸ unrefused)
    have folded := store.fold_segment_unmarked crates segment events granted merged (by rw [alike.updates, marked])
    refine ⟨_, _, run.trans folded, .inr ⟨error, rfl⟩, ?_⟩
    simp only [updated_db, World.appended, World.db_put_self, World.append_spent_db, ticked_db, AuditStore.transcribed_db,
      if_true, alike.db, alike.clock, append_all_append, append_all_cons, append_all_nil]

/-- A merge that its checks refuse writes nothing. -/
theorem merge_refused {error : AuditError} (refused : merge_plan crates store audit_dir segment_id w = .error error)
    {fits : AuditEvent → Prop} {file : AuditStore} :
    ∃ after, store.merge_segment crates audit_dir segment_id w = (.error error, after) ∧
      Frame crates fits store file w after := by
  obtain ⟨seen, alike, run⟩ := store.merge_segment_run crates audit_dir segment_id w
  rw [refused] at run
  exact ⟨seen, run, .of_same alike.appends alike.db⟩

/-- A merge that met a conflict writes a marker of it, if that. -/
theorem merge_conflict {conflict : Conflict} {fits : AuditEvent → Prop} (file : AuditStore)
    (planned : merge_plan crates store audit_dir segment_id w = .ok ⟨segment, events, some conflict⟩)
    (forked : ∀ now forked_at_ms, fits (.new now "host" ACTION_SEGMENT_FORKED (segment_forked_detail segment.segment_id
      segment.kind forked_at_ms (conflict_reason conflict) (some conflict.id)))) :
    (∀ merged, (store.merge_segment crates audit_dir segment_id w).1 ≠ .ok (.Folded merged)) ∧
      Frame crates fits store file w (store.merge_segment crates audit_dir segment_id w).2 := by
  obtain ⟨seen, alike, run⟩ := store.merge_segment_run crates audit_dir segment_id w
  rw [planned] at run
  constructor
  · intro merged folded
    rw [run] at folded
    simp only [AuditStore.fork_segment_ticked] at folded
    cases refused : seen.ticked.append_error with
    | some error =>
      rw [bind_of_error (AuditStore.append_refused crates store refused _)] at folded
      cases folded
    | none =>
      rw [bind_of_ok (AuditStore.append_granted crates store refused _), bind_run] at folded
      split at folded
      · cases folded
      · cases folded
  · rw [run]
    exact .trans (.of_same alike.appends alike.db) (fork_segment_frame segment conflict forked seen)

end Merge

/-! ### Which merges are planned -/

/-- Each of the second list has one of the first that it is related to. -/
theorem related_left {α β : Type} {R : α → β → Prop} {as : List α} {bs : List β} (related : List.Forall₂ R as bs) {b : β}
    (inside : b ∈ bs) : ∃ a ∈ as, R a b := by
  induction related with
  | nil => cases inside
  | cons head _ ih =>
    rcases List.mem_cons.mp inside with rfl | later
    · exact ⟨_, List.mem_cons_self, head⟩
    · obtain ⟨a, kept, found⟩ := ih later
      exact ⟨a, List.mem_cons_of_mem _ kept, found⟩

/-- Rows that record events of plain details read back as these events. -/
theorem recorded_decoded {crates : Crates} {events : List AuditEvent} {rows : List RawRow}
    (recorded : List.Forall₂ (Records crates) events rows)
    (plain : ∀ event ∈ events, Plain event.detail ∧ depth event.detail ≤ 127) :
    ∃ stored, rows.mapM (RawRow.into_stored crates) = .ok stored ∧ stored.map StoredEvent.event = events := by
  suffices walk : ∃ stored, List.Forall₂ (fun row event => row.into_stored crates = .ok event) rows stored ∧
      stored.map StoredEvent.event = events by
    obtain ⟨stored, decoded, same⟩ := walk
    exact ⟨stored, decoded_iff.mpr decoded, same⟩
  induction recorded with
  | nil => exact ⟨[], .nil, rfl⟩
  | @cons event row events rows records _ ih =>
    obtain ⟨stored, decoded, same⟩ := ih fun other inside => plain other (List.mem_cons_of_mem _ inside)
    obtain ⟨readable, shallow⟩ := plain event List.mem_cons_self
    obtain ⟨timestamp, actor, action, agent, detail⟩ := records
    have read : row.into_stored crates = .ok ⟨row.id, event, row.prev_hash, row.hash⟩ := by
      rw [RawRow.into_stored, detail, decode_to_string crates readable shallow, timestamp, actor, action, agent]
    exact ⟨_, .cons read decoded, by rw [List.map_cons, same]⟩

theorem main_chain_row_apart {crates : Crates} {actor : String} (action : String) (detail : Value) {rows : List RawRow}
    (apart : ∀ row ∈ rows, row.actor ≠ actor) : main_chain_row_with crates actor action detail rows = .ok none := by
  induction rows with
  | nil => rfl
  | cons row rest ih =>
    rw [main_chain_row_with, if_neg fun same => apart row List.mem_cons_self same.1]
    exact ih fun other later => apart other (List.mem_cons_of_mem _ later)

/-- A merge whose events resemble no row of the chain is planned without a conflict. -/
theorem merge_plan_apart {crates : Crates} {store : AuditStore} {audit_dir : FilePath} {segment_id : String} {w : World}
    {segment : Segment} {events : List StoredEvent} (found : (w.db store).segments.find segment_id = some segment)
    (kind : segment.kind = .Temporary) (closed : segment.state = .Closed)
    (whole : ∀ note, segment.note = some note → partial_merge_recorded note = false) (opened : w.opens.headD none = none)
    (unmarked : ∀ row ∈ w.rows store, row.action ≠ ACTION_SEGMENT_MERGED)
    (decoded : (w.rows (segment_file audit_dir segment_id)).mapM (RawRow.into_stored crates) = .ok events)
    (apart : ∀ row ∈ w.rows store, ∀ event ∈ events, row.actor ≠ event.event.actor) :
    merge_plan crates store audit_dir segment_id w = .ok ⟨segment, events, none⟩ := by
  have already : merged_already crates segment_id (w.db store).audit_events.rows = .ok false :=
    merged_already_of_unmarked crates (fun row inside marker => absurd marker (unmarked row inside))
      fun row inside marks => unmarked row inside marks.1
  have admitted : mergeable crates (w.db store) segment_id = .ok segment := by
    rw [mergeable, found]
    simp only [kind, closed, already]
    cases noted : segment.note with
    | none => simp
    | some note => simp [whole note noted]
  have no_conflict : first_conflict crates (w.rows store) events = .ok none := by
    clear decoded
    induction events with
    | nil => rfl
    | cons event rest ih =>
      rw [first_conflict, main_chain_row_apart _ _ fun row inside => apart row inside event List.mem_cons_self]
      exact ih fun row inside other later => apart row inside other (List.mem_cons_of_mem _ later)
  rw [merge_plan, admitted]
  simp only [opened, decoded, no_conflict]

end Riscdom.Audit

namespace Riscdom.Core
open Riscdom.Json Riscdom.HashChain Riscdom.Audit Riscdom.Net Fallible.Act

/-! ### The parts of a delivery -/

section Parts
variable {sink : SegmentSink} {d : Delivery} {fits : AuditEvent → Prop} {file : AuditStore}

theorem record_host_event_frame (fits : AuditEvent → Prop) (file : AuditStore) {action : String} {detail : Value} (kind : ∀ now, fits (sink.host_event now action detail)) :
    Does (Frame sink.crates fits sink.store file) (sink.record_host_event action detail) := by
  refine frame_climbed.bind frame_climbed.tick fun now => ?_
  exact frame_climbed.bind (does_attempt (append_frame (kind now))) fun _ => does_pure frame_climbed.refl _

/-- A row of the centre's own that is granted is on the chain. -/
theorem record_host_event_granted {w : World} (granted : w.append_error = none) (action : String) (detail : Value) :
    (sink.record_host_event action detail w).2 = { w with clock := w.clock.tail }.append_spent.appended sink.crates sink.store
      (sink.host_event (w.clock.headD 0) action detail) :=
  congrArg Prod.snd (AuditStore.append_granted sink.crates sink.store (w := { w with clock := w.clock.tail }) granted
    (sink.host_event (w.clock.headD 0) action detail))

theorem append_each_frame (apart : file ≠ sink.store) (events : List SegmentEvent) :
    Does (Frame sink.crates fits sink.store file) (sink.append_each file events) := by
  induction events with
  | nil => exact does_pure frame_climbed.refl _
  | cons event rest ih => exact frame_climbed.bind (append_beside_frame apart _) fun _ => ih

/-- While no append is refused for good, all the events come into the file, in their order, and nothing else changes. -/
theorem append_each_written (sink : SegmentSink) (file : AuditStore) (events : List SegmentEvent) {w : World} (unrefused : Unrefused w.appends) :
    ∃ after, sink.append_each file events w = (.ok (), after) ∧ after.updates = w.updates ∧ after.opens = w.opens ∧
      ∀ other, after.db other = if other = file then
        { w.db file with
          audit_events := (w.db file).audit_events.append_all sink.crates (events.map SegmentEvent.audit_event) }
        else w.db other := by
  induction events generalizing w with
  | nil =>
    refine ⟨w, rfl, rfl, rfl, fun other => ?_⟩
    split_ifs with same
    · rw [same]
      rfl
    · rfl
  | cons event rest ih =>
    have granted := AuditStore.append_granted sink.crates file unrefused.append_error event.audit_event
    obtain ⟨after, run, updates, opens, written⟩ :=
      ih (w := w.append_spent.appended sink.crates file event.audit_event) unrefused.append_spent
    refine ⟨after, (bind_of_ok granted).trans run, updates, opens, fun other => ?_⟩
    rw [written]
    simp only [World.appended, World.db_put, World.append_spent_db, List.map_cons, append_all_cons, if_true]
    split_ifs <;> rfl

/-- A file that was opened is the one that was named, and holds what it held. -/
theorem open_at_ok {path : FilePath} {w after : World} {segment : AuditStore}
    (opened : AuditStore.open_at path w = (.ok segment, after)) : segment = ⟨path⟩ ∧ ∀ other, after.db other = w.db other := by
  rw [AuditStore.open_at] at opened
  cases answer : w.opens.headD none with
  | some error =>
    rw [answer] at opened
    cases opened
  | none =>
    rw [answer] at opened
    cases opened
    refine ⟨rfl, fun other => ?_⟩
    rw [World.db_put]
    split_ifs with here
    · rw [here]
    · rfl

theorem rebuild_frame (sink : SegmentSink) (d : Delivery) (fits : AuditEvent → Prop)
    (apart : segment_file sink.audit_dir d.done.segment_id ≠ sink.store) :
    Does (Frame sink.crates fits sink.store (segment_file sink.audit_dir d.done.segment_id)) (sink.rebuild d) := by
  intro w
  have opens : Frame sink.crates fits sink.store (segment_file sink.audit_dir d.done.segment_id) w
      (AuditStore.open_at (segment_db_path_in sink.audit_dir d.done.segment_id) w).2 := frame_climbed.opens _ w
  rw [SegmentSink.rebuild, AuditStore.open_segment_store, bind_run]
  cases opened : AuditStore.open_at (segment_db_path_in sink.audit_dir d.done.segment_id) w with
  | mk result after =>
    rw [opened] at opens
    cases result with
    | error error => exact opens
    | ok segment =>
      cases (open_at_ok opened).1
      refine opens.trans (frame_climbed.bind (append_each_frame apart d.events) (fun _ => ?_) after)
      refine frame_climbed.bind (does_attempt ?_) fun status => ?_
      · exact frame_climbed.bind (does_get frame_climbed.refl _) fun _ => does_pure frame_climbed.refl _
      · rcases status with error | (length | ⟨at_id, reason⟩) <;> exact does_pure frame_climbed.refl _

/-- While no append is refused for good, the events of the delivery come behind what a file that can be opened held, and
    a chained file stays chained. -/
theorem rebuild_completes (sink : SegmentSink) (d : Delivery) {w : World} (unrefused : Unrefused w.appends)
    (opened : w.opens.headD none = none) :
    ∃ answer after, sink.rebuild d w = (.ok answer, after) ∧
      (Chained sink.crates (w.rows (segment_file sink.audit_dir d.done.segment_id)) → answer = .ok ()) ∧
      after.updates = w.updates ∧ after.opens = w.opens.tail ∧
      ∀ other, after.db other = if other = segment_file sink.audit_dir d.done.segment_id then
        { w.db (segment_file sink.audit_dir d.done.segment_id) with
          audit_events := (w.db (segment_file sink.audit_dir d.done.segment_id)).audit_events.append_all sink.crates
            (d.events.map SegmentEvent.audit_event) }
        else w.db other := by
  have run : AuditStore.open_at (segment_db_path_in sink.audit_dir d.done.segment_id) w =
      (.ok (segment_file sink.audit_dir d.done.segment_id), { w with opens := w.opens.tail }.put
        (segment_file sink.audit_dir d.done.segment_id) (w.db (segment_file sink.audit_dir d.done.segment_id))) := by
    rw [AuditStore.open_at, opened]
    rfl
  have same (other : AuditStore) : ({ w with opens := w.opens.tail }.put (segment_file sink.audit_dir d.done.segment_id)
      (w.db (segment_file sink.audit_dir d.done.segment_id))).db other = w.db other := by
    rw [World.db_put]
    split_ifs with here
    · rw [here]
    · rfl
  obtain ⟨after, appended, updates, opens, written⟩ := append_each_written sink
    (segment_file sink.audit_dir d.done.segment_id) d.events (w := { w with opens := w.opens.tail }.put
      (segment_file sink.audit_dir d.done.segment_id) (w.db (segment_file sink.audit_dir d.done.segment_id))) unrefused
  simp only [same] at written
  have verified : attempt (verify_chain sink.crates (segment_file sink.audit_dir d.done.segment_id)) after =
      (.ok (.ok (verify_rows sink.crates (after.rows (segment_file sink.audit_dir d.done.segment_id)))), after) := rfl
  cases status : verify_rows sink.crates (after.rows (segment_file sink.audit_dir d.done.segment_id)) with
  | Intact length =>
    rw [status] at verified
    exact ⟨.ok (), after, (bind_of_ok run).trans ((bind_of_ok appended).trans (bind_of_ok verified)), fun _ => rfl, updates, opens,
      written⟩
  | Broken at_id reason =>
    rw [status] at verified
    refine ⟨_, after, (bind_of_ok run).trans ((bind_of_ok appended).trans (bind_of_ok verified)), fun chained => ?_, updates,
      opens, written⟩
    have still : Chained sink.crates (after.rows (segment_file sink.audit_dir d.done.segment_id)) := by
      rw [World.rows, written, if_pos rfl]
      exact append_all_chained sink.crates chained _
    rw [verify_rows_intact sink.crates still] at status
    cases status

/-- An append that was answered for put the event behind the rows of its file. -/
theorem append_ok {crates : Crates} {store : AuditStore} {event : AuditEvent} {w after : World} {stored : StoredEvent}
    (run : store.append crates event w = (.ok stored, after)) : after = w.append_spent.appended crates store event := by
  cases outcome : w.append_error with
  | none =>
    rw [AuditStore.append_granted crates store outcome] at run
    exact (congrArg Prod.snd run).symm
  | some error =>
    rw [AuditStore.append_refused crates store outcome] at run
    cases run

/-- Where all the events came into the file, they stand behind what it held. -/
theorem append_each_ok {file : AuditStore} {events : List SegmentEvent} {w after : World}
    (run : sink.append_each file events w = (.ok (), after)) :
    (after.db file).audit_events =
      (w.db file).audit_events.append_all sink.crates (events.map SegmentEvent.audit_event) := by
  induction events generalizing w with
  | nil =>
    cases run
    rfl
  | cons event rest ih =>
    obtain ⟨stored, between, appended, later⟩ := bind_eq_ok.mp run
    rw [ih later, append_ok appended, World.appended, World.db_put, if_pos rfl, World.append_spent_db, List.map_cons,
      append_all_cons]

/-- Where the rebuilt store is answered for at all, it holds the events of the delivery behind what it held. -/
theorem rebuild_ok {w after : World} {answer : Except String Unit} (run : sink.rebuild d w = (.ok answer, after)) :
    (after.db (segment_file sink.audit_dir d.done.segment_id)).audit_events =
      (w.db (segment_file sink.audit_dir d.done.segment_id)).audit_events.append_all sink.crates
        (d.events.map SegmentEvent.audit_event) := by
  obtain ⟨segment, ready, opened, later⟩ := bind_eq_ok.mp run
  cases (open_at_ok opened).1
  obtain ⟨_, written, appended, later⟩ := bind_eq_ok.mp later
  obtain ⟨status, verified, read, later⟩ := bind_eq_ok.mp later
  have unread : verified = written := (congrArg Prod.snd read).symm
  have unchanged : after = verified := by
    rcases status with error | (length | ⟨at_id, reason⟩) <;> exact (congrArg Prod.snd later).symm
  rw [unchanged, unread, ← (open_at_ok opened).2]
  exact append_each_ok appended

/-- A segment's file that cannot be opened ends the delivery. -/
theorem rebuild_unopened {w : World} {error : AuditError} (refused : w.opens.headD none = some error) :
    sink.rebuild d w = (.error error, { w with opens := w.opens.tail }) := by
  refine bind_of_error ?_
  rw [AuditStore.open_segment_store, AuditStore.open_at, refused]

end Parts

end Riscdom.Core
