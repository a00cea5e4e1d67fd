import Riscdom.AskRuns
import Riscdom.DeliveryRuns

/-!
The queue of a centre along its deliveries. What a merge transcribes is folded on
its own into the queue, and the queue stays what the whole chain says as long as
no transcribed row speaks of an ask that the chain has had before.
-/
namespace Riscdom.Core
open Riscdom.Json Riscdom.HashChain Riscdom.Audit Riscdom.Net Riscdom.Machine Fallible.Act

/-! ### Rows read back -/

/-- What an event reads as once it was written. -/
def Reads (crates : Crates) (event read : AuditEvent) : Prop :=
  ∃ detail, decode crates (crates.json.to_string event.detail) = .ok detail ∧ read = { event with detail }

/-- An event that is read back at all once it was written. -/
def Legible (crates : Crates) (event : AuditEvent) : Prop :=
  ∃ detail, decode crates (crates.json.to_string event.detail) = .ok detail

theorem plain_legible {crates : Crates} {event : AuditEvent} (plain : Plain event.detail) (shallow : depth event.detail ≤ 127) :
    Legible crates event := ⟨event.detail, decode_to_string crates plain shallow⟩

/-- The rows of legible events are read. -/
theorem records_read {crates : Crates} {events : List AuditEvent} {rows : List RawRow}
    (recorded : List.Forall₂ (Records crates) events rows) (legible : ∀ event ∈ events, Legible crates event) :
    ∃ slice, List.Forall₂ (fun event stored => Reads crates event stored.event) events slice ∧
      rows.mapM (RawRow.into_stored crates) = .ok slice := by
  suffices walk : ∃ slice, List.Forall₂ (fun event stored => Reads crates event stored.event) events slice ∧
      List.Forall₂ (fun row event => row.into_stored crates = .ok event) rows slice by
    obtain ⟨slice, reads, decoded⟩ := walk
    exact ⟨slice, reads, decoded_iff.mpr decoded⟩
  induction recorded with
  | nil => exact ⟨[], .nil, .nil⟩
  | @cons event row events rows records _ ih =>
    obtain ⟨slice, reads, decoded⟩ := ih fun other inside => legible other (List.mem_cons_of_mem _ inside)
    obtain ⟨detail, text⟩ := legible event List.mem_cons_self
    obtain ⟨timestamp, actor, action, agent, written⟩ := records
    have read : row.into_stored crates = .ok ⟨row.id, { event with detail }, row.prev_hash, row.hash⟩ := by
      rw [RawRow.into_stored, written, text, timestamp, actor, action, agent]
    exact ⟨_, .cons ⟨detail, text, rfl⟩ reads, .cons read decoded⟩

section Table
variable (crates : Crates) (table : EventTable)

theorem append_all_sequence (events : List AuditEvent) :
    (table.append_all crates events).sequence = table.sequence + events.length := by
  induction events generalizing table with
  | nil => simp
  | cons event rest ih =>
    rw [append_all_cons, ih, EventTable.append_sequence, List.length_cons]
    push_cast
    ring

/-- New rows have ids above all that were given out before. -/
theorem append_all_ids (events : List AuditEvent) {rows : List RawRow}
    (grown : (table.append_all crates events).rows = table.rows ++ rows) : ∀ row ∈ rows, table.sequence < row.id := by
  induction events generalizing table rows with
  | nil =>
    have none_new : rows = [] := List.append_cancel_left (grown.symm.trans (List.append_nil table.rows).symm)
    rw [none_new]
    nofun
  | cons event rest ih =>
    obtain ⟨later, shape, _⟩ := append_all_rows crates (table.append crates event).2 rest
    have split : rows = table.row_of crates event :: later := by
      rw [append_all_cons, shape, EventTable.append_rows, List.append_assoc] at grown
      exact (List.append_cancel_left grown).symm
    intro row inside
    rw [split] at inside
    rcases List.mem_cons.mp inside with rfl | after
    · exact Int.lt_succ table.sequence
    · have above := ih (table.append crates event).2 shape row after
      rw [EventTable.append_sequence] at above
      omega

end Table

/-! ### The chain of a centre -/

/-- The records of a centre's chain. -/
def chain_records (sink : SegmentSink) (w : World) : List ReconciledRequest :=
  derive_requests_from (Host.chain_events sink.crates sink.store w)

theorem chain_distinct (sink : SegmentSink) (w : World) : (record_ids (chain_records sink w)).Nodup := derive_distinct _

/-- Every row of the chain is read, and the rows are numbered through. -/
structure WellKept (sink : SegmentSink) (w : World) : Prop where
  readable : ∃ events, (w.rows sink.store).mapM (RawRow.into_stored sink.crates) = .ok events
  numbered : (w.db sink.store).audit_events.sequence = (w.rows sink.store).length

/-- An event that is read back, and is neither an ask nor a decision. -/
def Silent (crates : Crates) (event : AuditEvent) : Prop :=
  Legible crates event ∧ event.action ≠ ACTION_REQUEST_ASK ∧ event.action ≠ ACTION_REQUEST_APPROVE ∧
    event.action ≠ ACTION_REQUEST_REJECT

theorem Reads.silent {crates : Crates} {event read : AuditEvent} (reads : Reads crates event read) (silent : Silent crates event) :
    request_row read = none := by
  obtain ⟨detail, _, rfl⟩ := reads
  exact request_row_other silent.2

theorem derive_silent {slice : List StoredEvent} (silent : ∀ stored ∈ slice, request_row stored.event = none)
    (records : List ReconciledRequest) : slice.foldl derive_request records = records := by
  induction slice generalizing records with
  | nil => rfl
  | cons stored rest ih =>
    rw [List.foldl_cons, derive_other (silent stored List.mem_cons_self)]
    exact ih (fun other inside => silent other (List.mem_cons_of_mem _ inside)) records

section Chain
variable {sink : SegmentSink} {d : Delivery} {v w : World} {events : List AuditEvent}

/-- Rows of legible events come behind the chain, under new ids, and are folded into its records. -/
theorem grown_records (kept : WellKept sink v)
    (grown : (w.db sink.store).audit_events = (v.db sink.store).audit_events.append_all sink.crates events)
    (legible : ∀ event ∈ events, Legible sink.crates event) :
    WellKept sink w ∧ ∃ rows slice, w.rows sink.store = v.rows sink.store ++ rows ∧
      (∀ row ∈ rows, ((v.rows sink.store).length + 1 : Int) ≤ row.id) ∧
      rows.mapM (RawRow.into_stored sink.crates) = .ok slice ∧
      List.Forall₂ (fun event stored => Reads sink.crates event stored.event) events slice ∧
      chain_records sink w = slice.foldl derive_request (chain_records sink v) := by
  obtain ⟨⟨before, read⟩, numbered⟩ := kept
  obtain ⟨rows, shape, recorded⟩ := append_all_rows sink.crates (v.db sink.store).audit_events events
  obtain ⟨slice, reads, decoded⟩ := records_read recorded legible
  have behind : w.rows sink.store = v.rows sink.store ++ rows := by
    rw [World.rows, grown, shape]
    rfl
  have both : (w.rows sink.store).mapM (RawRow.into_stored sink.crates) = .ok (before ++ slice) := by
    rw [behind]
    exact decoded_append read decoded
  refine ⟨⟨⟨_, both⟩, ?_⟩, rows, slice, behind, fun row inside => ?_, decoded, reads, ?_⟩
  · rw [grown, append_all_sequence, numbered, behind, List.length_append, recorded.length_eq]
    push_cast
    rfl
  · rw [← numbered]
    exact append_all_ids sink.crates _ events shape row inside
  · rw [chain_records, chain_records, chain_events_of_read both, chain_events_of_read read, derive_requests_from,
      List.foldl_append]
    rfl

/-- Silent rows leave the records as they are. -/
theorem silent_records (kept : WellKept sink v) (grows : Grows sink.crates (Silent sink.crates) sink.store v w) :
    WellKept sink w ∧ chain_records sink w = chain_records sink v := by
  obtain ⟨events, silent, grown⟩ := grows
  obtain ⟨after, _, slice, _, _, _, reads, records⟩ := grown_records kept grown fun event inside => (silent event inside).1
  refine ⟨after, records.trans (derive_silent (fun stored inside => ?_) _)⟩
  obtain ⟨event, written, read⟩ := related_left reads inside
  exact read.silent (silent event written)

/-- Events of short members under another name than those of asks are silent. -/
theorem silent_members {crates : Crates} {event : AuditEvent} {members : List (String × Value)} (action : String)
    (other : action ≠ ACTION_REQUEST_ASK ∧ action ≠ ACTION_REQUEST_APPROVE ∧ action ≠ ACTION_REQUEST_REJECT)
    (named : event.action = action) (detail : event.detail = json members) (short : ∀ m ∈ members, Plain m.2 ∧ depth m.2 ≤ 1) :
    Silent crates event := by
  refine ⟨plain_legible ?_ ?_, by rw [named]; exact other⟩
  · rw [detail]
    exact plain_json fun m inside => (short m inside).1
  · rw [detail]
    exact (depth_json fun m inside => (short m inside).2).trans (by omega)

/-- The rows that the centre writes of its own about a delivery are silent. -/
theorem told_silent {event : AuditEvent} (told : Told sink d event) : Silent sink.crates event := by
  have number (n : Option Int) : Plain (integer_or_null n) ∧ depth (integer_or_null n) ≤ 1 := by
    cases n <;> simp [integer_or_null]
  cases told with
  | rejected => exact silent_members ACTION_CHAIN_REJECTED (by decide) rfl rfl (by simp [number])
  | verified => exact silent_members ACTION_CHAIN_VERIFIED (by decide) rfl rfl (by simp [number])
  | forked => exact silent_members ACTION_SEGMENT_FORKED (by decide) rfl rfl (by simp)
  | restored now restored conflicts =>
    exact silent_members "host.sandbox_request.restore" (by decide) rfl rfl (by simp [plain_texts conflicts])
  | rebuilt => exact silent_members "host.connection.segment_rebuilt" (by decide) rfl rfl (by simp)

theorem marker_silent {crates : Crates} (segment : Segment) (merged : Nat) (clock : List Int) :
    Silent crates (merged_event segment merged clock) :=
  silent_members ACTION_SEGMENT_MERGED (by decide) rfl rfl (by simp)

end Chain

/-! ### The queue against the chain -/

/-- The queue holds exactly the asks that the chain leaves undecided, and none that the chain does not know. -/
structure QueueAgrees (sink : SegmentSink) (c : Centre) : Prop where
  kept : WellKept sink c.world
  known : ∀ id ∈ request_ids c.requests, id ∈ record_ids (chain_records sink c.world)
  agree : ∀ ask, ask ∈ waiting c.requests ↔ ask ∈ undecided (chain_records sink c.world)

/-- No row of these decides an ask that the records hold undecided, and an ask of theirs that the records know is one
    that the queue knows. -/
def Untangles (requests : SandboxRequests) (records : List ReconciledRequest) (slice : List StoredEvent) : Prop :=
  DecidesNone records slice ∧
    ∀ ask ∈ undecided (derive_requests_from slice), ask.id ∈ record_ids records → ask.id ∈ request_ids requests

/-- Rows restored on their own come to what the whole chain comes to. -/
theorem restored_slice {requests : SandboxRequests} {records : List ReconciledRequest} {slice : List StoredEvent}
    (distinct : (record_ids records).Nodup) (known : ∀ id ∈ request_ids requests, id ∈ record_ids records)
    (agree : ∀ ask, ask ∈ waiting requests ↔ ask ∈ undecided records) (untangles : Untangles requests records slice) :
    (∀ id ∈ request_ids (requests.restore (derive_requests_from slice)).requests,
        id ∈ record_ids (slice.foldl derive_request records)) ∧
      ∀ ask, ask ∈ waiting (requests.restore (derive_requests_from slice)).requests ↔
        ask ∈ undecided (slice.foldl derive_request records) := by
  obtain ⟨none_decided, held⟩ := untangles
  obtain ⟨_, ids, asks⟩ := derive_slice distinct slice none_decided
  constructor
  · intro id inside
    rw [restore_requests requests (derive_distinct slice), request_ids, List.map_append, List.map_map, List.mem_append] at inside
    rw [ids]
    refine inside.imp (known id) fun back => ?_
    obtain ⟨record, kept, rfl⟩ := List.mem_map.mp back
    exact List.mem_map_of_mem (List.mem_of_mem_filter kept)
  · intro ask
    rw [restore_waiting (derive_distinct slice), asks, agree]
    refine or_congr Iff.rfl (and_congr_right fun inside => not_congr ?_)
    exact ⟨known ask.id, held ask inside⟩

section Steps
variable {sink : SegmentSink} {d : Delivery} {c after : Centre}

/-- Silent rows and an untouched queue keep the two in agreement. -/
theorem silent_agrees (agrees : QueueAgrees sink c) (same : after.requests = c.requests)
    (grows : Grows sink.crates (Silent sink.crates) sink.store c.world after.world) : QueueAgrees sink after := by
  obtain ⟨kept, known, agree⟩ := agrees
  obtain ⟨still, records⟩ := silent_records kept grows
  refine ⟨still, fun id inside => ?_, fun ask => ?_⟩
  · rw [records]
    exact known id (same ▸ inside)
  · rw [records, same]
    exact agree ask

/-- A merge that is granted all its writes hands on the rows it transcribed, as they are read back. -/
theorem merge_delivered_folded {w : World} {segment : Segment} {stored : List StoredEvent} (kept : WellKept sink w)
    (planned : merge_plan sink.crates sink.store sink.audit_dir d.done.segment_id w = .ok ⟨segment, stored, none⟩)
    (unrefused : Unrefused w.appends) (marked : w.updates.headD none = none)
    (legible : ∀ event ∈ stored, Legible sink.crates (outgoing event)) :
    ∃ after slice, sink.merge_delivered d w = (.ok (.Folded stored.length, slice), after) ∧ WellKept sink after ∧
      List.Forall₂ (fun event read => Reads sink.crates (outgoing event) read.event) stored slice ∧
      chain_records sink after = slice.foldl derive_request (chain_records sink w) := by
  obtain ⟨after, folded, table⟩ := merge_marked planned unrefused marked
  obtain ⟨still, rows, read, behind, new, decoded, reads, records⟩ := grown_records kept table (by
    intro event inside
    rcases List.mem_append.mp inside with transcribed | last
    · obtain ⟨old, there, rfl⟩ := List.mem_map.mp transcribed
      exact legible old there
    · rw [List.mem_singleton.mp last]
      exact (marker_silent segment _ _).1)
  -- The marker is the last of the new rows, and is not read.
  have count : stored.length = (stored.map outgoing).length := (List.length_map outgoing).symm
  have first := List.forall₂_take stored.length reads
  have last := List.forall₂_drop stored.length reads
  rw [count, List.take_left] at first
  rw [count, List.drop_left] at last
  rw [← count] at first last
  have cut : (rows.take stored.length).mapM (RawRow.into_stored sink.crates) = .ok (read.take stored.length) :=
    decoded_iff.mpr (List.forall₂_take _ (decoded_iff.mp decoded))
  have listed : sink.list_from ((w.rows sink.store).length + 1) stored.length after = (.ok (read.take stored.length), after) := by
    have old : (w.rows sink.store).filter (fun row => ((w.rows sink.store).length + 1 : Int) ≤ row.id) = [] := by
      rw [List.filter_eq_nil_iff]
      intro row inside
      have counted := (w.db sink.store).audit_events.counted row inside
      rw [kept.numbered] at counted
      simp only [decide_eq_true_eq]
      omega
    have fresh : rows.filter (fun row => ((w.rows sink.store).length + 1 : Int) ≤ row.id) = rows :=
      List.filter_eq_self.mpr fun row inside => by simpa using new row inside
    rw [list_from_run, behind, List.filter_append, old, fresh, List.nil_append, cut]
  refine ⟨after, read.take stored.length, ?_, still, List.forall₂_map_left_iff.mp first, ?_⟩
  · rw [SegmentSink.merge_delivered, bind_of_ok (get_run _ _), bind_of_ok folded]
    simp only
    split_ifs with any
    · rw [bind_of_ok listed]
      rfl
    · rw [Nat.eq_zero_of_not_pos any]
      rfl
  · rw [records, ← List.take_append_drop stored.length read, List.foldl_append]
    simp only [List.take_append_drop]
    refine derive_silent (fun event inside => ?_) _
    obtain ⟨marker, only, same⟩ := related_left last inside
    rw [List.mem_singleton.mp only] at same
    exact same.silent (marker_silent segment _ _)

/-- What follows a merge that answered, or one that failed. -/
theorem fold_delivered_ok {outcome : MergeOutcome} {transcribed : List StoredEvent} {w : World}
    (merged : sink.merge_delivered d c.world = (.ok (outcome, transcribed), w)) :
    sink.fold_delivered d c = sink.conclude d outcome transcribed { c with world := w } := by
  refine bind_of_ok (show audited (sink.merge_delivered d) c = (.ok (outcome, transcribed), { c with world := w }) from ?_)
  rw [audited, merged]
  rfl

theorem fold_delivered_error {error : AuditError} {w : World} (merged : sink.merge_delivered d c.world = (.error error, w)) :
    (sink.fold_delivered d c).2 = { c with world := w } := by
  have failed : audited (sink.merge_delivered d) c = (.error error.display, { c with world := w }) := by
    rw [audited, merged]
    rfl
  rw [SegmentSink.fold_delivered, bind_of_error failed]

/-- A merge that failed hands nothing on. -/
theorem merge_delivered_error {w after : World} {error : AuditError}
    (merged : sink.store.merge_segment sink.crates sink.audit_dir d.done.segment_id w = (.error error, after)) :
    sink.merge_delivered d w = (.error error, after) := by
  rw [SegmentSink.merge_delivered, bind_of_ok (get_run _ _), bind_of_error merged]

theorem merge_delivered_forked {w after : World} {reason : String}
    (merged : sink.store.merge_segment sink.crates sink.audit_dir d.done.segment_id w = (.ok (.Forked reason), after)) :
    sink.merge_delivered d w = (.ok (.Forked reason, []), after) := by
  rw [SegmentSink.merge_delivered, bind_of_ok (get_run _ _), bind_of_ok merged]
  rfl

theorem told_grows {file : AuditStore} {v w : World} (frame : Frame sink.crates (Told sink d) sink.store file v w) :
    Grows sink.crates (Silent sink.crates) sink.store v w := (frame.mono fun _ told => told_silent told).grows

/-- What a delivery that passed its checks does to the queue is what it does to the chain. -/
theorem fold_delivered_agrees (agrees : QueueAgrees sink c)
    (planned : ∀ segment stored, merge_plan sink.crates sink.store sink.audit_dir d.done.segment_id c.world =
        .ok ⟨segment, stored, none⟩ →
      Unrefused c.world.appends ∧ c.world.updates.headD none = none ∧
        (∀ event ∈ stored, Legible sink.crates (outgoing event)) ∧
        ∀ slice, List.Forall₂ (fun event read => Reads sink.crates (outgoing event) read.event) stored slice →
          Untangles c.requests (chain_records sink c.world) slice) :
    QueueAgrees sink (sink.fold_delivered d c).2 := by
  cases plan : merge_plan sink.crates sink.store sink.audit_dir d.done.segment_id c.world with
  | error error =>
    obtain ⟨w, run, frame⟩ := merge_refused plan
    have told : Frame sink.crates (Silent sink.crates) sink.store sink.store c.world w := frame
    rw [fold_delivered_error (merge_delivered_error run)]
    exact silent_agrees agrees rfl told.grows
  | ok whole =>
    obtain ⟨segment, stored, conflict⟩ := whole
    cases conflict with
    | some conflict =>
      have silent (now forked_at_ms : Int) : Silent sink.crates (.new now "host" ACTION_SEGMENT_FORKED (segment_forked_detail
          segment.segment_id segment.kind forked_at_ms (conflict_reason conflict) (some conflict.id))) :=
        silent_members ACTION_SEGMENT_FORKED (by decide) rfl rfl (by simp)
      obtain ⟨unfolded, frame⟩ := merge_conflict sink.store plan silent
      rcases run : sink.store.merge_segment sink.crates sink.audit_dir d.done.segment_id c.world with ⟨result, w⟩
      rw [run] at unfolded frame
      rcases result with error | (merged | reason)
      · rw [fold_delivered_error (merge_delivered_error run)]
        exact silent_agrees agrees rfl frame.grows
      · exact absurd rfl (unfolded merged)
      · obtain ⟨last, concluded, told, queue⟩ := conclude_run sink d sink.store (.Forked reason) [] { c with world := w }
        rw [fold_delivered_ok (merge_delivered_forked run), concluded]
        exact silent_agrees agrees queue (frame.grows.trans (told_grows told))
    | none =>
      obtain ⟨unrefused, marked, legible, untangled⟩ := planned segment stored plan
      obtain ⟨kept, known, agree⟩ := agrees
      obtain ⟨w, slice, run, still, reads, records⟩ := merge_delivered_folded kept plan unrefused marked legible
      obtain ⟨last, concluded, told, queue⟩ := conclude_run sink d sink.store (.Folded stored.length) slice { c with world := w }
      obtain ⟨known, agree⟩ := restored_slice (chain_distinct sink c.world) known agree (untangled slice reads)
      rw [← records] at known agree
      have merged : QueueAgrees sink { c with world := w, requests := (c.requests.restore (derive_requests_from slice)).requests } :=
        ⟨still, known, agree⟩
      rw [fold_delivered_ok run, concluded]
      exact silent_agrees merged queue (told_grows told)

end Steps

/-! ### What a delivery finds -/

/-- No answer to an update is new, and every segment's row is as it was. -/
structure Aside (store : AuditStore) (v w : World) : Prop where
  updates : ∀ answer ∈ w.updates, answer ∈ v.updates
  segments : ∀ segment_id row, (v.db store).segments.find segment_id = some row →
    (w.db store).segments.find segment_id = some row

section Aside
variable {store : AuditStore} {sink : SegmentSink}

theorem Aside.of_same {v w : World} (updates : w.updates = v.updates) (same : ∀ file, (w.db file).segments = (v.db file).segments) :
    Aside store v w := ⟨fun answer inside => updates ▸ inside, fun segment_id row found => by rw [same]; exact found⟩

theorem aside_climbed : Climbed (Aside store) where
  refl := fun _ => ⟨fun _ inside => inside, fun _ _ found => found⟩
  trans := fun first second => ⟨fun answer inside => first.updates answer (second.updates answer inside),
    fun segment_id row found => second.segments segment_id row (first.segments segment_id row found)⟩
  tick := fun _ => .of_same rfl fun _ => rfl
  opens := by
    intro path w
    refine .of_same ?_ fun file => congrArg AuditDb.segments ((open_at_same path w).2 file)
    rw [AuditStore.open_at]
    cases w.opens.headD none <;> rfl

theorem append_aside (crates : Crates) (file : AuditStore) (event : AuditEvent) : Does (Aside store) (file.append crates event) := by
  intro w
  cases outcome : w.append_error with
  | none =>
    rw [AuditStore.append_granted crates file outcome]
    refine .of_same rfl fun other => ?_
    simp only [World.appended, World.db_put, World.append_spent_db]
    split_ifs with same
    · rw [same]
    · rfl
  | some error =>
    rw [AuditStore.append_refused crates file outcome]
    exact .of_same rfl fun _ => rfl

theorem record_host_event_aside (action : String) (detail : Value) : Does (Aside store) (sink.record_host_event action detail) := by
  refine aside_climbed.bind aside_climbed.tick fun now => ?_
  exact aside_climbed.bind (does_attempt (append_aside _ _ _)) fun _ => does_pure aside_climbed.refl _

theorem rebuild_aside (d : Delivery) : Does (Aside store) (sink.rebuild d) := by
  have each (file : AuditStore) (events : List SegmentEvent) : Does (Aside store) (sink.append_each file events) := by
    induction events with
    | nil => exact does_pure aside_climbed.refl _
    | cons event rest ih => exact aside_climbed.bind (append_aside _ _ _) fun _ => ih
  refine aside_climbed.bind (aside_climbed.opens _) fun file => aside_climbed.bind (each file _) fun _ => ?_
  refine aside_climbed.bind (does_attempt ?_) fun status => ?_
  · exact aside_climbed.bind (does_get aside_climbed.refl _) fun _ => does_pure aside_climbed.refl _
  · rcases status with error | (length | ⟨at_id, reason⟩) <;> exact does_pure aside_climbed.refl _

theorem adopt_segment_aside (segment_id : String) (head_prev_chain : Option String) (head_prev_length : Option Int) :
    Does (Aside store) (store.adopt_segment segment_id head_prev_chain head_prev_length) := by
  intro w
  cases found : (w.db store).segments.find segment_id with
  | some row =>
    rw [adopt_segment_present found]
    exact aside_climbed.refl w
  | none =>
    have spent : ∀ answer ∈ w.updates.tail, answer ∈ w.updates := fun _ inside => List.mem_of_mem_tail inside
    cases answer : w.updates.headD none with
    | none =>
      rw [AuditStore.adopt_segment_absent store found answer]
      refine ⟨spent, fun other row held => ?_⟩
      have apart : other ≠ segment_id := by
        rintro rfl
        cases found.symm.trans held
      rw [World.db_put_self, KeyedTable.Table.find_replace, if_neg apart]
      exact held
    | some error =>
      have looked : store.segment segment_id w = (.ok none, w) := by rw [AuditStore.segment, get_run, found]
      rw [AuditStore.adopt_segment, bind_of_ok looked, if_neg (by simp), AuditStore.insert_segment]
      simp only
      rw [bind_of_ok looked, if_neg (by simp), AuditStore.execute_refused store answer]
      exact ⟨spent, fun _ _ held => held⟩

end Aside

/-! ### One delivery -/

/-- The rows of a delivery's segment once its events were written behind what the segment's file holds. -/
def SegmentSink.carried (sink : SegmentSink) (d : Delivery) (w : World) : List RawRow :=
  ((w.db (segment_file sink.audit_dir d.done.segment_id)).audit_events.append_all sink.crates
    (d.events.map SegmentEvent.audit_event)).rows

/-- The delivery passes its checks, its segment was not merged before, and the chain holds none of its events. -/
structure MayMerge (sink : SegmentSink) (this_node : String) (c : Centre) (d : Delivery) (stored : List StoredEvent) : Prop where
  passed : Passed sink.crates this_node d
  unmerged : ∀ row, (c.world.db sink.store).segments.find d.done.segment_id = some row → row.state = .Open ∨ row.state = .Closed
  read : (sink.carried d c.world).mapM (RawRow.into_stored sink.crates) = .ok stored
  unheld : ∀ event ∈ stored, ∀ row ∈ c.world.rows sink.store, ¬ Holds sink.crates row event

/-- A delivery stays out of the chain's own file. Where it may be merged its writes are granted, its events are read
    back, and none of them is tangled with the asks that the chain has had before. -/
structure Untangled (sink : SegmentSink) (this_node : String) (c : Centre) (d : Delivery) : Prop where
  apart : segment_file sink.audit_dir d.done.segment_id ≠ sink.store
  granted : ∀ stored, MayMerge sink this_node c d stored → Unrefused c.world.appends ∧ ∀ answer ∈ c.world.updates, answer = none
  legible : ∀ stored, MayMerge sink this_node c d stored → ∀ event ∈ stored, Legible sink.crates (outgoing event)
  untangled : ∀ stored, MayMerge sink this_node c d stored → ∀ slice,
    List.Forall₂ (fun event read => Reads sink.crates (outgoing event) read.event) stored slice →
      Untangles c.requests (chain_records sink c.world) slice

/-- The steps after which the queue still is what the chain says. -/
def Unentangling (sink : SegmentSink) (this_node : String) (c : Centre) : Happening → Prop
  | .delivery d => Untangled sink this_node c d
  | .append event => Silent sink.crates event

section Delivered
variable {sink : SegmentSink} {this_node : String} {d : Delivery}

/-- What the parts of a delivery before its merge leave: silent rows on the chain, and the queue as it was. -/
structure Before (sink : SegmentSink) (d : Delivery) (c v : Centre) : Prop where
  requests : v.requests = c.requests
  frame : Frame sink.crates (Silent sink.crates) sink.store (segment_file sink.audit_dir d.done.segment_id) c.world v.world
  aside : Aside sink.store c.world v.world

theorem Before.refl (c : Centre) : Before sink d c c := ⟨rfl, .refl _, aside_climbed.refl _⟩
theorem Before.trans {b c v : Centre} (first : Before sink d b c) (second : Before sink d c v) : Before sink d b v :=
  ⟨second.requests.trans first.requests, first.frame.trans second.frame, aside_climbed.trans first.aside second.aside⟩

theorem Before.agrees {c v : Centre} (before : Before sink d c v) (agrees : QueueAgrees sink c) : QueueAgrees sink v :=
  silent_agrees agrees before.requests before.frame.grows

/-- Whatever an audit step does to the files, the queue is left alone. -/
theorem audited_before {α : Type} {x : Audit.Act α}
    (frame : Does (Frame sink.crates (Silent sink.crates) sink.store (segment_file sink.audit_dir d.done.segment_id)) x)
    (aside : Does (Aside sink.store) x) : Does (Before sink d) (audited x) := fun c => ⟨rfl, frame c.world, aside c.world⟩

/-- A merge that is planned after rows of the centre's own is one that could be told of before. -/
theorem planned_merges {c v : Centre} (passed : Passed sink.crates this_node d) (before : Before sink d c v)
    (written : v.world.rows (segment_file sink.audit_dir d.done.segment_id) = sink.carried d c.world) {segment : Segment}
    {stored : List StoredEvent}
    (planned : merge_plan sink.crates sink.store sink.audit_dir d.done.segment_id v.world = .ok ⟨segment, stored, none⟩) :
    MayMerge sink this_node c d stored := by
  obtain ⟨admitted, read, conflict⟩ := merge_plan_ok sink.crates planned
  obtain ⟨found, _, state, _⟩ := mergeable_ok sink.crates admitted
  refine ⟨passed, fun row held => ?_, written ▸ read, fun event inside row held => ?_⟩
  · cases (before.aside.segments _ row held).symm.trans found
    exact state
  · obtain ⟨own, grown, _⟩ := before.frame.grows.rows
    refine first_conflict_none sink.crates conflict event inside row ?_
    rw [grown]
    exact List.mem_append_left _ held

/-- A delivery that is not tangled with the asks of before keeps the queue and the chain in agreement. -/
theorem received_agrees {c : Centre} (agrees : QueueAgrees sink c) (untangled : Untangled sink this_node c d) :
    EndsIn (sink.received d this_node) c fun _ after => QueueAgrees sink after := by
  obtain ⟨apart, granted, legible, untangled⟩ := untangled
  have adopts : Does (Frame sink.crates (Silent sink.crates) sink.store sink.store) (sink.store.adopt_segment d.done.segment_id
      d.done.head_prev_chain (stored_length d.done.anchor_length)) := adopt_segment_frame _ _ _
  -- The row of the segment: its file is left alone.
  refine ends_bind (fun _ adopted => Before sink d c adopted ∧
    adopted.world.db (segment_file sink.audit_dir d.done.segment_id) = c.world.db (segment_file sink.audit_dir d.done.segment_id))
    ⟨⟨rfl, (adopts c.world).widen, adopt_segment_aside _ _ _ c.world⟩, (adopts c.world).beside _ apart apart⟩
    (fun _ adopted facts => facts.1.agrees agrees) ?_
  rintro _ adopted ⟨adopt, unwritten⟩
  -- The segment's file: where it is answered for, it holds what it held and the events.
  refine ends_bind (fun result rebuilt => Before sink d c rebuilt ∧ ∀ answer, result = .ok answer →
    rebuilt.world.rows (segment_file sink.audit_dir d.done.segment_id) = sink.carried d c.world) ?_
    (fun _ rebuilt facts => facts.1.agrees agrees) ?_
  · refine ⟨adopt.trans (audited_before (rebuild_frame sink d _ apart) (rebuild_aside d) adopted), fun answer outcome => ?_⟩
    rcases run : sink.rebuild d adopted.world with ⟨result, after⟩
    rw [audited, run] at outcome ⊢
    cases result with
    | error error => cases outcome
    | ok answered =>
      rw [World.rows, rebuild_ok run, unwritten]
      rfl
  · rintro rebuild rebuilt ⟨before, carried⟩
    have written := carried rebuild rfl
    cases answer : (verdict sink.crates this_node d.done d.events rebuild).answer with
    | error reason =>
      simp only [answer]
      generalize shown : chain_rejected_detail _ _ _ _ _ _ _ _ _ = detail
      have silent (now : Int) : Silent sink.crates (sink.host_event now ACTION_CHAIN_REJECTED detail) :=
        shown ▸ told_silent (.rejected now _ _ _ _)
      have told : Before sink d rebuilt { rebuilt with world := (sink.record_host_event ACTION_CHAIN_REJECTED detail rebuilt.world).2 } :=
        audited_before (record_host_event_frame _ _ silent) (record_host_event_aside _ _) rebuilt
      exact ends_bind (fun _ last => Before sink d c last) (before.trans told) (fun _ last all => all.agrees agrees)
        fun _ last all => all.agrees agrees
    | ok _ =>
      simp only [answer]
      generalize shown : chain_verified_detail _ _ _ _ _ _ _ _ = detail
      have silent (now : Int) : Silent sink.crates (sink.host_event now ACTION_CHAIN_VERIFIED detail) :=
        shown ▸ told_silent (.verified now _ _ _)
      have told := record_host_event_frame _ sink.store silent rebuilt.world
      have all : Before sink d c { rebuilt with world := (sink.record_host_event ACTION_CHAIN_VERIFIED detail rebuilt.world).2 } :=
        before.trans ⟨rfl, told.widen, record_host_event_aside _ _ rebuilt.world⟩
      refine fold_delivered_agrees (all.agrees agrees) fun segment stored planned => ?_
      have merges := planned_merges (verdict_ok_iff.mp answer).1 all
        ((congrArg (fun db => db.audit_events.rows) (told.beside _ apart apart)).trans written) planned
      obtain ⟨unrefused, updates⟩ := granted stored merges
      refine ⟨all.frame.unrefused unrefused, ?_, legible stored merges, fun slice reads => ?_⟩
      · rcases left : (sink.record_host_event ACTION_CHAIN_VERIFIED detail rebuilt.world).2.updates with _ | ⟨first, rest⟩
        · rfl
        · exact updates first (all.aside.updates first (left ▸ List.mem_cons_self))
      · rw [(silent_records agrees.kept all.frame.grows).2, all.requests]
        exact untangled stored merges slice reads

end Delivered

/-! ### Runs -/

/-- A centre that has just started: its queue is filled from nothing but its chain. -/
structure Started (sink : SegmentSink) (c : Centre) : Prop where
  kept : WellKept sink c.world
  queue : c.requests = (SandboxRequests.restore [] (chain_records sink c.world)).requests

theorem started_agrees {sink : SegmentSink} {c : Centre} (started : Started sink c) : QueueAgrees sink c := by
  obtain ⟨kept, queue⟩ := started
  refine ⟨kept, fun id inside => ?_, fun ask => ?_⟩
  · rw [queue, restore_requests [] (chain_distinct sink c.world)] at inside
    obtain ⟨_, back, rfl⟩ := List.mem_map.mp inside
    obtain ⟨record, kept, rfl⟩ := List.mem_map.mp back
    exact List.mem_map_of_mem (List.mem_of_mem_filter kept)
  · rw [queue]
    exact restored_from_nothing _ ask

theorem step_queue_agrees {sink : SegmentSink} {this_node : String} {c : Centre} {happening : Happening}
    (agrees : QueueAgrees sink c) (unentangling : Unentangling sink this_node c happening) :
    QueueAgrees sink (step sink this_node c happening) := by
  cases happening with
  | delivery d =>
    have ends := received_agrees agrees unentangling
    rw [EndsIn] at ends
    rw [step, SegmentSink.receive_segment, bind_run]
    rcases run : sink.received d this_node c with ⟨_ | _, after⟩
    · rw [run] at ends
      exact ends
    · rw [run] at ends
      exact ends
  | append event => exact silent_agrees agrees rfl (append_grows sink.store unentangling c.world)

/-- After every run of deliveries that are not tangled with the asks of before, the queue of a centre holds exactly the
    asks that its whole chain leaves undecided. -/
theorem queue_follows_chain (sink : SegmentSink) (this_node : String) (c : Centre) (started : Started sink c)
    (happenings : List Happening) (untangled : Allowed (step sink this_node) (Unentangling sink this_node) c happenings)
    (ask : Ask) :
    ask ∈ waiting (run (step sink this_node) c happenings).requests ↔
      ask ∈ undecided (chain_records sink (run (step sink this_node) c happenings).world) := by
  have keeps (c : Centre) (happening : Happening) (agrees : QueueAgrees sink c)
      (unentangling : Unentangling sink this_node c happening) : QueueAgrees sink (step sink this_node c happening) :=
    step_queue_agrees agrees unentangling
  exact (run_keeps keeps (started_agrees started) untangled).agree ask

/-! ### An ask and its decision in two deliveries -/

/-- A delivery of one event, from a sender that is older than the checks. -/
def single (segment_id action : String) (detail : Value) : Delivery where
  sender := "B"
  done := { segment_id, centre := "A", total := 1, head_prev_chain := none, anchor_length := none, anchor_hash := none }
  events :=
    [{ segment_id, centre := "A", index := 0, total := 1, ts := 5, actor := "host", action := action, agent_id := some "ops",
       detail, hash := none, prev_hash := none }]
  now := 0

def remote_request : SandboxRequest := ⟨"req-7-1", "ops", .Switch, some "lab", none, 4, .Pending, none, none⟩
def ask_delivery : Delivery := single "seg-7" ACTION_REQUEST_ASK (ask_detail remote_request)
def decision_delivery : Delivery := single "seg-8" ACTION_REQUEST_APPROVE (decision_detail remote_request "B")

theorem new_centre_started (crates : Crates) : Started (new_sink crates) new_centre := ⟨⟨⟨[], rfl⟩, rfl⟩, rfl⟩

theorem ask_delivery_untangled : Untangled (new_sink provisional_crates) "A" new_centre ask_delivery := by
  refine ⟨by decide, fun _ _ => ⟨unrefused_nil, nofun⟩, fun stored may event inside => ?_, fun _ _ slice _ => ⟨?_, ?_⟩⟩
  · obtain ⟨plain, shallow⟩ := plain_ask_detail remote_request
    obtain ⟨rows, shape, recorded⟩ := append_all_rows provisional_crates EventTable.empty
      (ask_delivery.events.map SegmentEvent.audit_event)
    obtain ⟨held, decoded, same⟩ := recorded_decoded recorded fun asked there => by
      rw [List.mem_singleton.mp there]
      exact ⟨plain, shallow⟩
    have read : rows.mapM (RawRow.into_stored provisional_crates) = .ok stored := by
      rw [← may.read]
      exact congrArg (List.mapM _) shape.symm
    cases decoded.symm.trans read
    have asked : event.event = _ := List.mem_singleton.mp (same ▸ List.mem_map_of_mem inside)
    rw [outgoing, asked]
    exact plain_legible plain shallow
  · exact fun _ _ _ _ => List.not_mem_nil
  · exact fun _ _ known => absurd known List.not_mem_nil

theorem arrived_ask_on_record : remote_request.ask ∈ undecided (chain_records (new_sink provisional_crates)
    (run (step (new_sink provisional_crates) "A") new_centre [.delivery ask_delivery]).world) :=
  (queue_follows_chain (new_sink provisional_crates) "A" new_centre (new_centre_started _) [.delivery ask_delivery]
    ⟨ask_delivery_untangled, trivial⟩ remote_request.ask).mp (by decide +kernel)

/-- The decision comes in a delivery of its own: the chain has it, and the ask waits on in the queue. -/
theorem decided_ask_waits_on : ¬ ∀ (sink : SegmentSink) (this_node : String) (c : Centre), Started sink c →
    c.world.appends = [] → c.world.updates = [] → c.world.opens = [] → ∀ (happenings : List Happening) (ask : Ask),
      ask ∈ waiting (run (step sink this_node) c happenings).requests ↔
        ask ∈ undecided (chain_records sink (run (step sink this_node) c happenings).world) := by
  intro same
  have agreed := same (new_sink provisional_crates) "A" new_centre (new_centre_started _) rfl rfl rfl
    [.delivery ask_delivery, .delivery decision_delivery] remote_request.ask
  obtain ⟨live, recorded⟩ : waiting (run (step (new_sink provisional_crates) "A") new_centre
        [.delivery ask_delivery, .delivery decision_delivery]).requests = [remote_request.ask] ∧
      undecided (chain_records (new_sink provisional_crates) (run (step (new_sink provisional_crates) "A") new_centre
        [.delivery ask_delivery, .delivery decision_delivery]).world) = [] := by decide +kernel
  rw [live, recorded] at agreed
  exact absurd (agreed.mp List.mem_cons_self) List.not_mem_nil

end Riscdom.Core
