import Riscdom.DeliverySteps
import Riscdom.SegmentRows

/-!
Runs of deliveries. A delivery is folded or left out: folded, it puts its own
events on the chain in their order; left out, it puts none there. Along a run
this holds while no delivery finds in its segment's file what another one left.
-/
namespace Riscdom.Core
open Riscdom.Json Riscdom.HashChain Riscdom.Audit Riscdom.Net Riscdom.Machine Fallible.Act

/-! ### The verdict -/

/-- The delivery has no problem that a check of it finds. A check that is skipped finds none. -/
def Passed (crates : Crates) (this_node : String) (d : Delivery) : Prop :=
  (d.done.anchor_length ≠ none → verify_delivery this_node d.done d.events = .ok () ∧
    (verify_linkage crates d.events = .ok () ∨ verify_linkage crates d.events = .error .NoHash)) ∧
  (anchor_check d.done d.events).2 = .ok ()

theorem delivery_verdict_ok_iff {crates : Crates} {this_node : String} {done : SegmentDone} {events : List SegmentEvent}
    {rebuild : Except String Unit} :
    (delivery_verdict crates this_node done events rebuild).2.2 = .ok () ↔
      (done.anchor_length ≠ none → verify_delivery this_node done events = .ok () ∧
        (verify_linkage crates events = .ok () ∨ verify_linkage crates events = .error .NoHash)) ∧
      (done.anchor_length ≠ none → rebuild = .ok ()) := by
  unfold delivery_verdict
  by_cases old : done.anchor_length = none
  · simp [old]
  · rw [if_neg old]
    cases verify_delivery this_node done events with
    | error problem => simp [old]
    | ok _ =>
      cases rebuild with
      | error reason => simp [old]
      | ok _ =>
        cases verify_linkage crates events with
        | ok _ => simp
        | error problem => cases problem <;> simp [old]

theorem verdict_ok_iff {crates : Crates} {this_node : String} {d : Delivery} {rebuild : Except String Unit} :
    (verdict crates this_node d.done d.events rebuild).answer = .ok () ↔
      Passed crates this_node d ∧ (d.done.anchor_length ≠ none → rebuild = .ok ()) := by
  have both : (verdict crates this_node d.done d.events rebuild).answer = .ok () ↔
      (delivery_verdict crates this_node d.done d.events rebuild).2.2 = .ok () ∧
        (anchor_check d.done d.events).2 = .ok () := by
    rw [verdict]
    rcases delivery_verdict crates this_node d.done d.events rebuild with ⟨checked, linkage, delivered⟩
    rcases anchor_check d.done d.events with ⟨anchor, continued⟩
    cases delivered with
    | error reason => simp
    | ok _ => simp
  rw [both, delivery_verdict_ok_iff, Passed]
  tauto

/-! ### What a delivery may leave on the chain -/

/-- The row records the event, its detail as the text of it reads back and less its mark. -/
def Transcribes (crates : Crates) (event : SegmentEvent) (row : RawRow) : Prop :=
  ∃ detail, decode crates (crates.json.to_string event.detail) = .ok detail ∧
    Records crates { event.audit_event with detail := cleared_detail detail } row

/-- A detail that its text gives back is transcribed as it was delivered. -/
theorem Transcribes.plain {crates : Crates} {event : SegmentEvent} {row : RawRow} (transcribes : Transcribes crates event row)
    (plain : Plain event.detail) (shallow : depth event.detail ≤ 127) :
    Records crates { event.audit_event with detail := cleared_detail event.detail } row := by
  obtain ⟨detail, read, records⟩ := transcribes
  rw [decode_to_string crates plain shallow] at read
  cases read
  exact records

/-- The rows the centre writes of its own about a delivery, the marker of a merge apart. -/
inductive Told (sink : SegmentSink) (d : Delivery) : AuditEvent → Prop
  | rejected (now : Int) (reason checked linkage anchor : String) :
    Told sink d (sink.host_event now ACTION_CHAIN_REJECTED (chain_rejected_detail d.done.segment_id d.sender
      d.done.head_prev_chain (stored_length d.done.anchor_length) d.events.length reason checked linkage anchor))
  | verified (now : Int) (checked linkage anchor : String) :
    Told sink d (sink.host_event now ACTION_CHAIN_VERIFIED (chain_verified_detail d.done.segment_id d.sender
      d.done.head_prev_chain (stored_length d.done.anchor_length) d.events.length checked linkage anchor))
  | forked (now forked_at_ms : Int) (conflict : Conflict) :
    Told sink d (.new now "host" ACTION_SEGMENT_FORKED (segment_forked_detail d.done.segment_id .Temporary forked_at_ms
      (conflict_reason conflict) (some conflict.id)))
  | restored (now : Int) (restored : Nat) (conflicts : List String) :
    Told sink d (sink.host_event now "host.sandbox_request.restore"
      (json [("restored", .integer restored), ("conflicts", .array (conflicts.map .string))]))
  | rebuilt (now : Int) (said : String) :
    Told sink d (sink.host_event now "host.connection.segment_rebuilt"
      (json [("segment_id", .string d.done.segment_id), ("from", .string d.sender), ("events", .integer d.events.length),
        ("outcome", .string said), ("at_ms", .integer d.now)]))

/-- The rows that a step put on the chain: some of the centre's own, those transcribed, and what came after them. -/
structure Entry where
  own : List RawRow
  transcribed : List RawRow
  behind : List RawRow

def Entry.rows (entry : Entry) : List RawRow := entry.own ++ entry.transcribed ++ entry.behind

/-- A row the centre wrote of its own about a delivery. -/
def Tells (sink : SegmentSink) (d : Delivery) (row : RawRow) : Prop :=
  ∃ event, Told sink d event ∧ Records sink.crates event row

/-- What a delivery puts on the chain, by what came of it. -/
inductive Entered (sink : SegmentSink) (this_node : String) (d : Delivery) :
    Except String (Option MergeOutcome) → Entry → Prop
  | left_out {result : Except String (Option MergeOutcome)} {own : List RawRow}
    (refused : (result = .ok none ∧ ¬ Passed sink.crates this_node d) ∨ (∃ error, result = .error error) ∨
      ∃ reason, result = .ok (some (.Forked reason)))
    (told : ∀ row ∈ own, Tells sink d row) : Entered sink this_node d result ⟨own, [], []⟩
  | folded {result : Except String (Option MergeOutcome)} {own transcribed behind : List RawRow} {marker : RawRow}
    (ended : result = .ok (some (.Folded d.events.length)) ∨ ∃ error, result = .error error)
    (passed : Passed sink.crates this_node d) (told : ∀ row ∈ own ++ behind, Tells sink d row)
    (in_order : List.Forall₂ (Transcribes sink.crates) d.events transcribed)
    (marked : ∃ now merged_at_ms, Records sink.crates (.new now "host" ACTION_SEGMENT_MERGED
      (segment_merged_detail d.done.segment_id .Temporary merged_at_ms d.events.length)) marker) :
    Entered sink this_node d result ⟨own, transcribed, marker :: behind⟩

/-- Every folded segment's file is as it was. -/
def FoldedFilesKept (sink : SegmentSink) (v w : World) : Prop :=
  ∀ segment_id row, v.segment sink.store segment_id = some row → row.state = .Folded →
    w.db (segment_file sink.audit_dir segment_id) = v.db (segment_file sink.audit_dir segment_id)

/-! ### Runs -/

/-- A segment arrives, or the node writes an event of its own. -/
inductive Happening
  | delivery (d : Delivery)
  | append (event : AuditEvent)

/-- A delivery is one step, its checks and its merge with no other delivery between them. -/
def step (sink : SegmentSink) (this_node : String) (centre : Centre) : Happening → Centre
  | .delivery d => (sink.receive_segment d this_node centre).2
  | .append event => { centre with world := (sink.store.append sink.crates event centre.world).2 }

/-- The entry of one step: what a delivery puts on the chain, or the row of the node's event if it was written. -/
def StepEntry (sink : SegmentSink) (this_node : String) (centre : Centre) : Happening → Entry → Prop
  | .delivery d, entry => Entered sink this_node d (sink.received d this_node centre).1 entry
  | .append event, entry => entry.rows = [] ∨ ∃ row, Records sink.crates event row ∧ entry.rows = [row]

/-- Every step of a run has its entry, which is what the chain grew by, and no step touches a folded segment's file. -/
def Accounted (sink : SegmentSink) (this_node : String) : Centre → List Happening → List Entry → Prop
  | _, [], entries => entries = []
  | centre, happening :: later, entries =>
    ∃ entry others, entries = entry :: others ∧ StepEntry sink this_node centre happening entry ∧
      (step sink this_node centre happening).world.rows sink.store = centre.world.rows sink.store ++ entry.rows ∧
      FoldedFilesKept sink centre.world (step sink this_node centre happening).world ∧
      Accounted sink this_node (step sink this_node centre happening) later others

/-- No folded segment's file is the chain's own. -/
def FoldedApart (sink : SegmentSink) (centre : Centre) : Prop :=
  ∀ segment_id row, centre.world.segment sink.store segment_id = some row → row.state = .Folded →
    segment_file sink.audit_dir segment_id ≠ sink.store

/-- Nothing stands in the way of a delivery: its segment's file is not the chain's own, and is empty where the delivery
    passes; a folded segment's file gets no event; and where the delivery passes no append is refused for good. -/
structure Undisturbed (sink : SegmentSink) (this_node : String) (centre : Centre) (d : Delivery) : Prop where
  apart : segment_file sink.audit_dir d.done.segment_id ≠ sink.store
  unwritten : Passed sink.crates this_node d → centre.world.rows (segment_file sink.audit_dir d.done.segment_id) = []
  granted : Passed sink.crates this_node d → Unrefused centre.world.appends
  unfolded : ∀ segment_id row, centre.world.segment sink.store segment_id = some row → row.state = .Folded →
    segment_file sink.audit_dir segment_id = segment_file sink.audit_dir d.done.segment_id → d.events = []

/-- The states in which a step is free of what an earlier delivery left behind. -/
def Clear (sink : SegmentSink) (this_node : String) (centre : Centre) : Happening → Prop
  | .delivery d => FoldedApart sink centre ∧ Undisturbed sink this_node centre d
  | .append _ => FoldedApart sink centre

/-! ### One delivery -/

section Delivered
variable (sink : SegmentSink) {this_node : String} (d : Delivery) (file : AuditStore)

theorem audited_does {α : Type} {Rel : World → World → Prop} {x : Audit.Act α} (does : Does Rel x) :
    Does (fun c c' : Centre => Rel c.world c'.world) (audited x) := fun c => does c.world

theorem list_from_run (from_id : Int) (limit : Nat) (w : World) :
    sink.list_from from_id limit w =
      ((((w.rows sink.store).filter fun row => from_id ≤ row.id).take limit).mapM (RawRow.into_stored sink.crates), w) := rfl

/-- A merge is told by what it came to, and the rows behind it are read from the chain it left. -/
theorem merge_delivered_ends (w : World) : EndsIn (sink.merge_delivered d) w fun result after =>
    after = (sink.store.merge_segment sink.crates sink.audit_dir d.done.segment_id w).2 ∧
      ((∃ error, result = .error error) ∨ ∃ outcome transcribed, result = .ok (outcome, transcribed) ∧
        (sink.store.merge_segment sink.crates sink.audit_dir d.done.segment_id w).1 = .ok outcome) := by
  rw [EndsIn, SegmentSink.merge_delivered, bind_of_ok (get_run _ _), bind_run]
  cases merged : sink.store.merge_segment sink.crates sink.audit_dir d.done.segment_id w with
  | mk result after =>
    cases result with
    | error error => exact ⟨rfl, .inl ⟨error, rfl⟩⟩
    | ok outcome =>
      cases outcome with
      | Forked reason => exact ⟨rfl, .inr ⟨_, _, rfl, rfl⟩⟩
      | Folded count =>
        simp only
        split_ifs with any
        · rw [bind_run, list_from_run]
          cases (((after.rows sink.store).filter fun row =>
              ((w.rows sink.store).length + 1 : Int) ≤ row.id).take count).mapM (RawRow.into_stored sink.crates) with
          | error error => exact ⟨rfl, .inl ⟨error, rfl⟩⟩
          | ok transcribed => exact ⟨rfl, .inr ⟨_, _, rfl, rfl⟩⟩
        · exact ⟨rfl, .inr ⟨_, _, rfl, rfl⟩⟩

theorem tell_outcome_run (outcome : MergeOutcome) (c : Centre) :
    ∃ said told, sink.tell_outcome d outcome c = (.ok said, { c with told }) := by
  cases outcome with
  | Folded count => exact ⟨_, _, rfl⟩
  | Forked reason =>
    rw [SegmentSink.tell_outcome]
    split_ifs with client
    · exact ⟨_, _, rfl⟩
    · exact ⟨_, c.told, rfl⟩

/-- The queue gets the asks that are pending in the transcribed rows alone. -/
theorem restore_transcribed_run (transcribed : List StoredEvent) (c : Centre) :
    ∃ world, sink.restore_transcribed transcribed c =
        (.ok (), { c with world, requests := (c.requests.restore (derive_requests_from transcribed)).requests }) ∧
      Frame sink.crates (Told sink d) sink.store file c.world world := by
  rw [SegmentSink.restore_transcribed]
  split_ifs with any
  · rw [bind_of_ok (get_run _ _), bind_of_ok (modify_run _ _)]
    split_ifs with tell
    · exact ⟨_, rfl, record_host_event_frame _ _ (fun now => .restored now _ _) _⟩
    · exact ⟨c.world, rfl, .refl _⟩
  · rw [not_not] at any
    subst any
    exact ⟨c.world, rfl, .refl _⟩

/-- What is done after a merge writes rows of the centre's own, and answers with the outcome. -/
theorem conclude_run (outcome : MergeOutcome) (transcribed : List StoredEvent) (c : Centre) :
    ∃ after, sink.conclude d outcome transcribed c = (.ok (some outcome), after) ∧
        Frame sink.crates (Told sink d) sink.store file c.world after.world ∧
        after.requests = (c.requests.restore (derive_requests_from transcribed)).requests := by
  obtain ⟨said, told, telling⟩ := tell_outcome_run sink d outcome c
  obtain ⟨world, restoring, frame⟩ := restore_transcribed_run sink d file transcribed { c with told }
  refine ⟨_, (bind_of_ok telling).trans ((bind_of_ok restoring).trans rfl), ?_, rfl⟩
  exact frame.trans (record_host_event_frame _ _ (fun now => .rebuilt now said) world)

/-- What is done with a delivery that passed its checks: the chain is what its merge left, and rows of the centre's own. -/
theorem fold_ends (c : Centre) :
    EndsIn (sink.fold_delivered d) c fun result after =>
        Frame sink.crates (Told sink d) sink.store file
            (sink.store.merge_segment sink.crates sink.audit_dir d.done.segment_id c.world).2 after.world ∧
          ((∃ error, result = .error error) ∨ ∃ outcome, result = .ok (some outcome) ∧
            (sink.store.merge_segment sink.crates sink.audit_dir d.done.segment_id c.world).1 = .ok outcome) := by
  obtain ⟨same, ends⟩ := merge_delivered_ends sink d c.world
  refine ends_bind (fun answered merged =>
    merged.world = (sink.store.merge_segment sink.crates sink.audit_dir d.done.segment_id c.world).2 ∧
      ((∃ error, answered = .error error) ∨ ∃ outcome transcribed, answered = .ok (outcome, transcribed) ∧
        (sink.store.merge_segment sink.crates sink.audit_dir d.done.segment_id c.world).1 = .ok outcome)) ⟨same, ?_⟩ ?_ ?_
  · rw [audited]
    rcases ends with ⟨error, failed⟩ | ⟨outcome, transcribed, done, folded⟩
    · exact .inl ⟨error.display, by rw [failed]; rfl⟩
    · exact .inr ⟨outcome, transcribed, by rw [done]; rfl, folded⟩
  · rintro error merged ⟨same, _⟩
    exact ⟨same ▸ .refl _, .inl ⟨error, rfl⟩⟩
  · rintro ⟨outcome, seen⟩ merged ⟨same, answered⟩
    obtain ⟨last, run_last, behind, _⟩ := conclude_run sink d file outcome seen merged
    simp only [EndsIn]
    rw [run_last]
    rcases answered with ⟨error, failed⟩ | ⟨_, _, same_pair, folded⟩
    · cases failed
    · cases same_pair
      exact ⟨same ▸ behind, .inr ⟨outcome, rfl, folded⟩⟩

section Verdict
variable {c : Centre} {w v : World} {rebuild : Except String Unit}
  (adopted : sink.store.adopt_segment d.done.segment_id d.done.head_prev_chain (stored_length d.done.anchor_length) c.world =
    (.ok (), w)) (rebuilt : sink.rebuild d w = (.ok rebuild, v))
include adopted rebuilt

/-- A delivery that a check rejects is told of, and nothing more. -/
theorem received_rejected {reason : String}
    (answer : (verdict sink.crates this_node d.done d.events rebuild).answer = .error reason) :
    ∃ detail, sink.received d this_node c =
      (.ok none, { c with world := (sink.record_host_event ACTION_CHAIN_REJECTED detail v).2 }) := by
  have first : audited (sink.store.adopt_segment d.done.segment_id d.done.head_prev_chain
      (stored_length d.done.anchor_length)) c = (.ok (), { c with world := w }) := by
    rw [audited, adopted]
    rfl
  have second : audited (sink.rebuild d) { c with world := w } = (.ok rebuild, { c with world := v }) := by
    rw [audited, rebuilt]
    rfl
  rw [SegmentSink.received, bind_of_ok first, bind_of_ok second]
  simp only [answer]
  exact ⟨_, rfl⟩

/-- A delivery that passes its checks is told of, and folded. -/
theorem received_accepted (answer : (verdict sink.crates this_node d.done d.events rebuild).answer = .ok ()) :
    ∃ detail, sink.received d this_node c =
      sink.fold_delivered d { c with world := (sink.record_host_event ACTION_CHAIN_VERIFIED detail v).2 } := by
  have first : audited (sink.store.adopt_segment d.done.segment_id d.done.head_prev_chain
      (stored_length d.done.anchor_length)) c = (.ok (), { c with world := w }) := by
    rw [audited, adopted]
    rfl
  have second : audited (sink.rebuild d) { c with world := w } = (.ok rebuild, { c with world := v }) := by
    rw [audited, rebuilt]
    rfl
  rw [SegmentSink.received, bind_of_ok first, bind_of_ok second]
  simp only [answer]
  exact ⟨_, rfl⟩

end Verdict

variable {sink d file}

/-- A row that records an event, decoded and recorded again as a merge does it, transcribes the event. -/
theorem transcribes_of_recorded {crates : Crates} {event : SegmentEvent} {recorded row : RawRow} {stored : StoredEvent}
    (written : Records crates event.audit_event recorded) (decoded : recorded.into_stored crates = .ok stored)
    (again : Records crates (outgoing stored) row) : Transcribes crates event row := by
  obtain ⟨timestamp, actor, action, agent, detail⟩ := written
  unfold RawRow.into_stored at decoded
  cases read : decode crates recorded.detail_json with
  | error error =>
    rw [read] at decoded
    cases decoded
  | ok content =>
    rw [read] at decoded
    cases decoded
    rw [detail] at read
    refine ⟨content, read, ?_⟩
    rw [outgoing, timestamp, actor, action, agent] at again
    exact again

theorem all_transcribed {crates : Crates} {events : List SegmentEvent} {recorded rows : List RawRow}
    {stored : List StoredEvent} (written : List.Forall₂ (Records crates) (events.map SegmentEvent.audit_event) recorded)
    (decoded : List.Forall₂ (fun row event => row.into_stored crates = .ok event) recorded stored)
    (again : List.Forall₂ (Records crates) (stored.map outgoing) rows) : List.Forall₂ (Transcribes crates) events rows := by
  rw [List.forall₂_map_left_iff] at written again
  induction written generalizing stored rows with
  | nil =>
    cases decoded
    cases again
    exact .nil
  | cons head _ ih =>
    cases decoded with
    | cons read decoded =>
      cases again with
      | cons row again => exact .cons (transcribes_of_recorded head read row) (ih decoded again)

/-- What a merge of the events that a delivery left in its segment's file comes to. -/
theorem merged_run (file : AuditStore) {w : World} (unrefused : Unrefused w.appends)
    (written : List.Forall₂ (Records sink.crates) (d.events.map SegmentEvent.audit_event)
      (w.rows (segment_file sink.audit_dir d.done.segment_id))) :
    ∃ result after, sink.store.merge_segment sink.crates sink.audit_dir d.done.segment_id w = (result, after) ∧
      (((∃ error, result = .error error) ∨ ∃ reason, result = .ok (.Forked reason)) ∧
          Frame sink.crates (Told sink d) sink.store file w after ∨
        (result = .ok (.Folded d.events.length) ∨ ∃ error, result = .error error) ∧
          ∃ transcribed marker, after.rows sink.store = w.rows sink.store ++ transcribed ++ [marker] ∧
            List.Forall₂ (Transcribes sink.crates) d.events transcribed ∧
            ∃ now merged_at_ms, Records sink.crates (.new now "host" ACTION_SEGMENT_MERGED
              (segment_merged_detail d.done.segment_id .Temporary merged_at_ms d.events.length)) marker) := by
  cases planned : merge_plan sink.crates sink.store sink.audit_dir d.done.segment_id w with
  | error error =>
    obtain ⟨after, run, frame⟩ := merge_refused planned
    exact ⟨_, _, run, .inl ⟨.inl ⟨error, rfl⟩, frame⟩⟩
  | ok plan =>
    obtain ⟨admitted, decoded, _⟩ := merge_plan_ok sink.crates planned
    obtain ⟨found, kind, _⟩ := mergeable_ok sink.crates admitted
    have id := Riscdom.KeyedTable.Table.key_of_find found
    obtain ⟨segment, events, conflict⟩ := plan
    cases conflict with
    | some conflict =>
      have forked (now forked_at_ms : Int) : Told sink d (.new now "host" ACTION_SEGMENT_FORKED (segment_forked_detail
          segment.segment_id segment.kind forked_at_ms (conflict_reason conflict) (some conflict.id))) := by
        rw [kind, id]
        exact .forked now forked_at_ms conflict
      obtain ⟨unfolded, frame⟩ := merge_conflict file planned forked
      cases run : sink.store.merge_segment sink.crates sink.audit_dir d.done.segment_id w with
      | mk result after =>
        rw [run] at unfolded frame
        refine ⟨result, after, rfl, .inl ⟨?_, frame⟩⟩
        rcases result with error | (merged | reason)
        · exact .inl ⟨error, rfl⟩
        · exact absurd rfl (unfolded merged)
        · exact .inr ⟨reason, rfl⟩
    | none =>
      obtain ⟨result, after, run, ended, table⟩ := merge_written planned unrefused
      rw [decoded_iff] at decoded
      have count : events.length = d.events.length := by
        rw [← decoded.length_eq, ← written.length_eq, List.length_map]
      obtain ⟨transcribed, shape, again⟩ :=
        append_all_rows sink.crates (w.db sink.store).audit_events (events.map outgoing)
      obtain ⟨markers, ending, marked⟩ := append_all_rows sink.crates
        ((w.db sink.store).audit_events.append_all sink.crates (events.map outgoing))
        [merged_event segment events.length w.clock]
      rw [List.forall₂_cons_left_iff] at marked
      obtain ⟨marker, none_left, marked, last, rfl⟩ := marked
      cases last
      rw [merged_event, kind, id, count] at marked
      refine ⟨result, after, run, .inr ⟨by rw [← count]; exact ended, transcribed, marker, ?_, ?_, _, _, marked⟩⟩
      · rw [World.rows, table, append_all_append, ending, shape]
        rfl
      · exact all_transcribed written decoded again

/-- Where only rows of the centre's own were written, the delivery was left out. -/
theorem left_out_entered {result : Except String (Option MergeOutcome)} {v w : World}
    (refused : (result = .ok none ∧ ¬ Passed sink.crates this_node d) ∨ (∃ error, result = .error error) ∨
      ∃ reason, result = .ok (some (.Forked reason)))
    (frame : Frame sink.crates (Told sink d) sink.store file v w) :
    ∃ entry, Entered sink this_node d result entry ∧ w.rows sink.store = v.rows sink.store ++ entry.rows := by
  obtain ⟨own, grown, told⟩ := frame.grows.rows
  exact ⟨⟨own, [], []⟩, .left_out refused told, by simp only [grown, Entry.rows, List.append_nil]⟩

/-- Where a merge transcribed the events, the delivery was folded, whatever its own rows before and behind are. -/
theorem folded_entered {result : Except String (Option MergeOutcome)} {u v w x : World} {transcribed : List RawRow}
    {marker : RawRow} (ended : result = .ok (some (.Folded d.events.length)) ∨ ∃ error, result = .error error)
    (passed : Passed sink.crates this_node d) (ahead : Frame sink.crates (Told sink d) sink.store file u v)
    (merged : w.rows sink.store = v.rows sink.store ++ transcribed ++ [marker])
    (in_order : List.Forall₂ (Transcribes sink.crates) d.events transcribed)
    (marked : ∃ now merged_at_ms, Records sink.crates (.new now "host" ACTION_SEGMENT_MERGED
      (segment_merged_detail d.done.segment_id .Temporary merged_at_ms d.events.length)) marker)
    (after : Frame sink.crates (Told sink d) sink.store file w x) :
    ∃ entry, Entered sink this_node d result entry ∧ x.rows sink.store = u.rows sink.store ++ entry.rows := by
  obtain ⟨own, grown, told⟩ := ahead.grows.rows
  obtain ⟨behind, followed, told_behind⟩ := after.grows.rows
  refine ⟨⟨own, transcribed, marker :: behind⟩, .folded ended passed ?_ in_order marked, ?_⟩
  · intro row inside
    rcases List.mem_append.mp inside with before | later
    · exact told row before
    · exact told_behind row later
  · rw [followed, merged, grown]
    simp only [Entry.rows, List.append_assoc, List.singleton_append]

/-- A delivery that nothing stands in the way of is folded or left out. -/
theorem received_entered {c : Centre} (undisturbed : Undisturbed sink this_node c d) :
    EndsIn (sink.received d this_node) c fun result after =>
      ∃ entry, Entered sink this_node d result entry ∧
        after.world.rows sink.store = c.world.rows sink.store ++ entry.rows := by
  have apart := undisturbed.apart
  -- The row of the segment: the chain's own file alone is touched.
  have adopts : Does (Frame sink.crates (Told sink d) sink.store sink.store) (sink.store.adopt_segment d.done.segment_id
      d.done.head_prev_chain (stored_length d.done.anchor_length)) := adopt_segment_frame _ _ _
  refine ends_bind _ (ends_of_does (audited_does adopts) c)
    (fun error adopted frame => left_out_entered (.inr (.inl ⟨error, rfl⟩)) frame) ?_
  intro _ adopted adopt
  -- The segment's file: where the delivery passes, it holds the events and nothing else.
  refine ends_bind (fun result rebuilt =>
    Frame sink.crates (Told sink d) sink.store (segment_file sink.audit_dir d.done.segment_id) c.world rebuilt.world ∧
      (Passed sink.crates this_node d → ∀ answer, result = .ok answer → answer = .ok () ∧
        List.Forall₂ (Records sink.crates) (d.events.map SegmentEvent.audit_event)
          (rebuilt.world.rows (segment_file sink.audit_dir d.done.segment_id)))) ?_ ?_ ?_
  · refine ⟨adopt.widen.trans (audited_does (rebuild_frame sink d _ apart) adopted), fun passed answer outcome => ?_⟩
    have empty : adopted.world.rows (segment_file sink.audit_dir d.done.segment_id) = [] := by
      rw [World.rows, adopt.beside _ apart apart]
      exact undisturbed.unwritten passed
    cases opened : adopted.world.opens.headD none with
    | some error =>
      rw [audited, rebuild_unopened opened] at outcome
      cases outcome
    | none =>
      obtain ⟨answered, after, run, intact, _, _, held⟩ :=
        rebuild_completes sink d (adopt.unrefused (undisturbed.granted passed)) opened
      cases intact (by rw [empty]; trivial)
      obtain ⟨rows, shape, recorded⟩ := append_all_rows sink.crates
        (adopted.world.db (segment_file sink.audit_dir d.done.segment_id)).audit_events
        (d.events.map SegmentEvent.audit_event)
      rw [audited, run] at outcome ⊢
      cases outcome
      refine ⟨rfl, ?_⟩
      rw [World.rows] at empty
      rw [World.rows, held, if_pos rfl, shape, empty]
      exact recorded
  · intro error rebuilt facts
    exact left_out_entered (.inr (.inl ⟨error, rfl⟩)) facts.1
  · intro rebuild rebuilt facts
    obtain ⟨frame, written⟩ := facts
    cases answer : (verdict sink.crates this_node d.done d.events rebuild).answer with
    | error reason =>
      have rejected : ¬ Passed sink.crates this_node d := by
        intro passed
        rw [verdict_ok_iff.mpr ⟨passed, fun _ => (written passed rebuild rfl).1⟩] at answer
        cases answer
      simp only [answer]
      refine ends_bind _ (ends_of_does (audited_does (record_host_event_frame (Told sink d)
        (segment_file sink.audit_dir d.done.segment_id) fun now => .rejected now _ _ _ _)) rebuilt) ?_ ?_
      · exact fun error told more => left_out_entered (.inr (.inl ⟨error, rfl⟩)) (frame.trans more)
      · exact fun _ told more => left_out_entered (.inl ⟨rfl, rejected⟩) (frame.trans more)
    | ok _ =>
      have passed := (verdict_ok_iff.mp answer).1
      obtain ⟨_, recorded⟩ := written passed rebuild rfl
      simp only [answer]
      refine ends_bind _ (ends_of_does (audited_does (record_host_event_frame (Told sink d) sink.store
        fun now => .verified now _ _ _)) rebuilt) ?_ ?_
      · exact fun error told more => left_out_entered (.inr (.inl ⟨error, rfl⟩)) (frame.trans more.widen)
      · intro _ told more
        have before := frame.trans more.widen
        have unrefused := before.unrefused (undisturbed.granted passed)
        have left : told.world.rows (segment_file sink.audit_dir d.done.segment_id) =
            rebuilt.world.rows (segment_file sink.audit_dir d.done.segment_id) := by
          rw [World.rows, World.rows, more.beside _ apart apart]
        obtain ⟨result, after, run, came⟩ := merged_run (segment_file sink.audit_dir d.done.segment_id) unrefused
          (by rw [left]; exact recorded)
        refine ends_mono (fold_ends sink d (segment_file sink.audit_dir d.done.segment_id) told) ?_
        rintro answered last ⟨behind, ends⟩
        rw [run] at behind ends
        rcases came with ⟨refused, kept⟩ | ⟨ended, transcribed, marker, rows, in_order, marked⟩
        · refine left_out_entered (.inr ?_) ((before.trans kept).trans behind)
          rcases ends with failed | ⟨outcome, rfl, outcome_is⟩
          · exact .inl failed
          · rcases refused with ⟨error, failed⟩ | ⟨reason, forked⟩
            · cases failed.symm.trans outcome_is
            · cases forked.symm.trans outcome_is
              exact .inr ⟨reason, rfl⟩
        · refine folded_entered ?_ passed before rows in_order marked behind
          rcases ends with failed | ⟨outcome, rfl, outcome_is⟩
          · exact .inr failed
          · rcases ended with folded | ⟨error, failed⟩
            · cases folded.symm.trans outcome_is
              exact .inl rfl
            · cases failed.symm.trans outcome_is

/-- A delivery without events opens its segment's file and leaves it as it is. -/
theorem rebuild_untouched (file : AuditStore) {d : Delivery} {fits : AuditEvent → Prop} (events : d.events = []) : Does (Frame sink.crates fits sink.store file) (sink.rebuild d) := by
  refine frame_climbed.bind (frame_climbed.opens _) fun segment => ?_
  rw [events]
  refine frame_climbed.bind (does_pure frame_climbed.refl _) fun _ => ?_
  refine frame_climbed.bind (does_attempt ?_) fun status => ?_
  · exact frame_climbed.bind (does_get frame_climbed.refl _) fun _ => does_pure frame_climbed.refl _
  · rcases status with error | (length | ⟨at_id, reason⟩) <;> exact does_pure frame_climbed.refl _

/-- Two parts of a delivery, each framed, are framed together. -/
theorem framed_bind {fits : AuditEvent → Prop} {α β : Type} {x : Receipt α} {f : α → Receipt β}
    (first : Does (fun c c' : Centre => Frame sink.crates fits sink.store file c.world c'.world) x)
    (rest : ∀ a, Does (fun c c' : Centre => Frame sink.crates fits sink.store file c.world c'.world) (f a)) :
    Does (fun c c' : Centre => Frame sink.crates fits sink.store file c.world c'.world) (x >>= f) :=
  @does_bind _ _ _ _ (fun c c' : Centre => Frame sink.crates fits sink.store file c.world c'.world)
    (fun first second => first.trans second) _ _ first rest

/-- Besides the chain's own file, a delivery touches what its rebuilt store touches. -/
theorem received_frame {sink : SegmentSink} {d : Delivery} {file : AuditStore} (this_node : String)
    (rebuilds : Does (Frame sink.crates (fun _ => True) sink.store file) (sink.rebuild d)) :
    Does (fun c c' : Centre => Frame sink.crates (fun _ => True) sink.store file c.world c'.world)
      (sink.received d this_node) := by
  refine framed_bind (audited_does (adopt_segment_frame _ _ _)) fun _ => ?_
  refine framed_bind (audited_does rebuilds) fun rebuild => ?_
  cases answer : (verdict sink.crates this_node d.done d.events rebuild).answer with
  | error reason =>
    simp only [answer]
    exact framed_bind (audited_does (record_host_event_frame _ _ fun _ => trivial)) fun _ c => .refl c.world
  | ok _ =>
    simp only [answer]
    refine framed_bind (audited_does (record_host_event_frame _ _ fun _ => trivial)) fun _ c => ?_
    have behind := (fold_ends sink d file c).1
    exact (merge_segment_frame sink.audit_dir d.done.segment_id (fun _ => trivial) c.world).trans
      (behind.mono fun _ _ => trivial)

/-- No folded segment's file is touched by a delivery that nothing stands in the way of. -/
theorem received_keeps {c : Centre} (foldedApart : FoldedApart sink c) (undisturbed : Undisturbed sink this_node c d) :
    FoldedFilesKept sink c.world (sink.received d this_node c).2.world := by
  intro segment_id row found folded
  have apart := foldedApart segment_id row found folded
  have untouched := undisturbed.unfolded segment_id row found folded
  by_cases same : segment_file sink.audit_dir segment_id = segment_file sink.audit_dir d.done.segment_id
  · exact (received_frame this_node (rebuild_untouched sink.store (untouched same)) c).beside
      _ apart apart
  · exact (received_frame this_node (rebuild_frame sink d _ undisturbed.apart) c).beside _ apart same

end Delivered

/-! ### Every run -/

section Runs
variable {sink : SegmentSink} {this_node : String}

theorem receive_segment_world (d : Delivery) (c : Centre) :
    (sink.receive_segment d this_node c).2 = (sink.received d this_node c).2 := by
  rw [SegmentSink.receive_segment, bind_run]
  rcases sink.received d this_node c with ⟨error | _, after⟩ <;> rfl

/-- What one step of a run adds to the chain, and that it keeps the files of the folded segments. -/
theorem step_accounted {c : Centre} {happening : Happening} (clear : Clear sink this_node c happening) :
    ∃ entry, StepEntry sink this_node c happening entry ∧
      (step sink this_node c happening).world.rows sink.store = c.world.rows sink.store ++ entry.rows ∧
      FoldedFilesKept sink c.world (step sink this_node c happening).world := by
  cases happening with
  | delivery d =>
    obtain ⟨apart, undisturbed⟩ := clear
    rw [step, receive_segment_world]
    obtain ⟨entry, entered, grown⟩ := received_entered undisturbed
    exact ⟨entry, entered, grown, received_keeps apart undisturbed⟩
  | append event =>
    have frame : Frame sink.crates (fun _ => True) sink.store sink.store c.world
        (sink.store.append sink.crates event c.world).2 := append_frame trivial c.world
    have kept : FoldedFilesKept sink c.world (step sink this_node c (.append event)).world :=
      fun segment_id row found folded => frame.beside _ (clear segment_id row found folded) (clear segment_id row found folded)
    cases outcome : c.world.append_error with
    | some error =>
      refine ⟨⟨[], [], []⟩, .inl rfl, ?_, kept⟩
      rw [step, AuditStore.append_refused sink.crates sink.store outcome]
      exact (List.append_nil _).symm
    | none =>
      obtain ⟨rows, shape, recorded⟩ := append_all_rows sink.crates (c.world.db sink.store).audit_events [event]
      rw [List.forall₂_cons_left_iff] at recorded
      obtain ⟨row, none_left, records, last, rfl⟩ := recorded
      cases last
      refine ⟨⟨[row], [], []⟩, .inr ⟨row, records, rfl⟩, ?_, kept⟩
      rw [step, AuditStore.append_granted sink.crates sink.store outcome]
      simp only [World.rows, World.appended, World.db_put_self, World.append_spent_db]
      exact shape

/-- Along every run of such steps each delivery puts on the chain its own events in their order, or none of them. -/
theorem deliveries_accounted (c : Centre) (happenings : List Happening)
    (clear : Allowed (step sink this_node) (Clear sink this_node) c happenings) :
    ∃ entries, Accounted sink this_node c happenings entries ∧
      (run (step sink this_node) c happenings).world.rows sink.store =
        c.world.rows sink.store ++ entries.flatMap Entry.rows := by
  induction happenings generalizing c with
  | nil => exact ⟨[], rfl, (List.append_nil _).symm⟩
  | cons happening later ih =>
    obtain ⟨entry, entered, grown, kept⟩ := step_accounted clear.1
    obtain ⟨entries, accounted, rows⟩ := ih (step sink this_node c happening) clear.2
    refine ⟨entry :: entries, ⟨entry, entries, rfl, entered, grown, kept, accounted⟩, ?_⟩
    rw [run_cons, rows, grown, List.flatMap_cons, List.append_assoc]

end Runs

/-! ### A stream that is sent again -/

section Resent
variable (crates : Crates)

/-- The events of a stream, each continuing from the hash before it. -/
def stream_event (index : Nat) (prev_hash : String) : SegmentEvent :=
  let event : SegmentEvent :=
    { segment_id := "seg-7", centre := "A", index, total := 2, ts := 5, actor := "agent", action := "llm.request",
      agent_id := none, detail := json [("n", .integer index)], hash := none, prev_hash := some prev_hash }
  { event with hash := some (event.recompute crates) }

def first_event : SegmentEvent := stream_event crates 0 "g"
def second_event : SegmentEvent := stream_event crates 1 (first_event crates).own_hash

/-- The stream as it arrives with some of its events. -/
def stream (events : List SegmentEvent) : Delivery where
  sender := "B"
  done := { segment_id := "seg-7", centre := "A", total := 2, head_prev_chain := none, anchor_length := some 0,
            anchor_hash := some "g" }
  events
  now := 0

def new_centre : Centre := ⟨⟨fun _ => none, [], [], [], []⟩, [], []⟩
def new_sink : SegmentSink := ⟨crates, ["data"], ⟨["data", "audit.db"]⟩, "centre", false⟩

theorem stream_event_plain (index : Nat) (prev_hash : String) :
    Plain (stream_event crates index prev_hash).audit_event.detail ∧
      depth (stream_event crates index prev_hash).audit_event.detail ≤ 127 ∧
      (stream_event crates index prev_hash).audit_event.actor = "agent" :=
  ⟨plain_json (by simp), (depth_json (d := 0) (by simp)).trans (by omega), rfl⟩

theorem stream_passes : Passed crates "A" (stream [first_event crates, second_event crates]) := by
  refine ⟨fun _ => ⟨?_, .inl ?_⟩, ?_⟩
  · rw [verify_delivery_ok_iff]
    exact ⟨rfl, .refl _⟩
  · have carried : ¬ ([first_event crates, second_event crates] = [] ∨
        ∃ event ∈ [first_event crates, second_event crates], event.hash = none ∨ event.prev_hash = none) := by
      simp [first_event, second_event, stream_event]
    have first : (first_event crates).recompute crates = (first_event crates).own_hash := rfl
    have second : (second_event crates).recompute crates = (second_event crates).own_hash := rfl
    have continued : (second_event crates).own_prev_hash = (first_event crates).own_hash := rfl
    rw [stream, verify_linkage, if_neg carried]
    simp [linkage_walk, first, second, continued]
  · rfl

theorem lost_event_rejected : ¬ Passed crates "A" (stream [first_event crates]) := by
  rintro ⟨delivered, _⟩
  obtain ⟨counted, _⟩ := delivered (by simp [stream])
  cases counted

/-- The stream that arrives whole at a centre that knows nothing is folded, and its two events are on the chain. -/
theorem whole_stream_accounted :
    ∃ entries, Accounted (new_sink provisional_crates) "A" new_centre
        [.delivery (stream [first_event provisional_crates, second_event provisional_crates])] entries ∧
      (run (step (new_sink provisional_crates) "A") new_centre
          [.delivery (stream [first_event provisional_crates, second_event provisional_crates])]).world.rows
          (new_sink provisional_crates).store =
        new_centre.world.rows (new_sink provisional_crates).store ++ entries.flatMap Entry.rows := by
  have unknown (segment_id : String) (row : Segment) :
      ¬ new_centre.world.segment (new_sink provisional_crates).store segment_id = some row := nofun
  have apart : segment_file ["data"] "seg-7" ≠ (⟨["data", "audit.db"]⟩ : AuditStore) := by decide
  refine deliveries_accounted _ _ ⟨⟨?_, ?_⟩, trivial⟩
  · exact fun segment_id row found _ => absurd found (unknown segment_id row)
  · exact ⟨apart, fun _ => rfl, fun _ => unrefused_nil, fun segment_id row found _ => absurd found (unknown segment_id row)⟩

/-- No write to come is refused, the segment's file holds some events, its row is there, and the chain holds rows of the
    centre's own. -/
structure Waiting (events : List AuditEvent) (w : World) : Prop where
  granted : Unrefused w.appends ∧ w.updates = [] ∧ w.opens = []
  file : (w.db (segment_file ["data"] "seg-7")).audit_events = EventTable.empty.append_all crates events
  row : ∃ segment, (w.db ⟨["data", "audit.db"]⟩).segments.find "seg-7" = some segment ∧ segment.kind = .Temporary ∧
    segment.state = .Closed ∧ segment.note = some "adopted from another node"
  own : ∀ row ∈ w.rows ⟨["data", "audit.db"]⟩, row.actor = "host" ∧ row.action ≠ ACTION_SEGMENT_MERGED

variable {crates} {events : List AuditEvent} {w : World}

theorem Waiting.adopt (waiting : Waiting crates events w) (head_prev_chain : Option String) (head_prev_length : Option Int) :
    (new_sink crates).store.adopt_segment "seg-7" head_prev_chain head_prev_length w = (.ok (), w) := by
  obtain ⟨segment, found, _⟩ := waiting.row
  exact adopt_segment_present found _ _

theorem Waiting.rebuild (waiting : Waiting crates events w) (arrived : List SegmentEvent) :
    ∃ after, (new_sink crates).rebuild (stream arrived) w = (.ok (.ok ()), after) ∧
      Waiting crates (events ++ arrived.map SegmentEvent.audit_event) after := by
  obtain ⟨⟨unrefused, updates, opens⟩, file, row, own⟩ := waiting
  have apart : (⟨["data", "audit.db"]⟩ : AuditStore) ≠ segment_file ["data"] "seg-7" := by decide
  obtain ⟨answer, after, run, intact, updates_kept, opens_left, held⟩ :=
    rebuild_completes (new_sink crates) (stream arrived) unrefused (by rw [opens]; rfl)
  cases intact (show Chained crates (w.rows (segment_file ["data"] "seg-7")) by
    rw [World.rows, file]
    exact append_all_chained crates (show Chained crates EventTable.empty.rows from trivial) events)
  have frame := rebuild_frame (new_sink crates) (stream arrived) (fun _ => True) (Ne.symm apart) w
  rw [run] at frame
  have chain : after.db ⟨["data", "audit.db"]⟩ = w.db ⟨["data", "audit.db"]⟩ := (held _).trans (if_neg apart)
  refine ⟨after, run, ⟨frame.unrefused unrefused, by rw [updates_kept, updates], by rw [opens_left, opens]; rfl⟩, ?_, ?_, ?_⟩
  · rw [held]
    change (if segment_file ["data"] "seg-7" = segment_file ["data"] "seg-7" then _ else _ : AuditDb).audit_events = _
    rw [if_pos rfl, append_all_append]
    exact congrArg (fun table => EventTable.append_all crates table _) file
  · rw [chain]
    exact row
  · rw [World.rows, chain]
    exact own

/-- A row of the centre's own leaves all that as it is. -/
theorem Waiting.record (waiting : Waiting crates events w) {action : String} (other : action ≠ ACTION_SEGMENT_MERGED)
    (detail : Value) :
    Waiting crates events ((new_sink crates).record_host_event action detail w).2 := by
  obtain ⟨⟨unrefused, updates, opens⟩, file, row, own⟩ := waiting
  have apart : segment_file ["data"] "seg-7" ≠ (⟨["data", "audit.db"]⟩ : AuditStore) := by decide
  have records : Does (Frame (new_sink crates).crates (fun event => event.actor = "host" ∧ event.action = action)
      (new_sink crates).store (new_sink crates).store) ((new_sink crates).record_host_event action detail) :=
    record_host_event_frame _ _ fun _ => ⟨rfl, rfl⟩
  have frame := records w
  obtain ⟨rows, grown, told⟩ := frame.grows.rows
  rw [record_host_event_granted unrefused.append_error] at frame grown ⊢
  refine ⟨⟨frame.unrefused unrefused, updates, opens⟩, ?_, ?_, fun kept inside => ?_⟩
  · rw [frame.beside _ apart apart]
    exact file
  · simp only [World.appended, new_sink, World.db_put_self]
    exact row
  · change World.rows _ (new_sink crates).store = _ at grown
    change kept ∈ World.rows _ (new_sink crates).store at inside
    rw [grown] at inside
    rcases List.mem_append.mp inside with old | new
    · exact own kept old
    · obtain ⟨event, ⟨actor, named⟩, recorded⟩ := told kept new
      rw [recorded.2.1, recorded.2.2.1, actor, named]
      exact ⟨rfl, other⟩

/-- Rows have the actors of the events they record. -/
theorem recorded_actors {events : List AuditEvent} {rows : List RawRow} (recorded : List.Forall₂ (Records crates) events rows) :
    rows.map RawRow.actor = events.map AuditEvent.actor := by
  induction recorded with
  | nil => rfl
  | cons records _ ih => rw [List.map_cons, List.map_cons, ih, records.2.1]

/-- A merge then transcribes every event the file holds. -/
theorem Waiting.merge (waiting : Waiting crates events w)
    (plain : ∀ event ∈ events, Plain event.detail ∧ depth event.detail ≤ 127 ∧ event.actor = "agent") :
    events.length ≤ (((((new_sink crates).store.merge_segment crates ["data"] "seg-7" w).2.rows
      (new_sink crates).store).map RawRow.actor).count "agent") := by
  obtain ⟨⟨unrefused, updates, opens⟩, file, ⟨segment, found, kind, closed, note⟩, own⟩ := waiting
  obtain ⟨rows, shape, recorded⟩ := append_all_rows crates EventTable.empty events
  obtain ⟨stored, decoded, same⟩ := recorded_decoded recorded fun event inside => ⟨(plain event inside).1, (plain event inside).2.1⟩
  have held : w.rows (segment_file ["data"] "seg-7") = rows := by
    rw [World.rows, file, shape]
    rfl
  have planned : merge_plan crates (new_sink crates).store ["data"] "seg-7" w = .ok ⟨segment, stored, none⟩ := by
    refine merge_plan_apart found kind closed ?_ (by rw [opens]; rfl) (fun row inside => (own row inside).2)
      (by rw [held]; exact decoded) fun row inside event old => ?_
    · intro text noted
      rw [note] at noted
      cases noted
      decide
    · have agent := (plain event.event (same ▸ List.mem_map_of_mem old)).2.2
      rw [(own row inside).1, agent]
      decide
  obtain ⟨result, after, run, _, table⟩ := merge_written planned unrefused
  obtain ⟨transcribed, grown, written⟩ := append_all_rows crates (w.db (new_sink crates).store).audit_events
    (stored.map outgoing ++ [merged_event segment stored.length w.clock])
  have agents : (stored.map fun event => (outgoing event).actor) = List.replicate events.length "agent" := by
    rw [List.eq_replicate_iff]
    refine ⟨by rw [← same, List.length_map, List.length_map], fun actor inside => ?_⟩
    obtain ⟨event, old, rfl⟩ := List.mem_map.mp inside
    exact (plain event.event (same ▸ List.mem_map_of_mem old)).2.2
  rw [run, World.rows, table, grown, List.map_append, List.count_append, recorded_actors written, List.map_append,
    List.map_map, List.count_append]
  change events.length ≤ _ + (List.count "agent" (stored.map fun event => (outgoing event).actor) + _)
  rw [agents, List.count_replicate_self]
  omega

/-- The row adopted at the first arrival. -/
theorem new_centre_waiting (crates : Crates) : ∃ w, (new_sink crates).store.adopt_segment "seg-7" none (some 0)
    new_centre.world = (.ok (), w) ∧ Waiting crates [] w :=
  ⟨_, AuditStore.adopt_segment_absent _ rfl rfl none (some 0),
    ⟨unrefused_nil, rfl, rfl⟩, rfl, ⟨_, rfl, rfl, rfl, rfl⟩, fun _ inside => absurd inside List.not_mem_nil⟩

variable {arrived : List SegmentEvent} {c : Centre}

/-- What arrived stays in the segment's file though it was rejected. -/
theorem Waiting.rejected (adopted : (new_sink crates).store.adopt_segment "seg-7" none (some 0) c.world = (.ok (), w))
    (waiting : Waiting crates events w) (failed : ¬ Passed crates "A" (stream arrived)) :
    Waiting crates (events ++ arrived.map SegmentEvent.audit_event) ((new_sink crates).received (stream arrived) "A" c).2.world := by
  obtain ⟨after, run, later⟩ := waiting.rebuild arrived
  cases answer : (verdict crates "A" (stream arrived).done (stream arrived).events (.ok ())).answer with
  | ok _ => exact absurd (verdict_ok_iff.mp answer).1 failed
  | error reason =>
    obtain ⟨detail, received⟩ := received_rejected (new_sink crates) (stream arrived) adopted run answer
    rw [received]
    exact later.record (by decide) detail

/-- What waits in the segment's file is transcribed with an arrival that passes. -/
theorem Waiting.accepted (adopted : (new_sink crates).store.adopt_segment "seg-7" none (some 0) c.world = (.ok (), w))
    (waiting : Waiting crates events w) (passed : Passed crates "A" (stream arrived))
    (plain : ∀ event ∈ events ++ arrived.map SegmentEvent.audit_event,
      Plain event.detail ∧ depth event.detail ≤ 127 ∧ event.actor = "agent") :
    (events ++ arrived.map SegmentEvent.audit_event).length ≤
      ((((new_sink crates).received (stream arrived) "A" c).2.world.rows (new_sink crates).store).map RawRow.actor).count "agent" := by
  obtain ⟨after, run, later⟩ := waiting.rebuild arrived
  obtain ⟨detail, received⟩ := received_accepted (new_sink crates) (stream arrived) adopted run
    (verdict_ok_iff.mpr ⟨passed, fun _ => rfl⟩)
  have merged := (later.record (show ACTION_CHAIN_VERIFIED ≠ ACTION_SEGMENT_MERGED by decide) detail).merge plain
  obtain ⟨behind, _⟩ := fold_ends (new_sink crates) (stream arrived) (new_sink crates).store
    { c with world := ((new_sink crates).record_host_event ACTION_CHAIN_VERIFIED detail after).2 }
  obtain ⟨more, grown, _⟩ := behind.grows.rows
  rw [received, grown, List.map_append, List.count_append]
  exact Nat.le_add_right_of_le merged

theorem Told.host {sink : SegmentSink} {d : Delivery} {event : AuditEvent} (told : Told sink d event) : event.actor = "host" := by
  cases told <;> rfl

theorem told_agents {sink : SegmentSink} {d : Delivery} {rows : List RawRow} (told : ∀ row ∈ rows, Tells sink d row) :
    (rows.map RawRow.actor).count "agent" = 0 := by
  rw [List.count_eq_zero]
  intro inside
  obtain ⟨row, here, actor⟩ := List.mem_map.mp inside
  obtain ⟨event, tells, records⟩ := told row here
  rw [records.2.1, tells.host] at actor
  exact absurd actor (by decide)

/-- What a delivery enters has no more agents' rows than the delivery has events, and none where it does not pass. -/
theorem entered_agents {sink : SegmentSink} {this_node : String} {d : Delivery}
    {result : Except String (Option MergeOutcome)} {entry : Entry} (entered : Entered sink this_node d result entry) :
    (entry.rows.map RawRow.actor).count "agent" ≤ d.events.length ∧
      (¬ Passed sink.crates this_node d → (entry.rows.map RawRow.actor).count "agent" = 0) := by
  cases entered with
  | left_out _ told =>
    have none_there := told_agents told
    rw [Entry.rows, List.append_nil, List.append_nil, none_there]
    exact ⟨Nat.zero_le _, fun _ => rfl⟩
  | @folded own transcribed behind marker ended passed told in_order marked =>
    refine ⟨?_, fun failed => absurd passed failed⟩
    have ahead := told_agents fun row inside => told row (List.mem_append_left _ inside)
    have after := told_agents fun row inside => told row (List.mem_append_right own inside)
    obtain ⟨now, merged_at_ms, records⟩ := marked
    have host : marker.actor = "host" := records.2.1
    have few : (transcribed.map RawRow.actor).count "agent" ≤ d.events.length := by
      rw [in_order.length_eq, ← List.length_map (f := RawRow.actor)]
      exact List.count_le_length
    simp only [Entry.rows, List.map_append, List.count_append, ahead, List.map_cons, host, List.count_cons, after]
    simpa using few

/-- A stream that lost an event on its way is rejected, and when it is sent again whole the chain gets its first event
    twice. -/
theorem lost_event_transcribed_later : ¬ ∃ crates : Crates, ∀ (sink : SegmentSink) (this_node : String) (c : Centre)
    (happenings : List Happening), sink.crates = crates → (∀ file, (c.world.db file).audit_events = EventTable.empty) →
      c.world.appends = [] → c.world.updates = [] → c.world.opens = [] →
      ∃ entries, Accounted sink this_node c happenings entries ∧
        (run (step sink this_node) c happenings).world.rows sink.store =
          c.world.rows sink.store ++ entries.flatMap Entry.rows := by
  rintro ⟨crates, law⟩
  obtain ⟨entries, accounted, rows⟩ := law (new_sink crates) "A" new_centre
    [.delivery (stream [first_event crates]), .delivery (stream [first_event crates, second_event crates])]
    rfl (fun _ => rfl) rfl rfl rfl
  obtain ⟨first, others, rfl, entered, _, _, second, none_left, rfl, entered_later, _, _, last⟩ := accounted
  cases last
  have rejected := (entered_agents entered).2 (lost_event_rejected crates)
  have accepted := (entered_agents entered_later).1
  obtain ⟨w, adopted, waiting⟩ := new_centre_waiting crates
  have left := waiting.rejected adopted (lost_event_rejected crates)
  have plain : ∀ event ∈ ([first_event crates].map SegmentEvent.audit_event ++
      [first_event crates, second_event crates].map SegmentEvent.audit_event),
      Plain event.detail ∧ depth event.detail ≤ 127 ∧ event.actor = "agent" := by
    intro event inside
    simp only [List.map_cons, List.map_nil, List.cons_append, List.nil_append, List.mem_cons, List.not_mem_nil,
      or_false] at inside
    rcases inside with rfl | rfl | rfl <;> exact stream_event_plain crates _ _
  have many := left.accepted (left.adopt none (some 0)) (stream_passes crates) plain
  simp only [run_cons, run_nil, step, receive_segment_world] at rows
  rw [rows] at many
  simp only [List.flatMap_cons, List.flatMap_nil, List.append_nil, List.map_append, List.count_append, rejected] at many
  have start : new_centre.world.rows (new_sink crates).store = [] := rfl
  rw [start] at many
  simp at many
  change _ ≤ 2 at accepted
  omega

end Resent

end Riscdom.Core
