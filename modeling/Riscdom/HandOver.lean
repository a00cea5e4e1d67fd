import Riscdom.DeliveryRuns
import Riscdom.SegmentStream

/-!
A segment handed over: what a sender cuts out of an intact chain passes the
checks of the receiver in whatever order it arrives, and is rebuilt row for row.
-/
namespace Riscdom.Core
open Riscdom.Json Riscdom.HashChain Riscdom.Audit Riscdom.Net Riscdom.Machine Fallible.Act

/-! ### The hashes that travel -/

section Linkage
variable (crates : Crates)

/-- Past the first event the walk finds exactly a chain in order. -/
theorem linkage_walk_ok_iff {place : Nat} (past : 0 < place) (before : String) (events : List SegmentEvent) :
    linkage_walk crates place before events = .ok () ↔
      Linked SegmentEvent.own_prev_hash SegmentEvent.own_hash (SegmentEvent.recompute crates) before events := by
  induction events generalizing place before with
  | nil => simp [linkage_walk]
  | cons event rest ih =>
    rw [linkage_walk, linked_cons]
    by_cases names : event.own_prev_hash = before
    · by_cases digested : event.recompute crates = event.own_hash
      · rw [if_neg (by simp [names]), if_neg (not_not.mpr digested), ih (by omega)]
        simp [names, digested]
      · rw [if_neg (by simp [names]), if_pos digested]
        simp [Ne.symm digested]
    · rw [if_pos ⟨past, names⟩]
      simp [names]

/-- The events' hashes are in order exactly when there are events, each carries both, and they form a chain. -/
theorem verify_linkage_ok_iff (events : List SegmentEvent) :
    verify_linkage crates events = .ok () ↔
      events ≠ [] ∧ (∀ event ∈ events, event.hash ≠ none ∧ event.prev_hash ≠ none) ∧
        ∃ first, Linked SegmentEvent.own_prev_hash SegmentEvent.own_hash (SegmentEvent.recompute crates) first events := by
  rw [verify_linkage]
  by_cases lacking : events = [] ∨ ∃ event ∈ events, event.hash = none ∨ event.prev_hash = none
  · rw [if_pos lacking]
    refine ⟨by rintro ⟨⟩, ?_⟩
    rintro ⟨some_there, carried, _⟩
    rcases lacking with none_there | ⟨event, inside, lacks⟩
    · exact absurd none_there some_there
    · exact absurd lacks (not_or.mpr (carried event inside))
  · rw [if_neg lacking]
    rw [not_or] at lacking
    obtain ⟨some_there, carried⟩ := lacking
    have carries : ∀ event ∈ events, event.hash ≠ none ∧ event.prev_hash ≠ none :=
      fun event inside => not_or.mp fun lacks => carried ⟨event, inside, lacks⟩
    cases events with
    | nil => exact absurd rfl some_there
    | cons event rest =>
      rw [linkage_walk, if_neg (by simp)]
      by_cases digested : event.recompute crates = event.own_hash
      · rw [if_neg (not_not.mpr digested), linkage_walk_ok_iff crates Nat.one_pos]
        constructor
        · exact fun linked => ⟨some_there, carries, event.own_prev_hash, rfl, digested.symm, linked⟩
        · rintro ⟨_, _, _, _, _, linked⟩
          exact linked
      · rw [if_pos digested]
        refine ⟨by rintro ⟨⟩, ?_⟩
        rintro ⟨_, _, _, _, same, _⟩
        exact absurd same.symm digested

end Linkage

/-! ### The cut -/

/-- A span of a chain: the rows between the row that opened a segment and the row that closed it. -/
structure Span (rows : List RawRow) where
  before : List RawRow
  opened : RawRow
  inner : List RawRow
  closed : RawRow
  after : List RawRow
  whole : rows = before ++ opened :: (inner ++ closed :: after)

/-- A range of ids picks the rows between those below it and those above it. -/
theorem filter_middle {first middle last : List RawRow} {low high : Int} (under : ∀ row ∈ first, row.id < low)
    (within : ∀ row ∈ middle, low ≤ row.id ∧ row.id ≤ high) (beyond : ∀ row ∈ last, high < row.id) :
    (first ++ (middle ++ last)).filter (fun row => low ≤ row.id ∧ row.id ≤ high) = middle := by
  have none_first : first.filter (fun row => low ≤ row.id ∧ row.id ≤ high) = [] := by
    rw [List.filter_eq_nil_iff]
    intro row inside
    have below := under row inside
    simp only [decide_eq_true_eq]
    omega
  have all_middle : middle.filter (fun row => low ≤ row.id ∧ row.id ≤ high) = middle := by
    rw [List.filter_eq_self]
    exact fun row inside => decide_eq_true (within row inside)
  have none_last : last.filter (fun row => low ≤ row.id ∧ row.id ≤ high) = [] := by
    rw [List.filter_eq_nil_iff]
    intro row inside
    have above := beyond row inside
    simp only [decide_eq_true_eq]
    omega
  rw [List.filter_append, List.filter_append, none_first, all_middle, none_last, List.nil_append, List.append_nil]

section Cut
variable {rows : List RawRow} (span : Span rows) (ordered : rows.Pairwise fun r s => r.id < s.id)
include ordered

/-- The ids between the two rows of a span are those of its rows. -/
theorem Span.filter_inner :
    rows.filter (fun row => span.opened.id + 1 ≤ row.id ∧ row.id ≤ span.closed.id - 1) = span.inner := by
  have split : rows = (span.before ++ [span.opened]) ++ (span.inner ++ span.closed :: span.after) :=
    span.whole.trans (by simp)
  rw [span.whole] at ordered
  simp only [List.pairwise_append, List.pairwise_cons, List.mem_append, List.mem_cons] at ordered
  obtain ⟨_, ⟨above, _, ⟨later, _⟩, below⟩, apart⟩ := ordered
  refine (congrArg (List.filter _) split).trans (filter_middle (fun row inside => ?_) (fun row inside => ?_) fun row inside => ?_)
  · rcases List.mem_append.mp inside with earlier | here
    · have under := apart row earlier span.opened (.inl rfl)
      omega
    · rw [List.mem_singleton.mp here]
      omega
  · have beyond := above row (.inl inside)
    have under := below row inside span.closed (.inl rfl)
    omega
  · rcases List.mem_cons.mp inside with rfl | further
    · omega
    · have beyond := later row further
      omega

/-- The id of the opening row is that row's alone. -/
theorem Span.filter_opened :
    rows.filter (fun row => span.opened.id ≤ row.id ∧ row.id ≤ span.opened.id) = [span.opened] := by
  have split : rows = span.before ++ ([span.opened] ++ (span.inner ++ span.closed :: span.after)) :=
    span.whole.trans (by simp)
  rw [span.whole] at ordered
  simp only [List.pairwise_append, List.pairwise_cons, List.mem_append, List.mem_cons] at ordered
  obtain ⟨_, ⟨above, _⟩, apart⟩ := ordered
  refine (congrArg (List.filter _) split).trans (filter_middle ?_ ?_ fun row inside => ?_)
  · exact fun row inside => apart row inside span.opened (.inl rfl)
  · simp
  · exact above row (by simpa using inside)

end Cut

/-! ### The frames of a span -/

/-- The detail of a row is the text of what it reads as. -/
def Canonical (crates : Crates) (row : RawRow) : Prop :=
  ∃ detail, decode crates row.detail_json = .ok detail ∧ crates.json.to_string detail = row.detail_json

/-- A frame carries a row: its fields, its hashes, and its detail, the text of which the row holds. -/
structure Carries (crates : Crates) (row : RawRow) (frame : SegmentEvent) : Prop where
  ts : frame.ts = row.timestamp_ms
  actor : frame.actor = row.actor
  action : frame.action = row.action
  agent_id : frame.agent_id = row.agent_id
  detail : crates.json.to_string frame.detail = row.detail_json
  hash : frame.hash = some row.hash
  prev_hash : frame.prev_hash = some row.prev_hash

/-- Frames that carry the rows of a chain are in order. -/
theorem linked_of_carries {crates : Crates} {rows : List RawRow} {frames : List SegmentEvent}
    (carried : List.Forall₂ (Carries crates) rows frames) {first : String}
    (linked : Linked RawRow.prev_hash RawRow.hash (recompute crates) first rows) :
    Linked SegmentEvent.own_prev_hash SegmentEvent.own_hash (SegmentEvent.recompute crates) first frames := by
  induction carried generalizing first with
  | nil => trivial
  | @cons row frame rows frames carries _ ih =>
    obtain ⟨names, digested, rest⟩ := linked
    have own : frame.own_hash = row.hash := by rw [SegmentEvent.own_hash, carries.hash]; rfl
    have prev : frame.own_prev_hash = row.prev_hash := by rw [SegmentEvent.own_prev_hash, carries.prev_hash]; rfl
    have same : frame.recompute crates = recompute crates row := by
      rw [SegmentEvent.recompute, recompute, prev, carries.ts, carries.actor, carries.action, carries.detail]
    exact ⟨by rw [prev, names], by rw [own, same, digested], by rw [own]; exact ih rest⟩

theorem stored_hash {crates : Crates} {row : RawRow} {stored : StoredEvent} (read : row.into_stored crates = .ok stored) :
    stored.hash = row.hash := by
  rw [RawRow.into_stored] at read
  cases decoded : decode crates row.detail_json with
  | error error =>
    rw [decoded] at read
    cases read
  | ok detail =>
    rw [decoded] at read
    cases read
    rfl

theorem frame_carries {crates : Crates} {row : RawRow} {stored : StoredEvent} (read : row.into_stored crates = .ok stored)
    (canonical : Canonical crates row) (segment_id centre : String) (total index : Nat) :
    Carries crates row (segment_frame segment_id centre total (stored, index)) := by
  obtain ⟨detail, decoded, text⟩ := canonical
  rw [RawRow.into_stored, decoded] at read
  cases read
  exact ⟨rfl, rfl, rfl, rfl, text, rfl, rfl⟩

theorem frames_carry {crates : Crates} {rows : List RawRow} {events : List StoredEvent}
    (decoded : List.Forall₂ (fun row event => row.into_stored crates = .ok event) rows events)
    (canonical : ∀ row ∈ rows, Canonical crates row) (segment_id centre : String) (total start : Nat) :
    List.Forall₂ (Carries crates) rows ((events.zipIdx start).map (segment_frame segment_id centre total)) := by
  induction decoded generalizing start with
  | nil => exact .nil
  | @cons row stored rows events read _ ih =>
    rw [List.zipIdx_cons, List.map_cons]
    exact .cons (frame_carries read (canonical row List.mem_cons_self) segment_id centre total start)
      (ih (fun other inside => canonical other (List.mem_cons_of_mem _ inside)) (start + 1))

/-- Rows of canonical details are all read. -/
theorem canonical_decoded {crates : Crates} {rows : List RawRow} (canonical : ∀ row ∈ rows, Canonical crates row) :
    ∃ events, List.Forall₂ (fun row event => row.into_stored crates = .ok event) rows events := by
  induction rows with
  | nil => exact ⟨[], .nil⟩
  | cons row rest ih =>
    obtain ⟨events, decoded⟩ := ih fun other inside => canonical other (List.mem_cons_of_mem _ inside)
    obtain ⟨detail, read, _⟩ := canonical row List.mem_cons_self
    have stored : ∃ event, row.into_stored crates = .ok event := ⟨_, by rw [RawRow.into_stored, read]⟩
    obtain ⟨event, stored⟩ := stored
    exact ⟨event :: events, .cons stored decoded⟩

/-- The places of a stream's frames, counted from zero. -/
theorem frame_indices (events : List StoredEvent) (segment_id centre : String) (total : Nat) :
    (events.zipIdx.map (segment_frame segment_id centre total)).map SegmentEvent.index = List.range events.length := by
  rw [List.map_map, List.range_eq_range', ← List.zipIdx_map_snd 0 events]
  rfl

/-! ### The arrival -/

instance : Std.Total fun a b : SegmentEvent => a.index ≤ b.index := ⟨fun a b => Nat.le_total a.index b.index⟩
instance : IsTrans SegmentEvent fun a b => a.index ≤ b.index := ⟨fun _ _ _ first second => first.trans second⟩

/-- Frames in any order are taken out in the order of their places. -/
theorem sorted_frames {frames arrived : List SegmentEvent} (places : (frames.map SegmentEvent.index).Pairwise (· < ·))
    (perm : arrived.Perm frames) : arrived.insertionSort (fun a b => a.index ≤ b.index) = frames := by
  have sorted := (List.perm_insertionSort (fun a b => a.index ≤ b.index) arrived).trans perm
  have once : ∀ a ∈ frames, ∀ b ∈ frames, a.index = b.index → a = b :=
    fun a first b second same => List.inj_on_of_nodup_map (places.imp fun below => below.ne) first second same
  refine List.Perm.eq_of_pairwise (fun a b first second below above => ?_) (List.pairwise_insertionSort _ _)
    ((List.pairwise_map.mp places).imp fun below => below.le) sorted
  exact once a (sorted.subset first) b second (Nat.le_antisymm below above)

/-- Frames of one stream, whoever sent them and whenever they came, wait in the inbox in the order they came. -/
theorem frames_gathered (sink : SegmentSink) (centre : String) {segment_id : String} {frames : List SegmentEvent}
    {arrivals : List Arrival} (bodies : List.Forall₂ (fun arrival frame => is_segment_event arrival.body = some frame) arrivals
      frames) (here : ∀ frame ∈ frames, frame.centre = centre ∧ frame.segment_id = segment_id) (reader : Reader) :
    run (Reader.arrive sink centre) reader arrivals =
      { reader with inbox := Function.update reader.inbox segment_id (reader.inbox segment_id ++ frames) } := by
  induction bodies generalizing reader with
  | nil => simp
  | @cons arrival frame arrivals frames read _ ih =>
    obtain ⟨addressed, named⟩ := here frame List.mem_cons_self
    have step : reader.arrive sink centre arrival = { reader with inbox := reader.inbox.push frame } := by
      rw [Reader.arrive, read]
      simp only
      rw [if_pos addressed]
    rw [run_cons, step, ih fun other inside => here other (List.mem_cons_of_mem _ inside)]
    simp only [Inbox.push, named, Function.update_self, Function.update_idem, List.append_assoc, List.singleton_append]

/-- A stream whose frames all came and whose end comes is handed on whole. -/
theorem stream_received (sink : SegmentSink) (centre : String) {frames arrived : List SegmentEvent} {done : SegmentDone}
    (places : (frames.map SegmentEvent.index).Pairwise (· < ·)) (perm : arrived.Perm frames) {arrivals : List Arrival}
    (bodies : List.Forall₂ (fun arrival frame => is_segment_event arrival.body = some frame) arrivals arrived)
    (here : ∀ frame ∈ frames, frame.centre = centre ∧ frame.segment_id = done.segment_id) (addressed : done.centre = centre)
    {last : Arrival} (ends : is_segment_event last.body = none ∧ is_segment_done last.body = some done) (reader : Reader)
    (fresh : reader.inbox done.segment_id = []) :
    (run (Reader.arrive sink centre) reader (arrivals ++ [last])).centre =
      (sink.receive_segment ⟨last.sender, done, frames, last.now⟩ centre reader.centre).2 := by
  rw [run_append, frames_gathered sink centre bodies fun frame inside => here frame (perm.subset inside), fresh, List.nil_append,
    run_cons, run_nil, Reader.arrive, ends.1, ends.2]
  simp only
  rw [if_pos addressed]
  simp only [Inbox.take, Function.update_self, sorted_frames places perm]

/-! ### The round trip -/

/-- Two rows of one content, whatever their places and their hashes. -/
structure SameContent (row rebuilt : RawRow) : Prop where
  timestamp_ms : rebuilt.timestamp_ms = row.timestamp_ms
  actor : rebuilt.actor = row.actor
  action : rebuilt.action = row.action
  detail_json : rebuilt.detail_json = row.detail_json
  agent_id : rebuilt.agent_id = row.agent_id

/-- What a receiver makes of the stream of a span: the frames in any order, and the end after them, come to this
    delivery, its checks find no problem, and what is rebuilt of it has the content of the span's rows. An empty stream has
    no hashes to check. -/
structure HandedOver (crates : Crates) (centre segment_id : String) (inner : List RawRow) (frames : List SegmentEvent)
    (done : SegmentDone) : Prop where
  arrives : ∀ (sink : SegmentSink) (reader : Reader) (arrived : List SegmentEvent) (arrivals : List Arrival) (last : Arrival),
    arrived.Perm frames → arrivals.map Arrival.body = arrived.map segment_event_body → last.body = segment_done_body done →
    reader.inbox segment_id = [] →
    (run (Reader.arrive sink centre) reader (arrivals ++ [last])).centre =
      (sink.receive_segment ⟨last.sender, done, frames, last.now⟩ centre reader.centre).2
  envelope : verify_delivery centre done frames = .ok ()
  linkage : verify_linkage crates frames = if inner = [] then .error .NoHash else .ok ()
  anchor : (anchor_check done frames).2 = .ok ()
  accepted : (verdict crates centre done frames (.ok ())).answer = .ok ()
  rebuilds : ∀ (sink : SegmentSink) (sender : String) (now : Int) (v : World), Unrefused v.appends → v.opens.headD none = none →
    ∃ answer after, sink.rebuild ⟨sender, done, frames, now⟩ v = (.ok answer, after)
  rebuilt : ∀ (sink : SegmentSink) (sender : String) (now : Int) (v after : World) (answer : Except String Unit),
    sink.crates = crates → sink.rebuild ⟨sender, done, frames, now⟩ v = (.ok answer, after) →
    ∃ rows, after.rows (segment_file sink.audit_dir segment_id) = v.rows (segment_file sink.audit_dir segment_id) ++ rows ∧
      List.Forall₂ SameContent inner rows

/-- The row an event of the stream is written as has the content of the row the event carries. -/
theorem same_content {crates : Crates} {row rebuilt : RawRow} {frame : SegmentEvent} (carries : Carries crates row frame)
    (records : Records crates frame.audit_event rebuilt) : SameContent row rebuilt := by
  obtain ⟨timestamp_ms, actor, action, agent_id, detail⟩ := records
  exact ⟨timestamp_ms.trans carries.ts, actor.trans carries.actor, action.trans carries.action,
    detail.trans carries.detail, agent_id.trans carries.agent_id⟩

theorem all_same_content {crates : Crates} {inner rebuilt : List RawRow} {frames : List SegmentEvent}
    (carried : List.Forall₂ (Carries crates) inner frames)
    (recorded : List.Forall₂ (Records crates) (frames.map SegmentEvent.audit_event) rebuilt) :
    List.Forall₂ SameContent inner rebuilt := by
  induction carried generalizing rebuilt with
  | nil =>
    cases recorded
    exact .nil
  | @cons row frame inner frames carries _ ih =>
    cases recorded with
    | cons records rest => exact .cons (same_content carries records) (ih rest)

/-- Frames that carry a chain's rows are linked, unless there are none. -/
theorem carried_linkage {crates : Crates} {inner : List RawRow} {frames : List SegmentEvent}
    (carried : List.Forall₂ (Carries crates) inner frames) {first : String}
    (linked : Linked RawRow.prev_hash RawRow.hash (recompute crates) first inner) :
    verify_linkage crates frames = if inner = [] then .error .NoHash else .ok () := by
  cases inner with
  | nil =>
    cases carried
    rfl
  | cons row rest =>
    rw [if_neg (List.cons_ne_nil row rest), verify_linkage_ok_iff]
    refine ⟨fun none_there => ?_, fun frame inside => ?_, first, linked_of_carries carried linked⟩
    · rw [none_there] at carried
      cases carried
    · obtain ⟨_, _, carries⟩ := related_left carried inside
      exact ⟨by rw [carries.hash]; nofun, by rw [carries.prev_hash]; nofun⟩

/-- The stream of a span starts where the row that opened the segment ends. -/
theorem carried_anchor {crates : Crates} {inner : List RawRow} {frames : List SegmentEvent} {done : SegmentDone}
    (carried : List.Forall₂ (Carries crates) inner frames) {first : String}
    (linked : Linked RawRow.prev_hash RawRow.hash (recompute crates) first inner)
    (named : ∀ hash, done.anchor_hash = some hash → hash = first) : (anchor_check done frames).2 = .ok () := by
  rw [anchor_check]
  cases anchor : done.anchor_hash with
  | none => rfl
  | some wanted =>
    cases carried with
    | nil => rfl
    | @cons row frame rows frames carries _ =>
      have continues : frame.prev_hash = some wanted := by
        rw [carries.prev_hash, linked.1, named wanted anchor]
      simp only [List.head?_cons, Option.bind_some, continues, if_true]

section RoundTrip
variable {crates : Crates} {store : AuditStore} {w : World} (span : Span (w.rows store))

/-- What the sender reads of a span of canonical rows. -/
theorem standing_stream_run (canonical : ∀ row ∈ span.inner, Canonical crates row) (segment_id centre : String) :
    ∃ events done, List.Forall₂ (fun row event => row.into_stored crates = .ok event) span.inner events ∧
      standing_stream crates store centre ⟨segment_id, span.opened.id⟩ span.closed.id w =
        (.ok (events.zipIdx.map (segment_frame segment_id centre events.length), done), w) ∧
      done.segment_id = segment_id ∧ done.centre = centre ∧ done.total = events.length ∧
      ∀ hash, done.anchor_hash = some hash → hash = span.opened.hash := by
  have ordered := (w.db store).audit_events.ordered
  obtain ⟨events, decoded⟩ := canonical_decoded canonical
  have read : store.events_in_range crates (span.opened.id + 1) (span.closed.id - 1) w = (.ok events, w) := by
    rw [AuditStore.events_in_range, bind_of_ok (show store.scan w = (.ok (w.rows store), w) from rfl),
      span.filter_inner ordered, decoded_iff.mpr decoded]
    rfl
  have opening : store.events_in_range crates span.opened.id span.opened.id w =
      ([span.opened].mapM (RawRow.into_stored crates), w) := by
    rw [AuditStore.events_in_range, bind_of_ok (show store.scan w = (.ok (w.rows store), w) from rfl),
      span.filter_opened ordered]
    rfl
  have looked : attempt (store.events_in_range crates span.opened.id span.opened.id) w =
      (.ok ([span.opened].mapM (RawRow.into_stored crates)), w) := by
    rw [attempt_run, opening]
  refine ⟨events, _, decoded, (bind_of_ok read).trans ((bind_of_ok rfl).trans (bind_of_ok looked)), rfl, rfl, rfl, ?_⟩
  intro hash named
  cases opened : span.opened.into_stored crates with
  | error error =>
    rw [List.mapM_cons, opened] at named
    cases named
  | ok stored =>
    rw [List.mapM_cons, opened] at named
    cases named
    exact stored_hash opened

/-- The frames of a span carry what their fields can hold. -/
theorem frames_in_range {inner : List RawRow} {events : List StoredEvent} {segment_id centre : String}
    (carried : List.Forall₂ (Carries crates) inner (events.zipIdx.map (segment_frame segment_id centre events.length)))
    (counted : events.length < 2 ^ 64)
    (timed : ∀ row ∈ inner, -9223372036854775808 ≤ row.timestamp_ms ∧ row.timestamp_ms < 9223372036854775808) :
    ∀ frame ∈ events.zipIdx.map (segment_frame segment_id centre events.length),
      frame.InRange ∧ frame.centre = centre ∧ frame.segment_id = segment_id := by
  intro frame inside
  obtain ⟨row, kept, carries⟩ := related_left carried inside
  have place := List.mem_map_of_mem (f := SegmentEvent.index) inside
  rw [frame_indices, List.mem_range] at place
  obtain ⟨entry, _, rfl⟩ := List.mem_map.mp inside
  obtain ⟨low, high⟩ := timed row kept
  rw [← carries.ts] at low high
  exact ⟨⟨place.trans counted, counted, low, high⟩, rfl, rfl⟩

/-- The bodies of frames are read back as the frames. -/
theorem bodies_read {frames : List SegmentEvent} {arrivals : List Arrival} (fits : ∀ frame ∈ frames, frame.InRange)
    (bodies : arrivals.map Arrival.body = frames.map segment_event_body) :
    List.Forall₂ (fun arrival frame => is_segment_event arrival.body = some frame) arrivals frames := by
  induction frames generalizing arrivals with
  | nil =>
    rw [List.map_nil, List.map_eq_nil_iff] at bodies
    subst bodies
    exact .nil
  | cons frame rest ih =>
    obtain ⟨arrival, later, rfl, body, others⟩ := List.map_eq_cons_iff.mp bodies
    refine .cons ?_ (ih (fun other inside => fits other (List.mem_cons_of_mem _ inside)) others)
    rw [body, is_segment_event_body (fits frame List.mem_cons_self)]

/-- What a sender hands over of an intact chain passes the receiver's checks, and is rebuilt with its content. -/
theorem hand_over_round_trip (crates : Crates) (store : AuditStore) (w : World) (chained : Chained crates (w.rows store))
    (span : Span (w.rows store)) (canonical : ∀ row ∈ span.inner, Canonical crates row)
    (counted : span.inner.length < 2 ^ 64)
    (timed : ∀ row ∈ span.inner, -9223372036854775808 ≤ row.timestamp_ms ∧ row.timestamp_ms < 9223372036854775808)
    (segment_id centre : String) :
    ∃ frames done, standing_stream crates store centre ⟨segment_id, span.opened.id⟩ span.closed.id w =
      (.ok (frames, done), w) ∧ HandedOver crates centre segment_id span.inner frames done := by
  obtain ⟨events, done, decoded, read, id, addressed, total, named⟩ := standing_stream_run span canonical segment_id centre
  have carried := frames_carry decoded canonical segment_id centre events.length 0
  have linked : Linked RawRow.prev_hash RawRow.hash (recompute crates) span.opened.hash span.inner := by
    rw [Chained, span.whole, linked_append] at chained
    exact ((linked_append _ _ _).mp chained.2.2.2).1
  rw [decoded.length_eq] at counted
  have fits := frames_in_range carried counted timed
  have places := frame_indices events segment_id centre events.length
  generalize events.zipIdx.map (segment_frame segment_id centre events.length) = frames at *
  have envelope : verify_delivery centre done frames = .ok () := by
    rw [verify_delivery_ok_iff, places, total]
    exact ⟨addressed, .refl _⟩
  have linkage := carried_linkage carried linked
  have anchor := carried_anchor carried linked named
  refine ⟨frames, done, read, ?_, envelope, linkage, anchor, ?_, ?_, ?_⟩
  · intro sink reader arrived arrivals last perm bodies ending fresh
    have read_back := bodies_read (fun frame inside => (fits frame (perm.subset inside)).1) bodies
    refine stream_received sink centre ?_ perm read_back ?_ addressed ⟨?_, ?_⟩ reader (by rw [id, fresh])
    · rw [places]
      exact List.pairwise_lt_range
    · exact fun frame inside => id ▸ (fits frame inside).2
    · rw [ending, is_segment_event_done]
    · rw [ending, is_segment_done_body (total ▸ counted)]
  · refine (verdict_ok_iff (d := ⟨"", done, frames, 0⟩)).mpr ⟨⟨fun _ => ⟨envelope, ?_⟩, anchor⟩, fun _ => rfl⟩
    rw [linkage]
    split_ifs
    · exact .inr rfl
    · exact .inl rfl
  · intro sink sender now v unrefused opened
    obtain ⟨answer, after, ran, _⟩ := rebuild_completes sink ⟨sender, done, frames, now⟩ unrefused opened
    exact ⟨answer, after, ran⟩
  · intro sink sender now v after answer same ran
    have held := rebuild_ok ran
    obtain ⟨rows, shape, recorded⟩ := append_all_rows sink.crates
      (v.db (segment_file sink.audit_dir done.segment_id)).audit_events (frames.map SegmentEvent.audit_event)
    rw [same] at recorded
    refine ⟨rows, ?_, all_same_content carried recorded⟩
    rw [World.rows, World.rows, ← id, held, shape]

end RoundTrip

/-! ### At concrete spans -/

/-- A row of a stand-in. -/
def standing_event : AuditEvent :=
  { timestamp_ms := 5, actor := "host", action := "host.connection.ping", agent_id := none, detail := json [("n", .integer 1)] }

/-- A world whose files hold so many of these rows. -/
def standing_world (count : Nat) : World where
  disk := fun _ => some { AuditDb.empty with
    audit_events := EventTable.empty.append_all provisional_crates (List.replicate count standing_event) }
  clock := []
  appends := []
  updates := []
  opens := []

theorem standing_world_chained (count : Nat) (store : AuditStore) :
    Chained provisional_crates ((standing_world count).rows store) :=
  append_all_chained provisional_crates (show Chained provisional_crates EventTable.empty.rows from trivial) _

/-- The row at a place of such a world. -/
def standing_row (place : Nat) : RawRow :=
  (EventTable.empty.append_all provisional_crates (List.replicate place standing_event)).row_of provisional_crates standing_event

def spanned_row (store : AuditStore) : Span ((standing_world 3).rows store) where
  before := []
  opened := standing_row 0
  inner := [standing_row 1]
  closed := standing_row 2
  after := []
  whole := rfl

def empty_span (store : AuditStore) : Span ((standing_world 2).rows store) where
  before := []
  opened := standing_row 0
  inner := []
  closed := standing_row 1
  after := []
  whole := rfl

theorem row_handed_over : ∃ frames done,
    standing_stream provisional_crates ⟨["data", "audit.db"]⟩ "A" ⟨"seg-7", (standing_row 0).id⟩ (standing_row 2).id
      (standing_world 3) = (.ok (frames, done), standing_world 3) ∧
      HandedOver provisional_crates "A" "seg-7" [standing_row 1] frames done := by
  refine hand_over_round_trip provisional_crates ⟨["data", "audit.db"]⟩ (standing_world 3) (standing_world_chained 3 _)
    (spanned_row _) (fun row inside => ?_) (by decide) (fun row inside => ?_) "seg-7" "A"
  · rw [List.mem_singleton.mp inside]
    exact ⟨standing_event.detail, decode_to_string provisional_crates (plain_json (by simp)) (by decide), rfl⟩
  · rw [List.mem_singleton.mp inside]
    exact ⟨by decide, by decide⟩

/-- A span with no row in it is handed over with no hash, and its linkage is not in order. -/
theorem empty_span_without_hashes : ¬ ∀ (crates : Crates) (store : AuditStore) (w : World), Chained crates (w.rows store) →
    ∀ span : Span (w.rows store), (∀ row ∈ span.inner, Canonical crates row) → ∀ segment_id centre : String,
      ∃ frames done, standing_stream crates store centre ⟨segment_id, span.opened.id⟩ span.closed.id w =
        (.ok (frames, done), w) ∧ verify_delivery centre done frames = .ok () ∧ verify_linkage crates frames = .ok () ∧
          (anchor_check done frames).2 = .ok () := by
  intro passes
  obtain ⟨frames, done, sent, _, linked, _⟩ := passes provisional_crates ⟨["data", "audit.db"]⟩ (standing_world 2)
    (standing_world_chained 2 _) (empty_span _) (fun _ => nofun) "seg-7" "A"
  have none_inside : ∀ row ∈ (empty_span ⟨["data", "audit.db"]⟩).inner, Canonical provisional_crates row := nofun
  obtain ⟨events, _, decoded, read, _⟩ := standing_stream_run (empty_span ⟨["data", "audit.db"]⟩) none_inside "seg-7" "A"
  cases decoded
  rw [read] at sent
  cases sent
  cases linked

end Riscdom.Core
