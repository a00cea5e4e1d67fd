import Riscdom.Receiving

/-!
The stream of a closed segment: what its sender cuts out of its chain, the bodies
it travels as, and the reader that gathers the events until the end frame comes.
-/
namespace Riscdom.Net
open Riscdom.Json Riscdom.Audit

/-! ### Bodies -/

def segment_event_body (event : SegmentEvent) : Value :=
  json [("segment_event", .integer PROTOCOL_VERSION.toNat), ("segment_id", .string event.segment_id),
    ("centre", .string event.centre), ("index", .integer event.index), ("total", .integer event.total),
    ("ts", .integer event.ts), ("actor", .string event.actor), ("action", .string event.action),
    ("agent_id", .ofOption event.agent_id), ("detail", event.detail), ("hash", .ofOption event.hash),
    ("prev_hash", .ofOption event.prev_hash)]

def is_segment_event (body : Value) : Option SegmentEvent :=
  if speaks "segment_event" body then do
    let segment_id ← (body.get "segment_id").bind Value.as_str
    let centre ← (body.get "centre").bind Value.as_str
    let index ← (body.get "index").bind as_u64
    let total ← (body.get "total").bind as_u64
    let ts ← (body.get "ts").bind as_i64
    let actor ← (body.get "actor").bind Value.as_str
    let action ← (body.get "action").bind Value.as_str
    let detail ← body.get "detail"
    return { segment_id, centre, index, total, ts := ts.toInt, actor, action, detail
             agent_id := (body.get "agent_id").bind Value.as_str
             hash := (body.get "hash").bind Value.as_str
             prev_hash := (body.get "prev_hash").bind Value.as_str }
  else none

def segment_done_body (done : SegmentDone) : Value :=
  json [("segment_done", .integer PROTOCOL_VERSION.toNat), ("segment_id", .string done.segment_id),
    ("centre", .string done.centre), ("total", .integer done.total), ("head_prev_chain", .ofOption done.head_prev_chain),
    ("anchor_digest", .ofOption done.head_prev_chain),
    ("anchor_length", (done.anchor_length.map fun length => Value.integer length.toNat).getD .null),
    ("anchor_hash", .ofOption done.anchor_hash)]

/-- The anchor's digest is read under either of its names. -/
def is_segment_done (body : Value) : Option SegmentDone :=
  if speaks "segment_done" body then do
    let segment_id ← (body.get "segment_id").bind Value.as_str
    let centre ← (body.get "centre").bind Value.as_str
    let total ← (body.get "total").bind as_u64
    return { segment_id, centre, total
             head_prev_chain := ((body.get "anchor_digest").bind Value.as_str).or
               ((body.get "head_prev_chain").bind Value.as_str)
             anchor_length := ((body.get "anchor_length").bind as_u64).map UInt64.ofNat
             anchor_hash := (body.get "anchor_hash").bind Value.as_str }
  else none

/-- The numbers of an event are those its fields can hold. -/
def SegmentEvent.InRange (event : SegmentEvent) : Prop :=
  event.index < 2 ^ 64 ∧ event.total < 2 ^ 64 ∧ -9223372036854775808 ≤ event.ts ∧ event.ts < 9223372036854775808

theorem is_segment_event_body {event : SegmentEvent} (fits : event.InRange) :
    is_segment_event (segment_event_body event) = some event := by
  obtain ⟨index, total, low, high⟩ := fits
  have get (key : String) : (segment_event_body event).get key = _ := get_json key _
  have version := u64_at (get "segment_event") (n := PROTOCOL_VERSION.toNat) (by decide)
  have index := u64_at (get "index") index
  have total := u64_at (get "total") total
  obtain ⟨ts, time, same⟩ := i64_at (get "ts") low high
  have segment_id : (segment_event_body event).get "segment_id" = some (.string event.segment_id) := get _
  have centre : (segment_event_body event).get "centre" = some (.string event.centre) := get _
  have actor : (segment_event_body event).get "actor" = some (.string event.actor) := get _
  have action : (segment_event_body event).get "action" = some (.string event.action) := get _
  have detail : (segment_event_body event).get "detail" = some event.detail := get _
  have agent_id : (segment_event_body event).get "agent_id" = some (.ofOption event.agent_id) := get _
  have hash : (segment_event_body event).get "hash" = some (.ofOption event.hash) := get _
  have prev_hash : (segment_event_body event).get "prev_hash" = some (.ofOption event.prev_hash) := get _
  have spoken : speaks "segment_event" (segment_event_body event) = true := by rw [speaks, version, beq_self_eq_true]
  simp only [is_segment_event, spoken, if_true, index, total, time, same, segment_id, centre, actor, action, detail,
    agent_id, hash, prev_hash, Option.bind_some, as_str_string, as_str_ofOption, Option.bind_eq_bind]
  rfl

theorem is_segment_done_body {done : SegmentDone} (fits : done.total < 2 ^ 64) :
    is_segment_done (segment_done_body done) = some done := by
  have get (key : String) : (segment_done_body done).get key = _ := get_json key _
  have version := u64_at (get "segment_done") (n := PROTOCOL_VERSION.toNat) (by decide)
  have total := u64_at (get "total") fits
  have segment_id : (segment_done_body done).get "segment_id" = some (.string done.segment_id) := get _
  have centre : (segment_done_body done).get "centre" = some (.string done.centre) := get _
  have digest : (segment_done_body done).get "anchor_digest" = some (.ofOption done.head_prev_chain) := get _
  have chain : (segment_done_body done).get "head_prev_chain" = some (.ofOption done.head_prev_chain) := get _
  have anchor_hash : (segment_done_body done).get "anchor_hash" = some (.ofOption done.anchor_hash) := get _
  have length : ((segment_done_body done).get "anchor_length").bind as_u64 = done.anchor_length.map UInt64.toNat := by
    have read := get "anchor_length"
    cases given : done.anchor_length with
    | none =>
      rw [given] at read
      rw [read]
      rfl
    | some length =>
      rw [given] at read
      rw [u64_at read length.toNat_lt, Option.map_some]
  have back : (done.anchor_length.map UInt64.toNat).map UInt64.ofNat = done.anchor_length := by
    cases done.anchor_length with
    | none => rfl
    | some length => rw [Option.map_some, Option.map_some, UInt64.ofNat_toNat]
  have spoken : speaks "segment_done" (segment_done_body done) = true := by rw [speaks, version, beq_self_eq_true]
  simp only [is_segment_done, spoken, if_true, total, segment_id, centre, digest, chain, length, back, anchor_hash,
    Option.bind_some, as_str_string, as_str_ofOption, Option.bind_eq_bind, Option.or_self]
  rfl

/-- The end of a stream is no event of one. -/
theorem is_segment_event_done (done : SegmentDone) : is_segment_event (segment_done_body done) = none := by
  simp [is_segment_event, segment_done_body, speaks, get_json, lookup]

end Riscdom.Net

namespace Riscdom.Audit

/-- The events between two ids, both included; none where the range is empty or inverted. -/
def AuditStore.events_in_range (crates : Crates) (store : AuditStore) (start_id end_id : Int) : Act (List StoredEvent) := do
  let rows ← store.scan
  Fallible.Act.ofExcept ((rows.filter fun row => start_id ≤ row.id ∧ row.id ≤ end_id).mapM (RawRow.into_stored crates))

end Riscdom.Audit

namespace Riscdom.Core
open Riscdom.Json Riscdom.Audit Riscdom.Net Fallible.Act

/-! ### The sender -/

/-- A length as the wire carries it: none that is no count. -/
def wire_length (length : Option Int) : Option UInt64 :=
  length.bind fun n => if 0 ≤ n ∧ n < 2 ^ 64 then some (.ofNat n.toNat) else none

/-- The frame of one event: what its row says, with the hashes of the row. -/
def segment_frame (segment_id centre : String) (total : Nat) (entry : StoredEvent × Nat) : SegmentEvent :=
  let (stored, index) := entry
  { segment_id, centre, index, total, ts := stored.event.timestamp_ms, actor := stored.event.actor,
    action := stored.event.action, agent_id := stored.event.agent_id, detail := stored.event.detail,
    hash := some stored.hash, prev_hash := some stored.prev_hash }

/-- The stream of a closed segment: a frame for each event, and the end. -/
def segment_frames (events : List StoredEvent) (segment_id centre : String) (head_prev_chain : Option String)
    (head_prev_length : Option Int) (anchor_hash : Option String) : List SegmentEvent × SegmentDone :=
  (events.zipIdx.map (segment_frame segment_id centre events.length),
   { segment_id, centre, total := events.length, head_prev_chain, anchor_length := wire_length head_prev_length, anchor_hash })

/-- The segment a node opened to stand in, and the id of the row it was opened with. -/
structure StandingSegment where
  id : String
  opened_id : Int
deriving DecidableEq

/-- What the end of a stand-in hands to the centre: the rows between the opening row and the closing row. -/
def standing_stream (crates : Crates) (store : AuditStore) (centre : String) (standing : StandingSegment) (closed_id : Int) :
    Audit.Act (List SegmentEvent × SegmentDone) := do
  let events ← store.events_in_range crates (standing.opened_id + 1) (closed_id - 1)
  let row ← store.segment standing.id
  let opened ← attempt (store.events_in_range crates standing.opened_id standing.opened_id)
  return segment_frames events standing.id centre (row.bind Segment.head_prev_chain) (row.bind Segment.head_prev_length)
    ((opened.toOption.bind List.getLast?).map StoredEvent.hash)

/-! ### The reader -/

/-- The events of the streams that are arriving, by segment. -/
abbrev Inbox : Type := String → List SegmentEvent

def Inbox.push (inbox : Inbox) (event : SegmentEvent) : Inbox :=
  Function.update inbox event.segment_id (inbox event.segment_id ++ [event])

/-- The events of a segment in the order of their places, and the inbox without them. -/
def Inbox.take (inbox : Inbox) (segment_id : String) : List SegmentEvent × Inbox :=
  ((inbox segment_id).insertionSort fun a b => a.index ≤ b.index, Function.update inbox segment_id [])

/-- A frame whose sender was verified, and the time of its arrival. -/
structure Arrival where
  sender : String
  body : Value
  now : Int

/-- A reader of a session at a node that is a centre. -/
structure Reader where
  inbox : Inbox
  centre : Centre

/-- What the reader does with a frame of a segment's stream that is addressed to its node. -/
def Reader.arrive (sink : SegmentSink) (node_id : String) (reader : Reader) (arrival : Arrival) : Reader :=
  match is_segment_event arrival.body with
  | some event => if event.centre = node_id then { reader with inbox := reader.inbox.push event } else reader
  | none =>
    match is_segment_done arrival.body with
    | some done =>
      if done.centre = node_id then
        let (events, inbox) := reader.inbox.take done.segment_id
        let delivery : Delivery := { sender := arrival.sender, done, events, now := arrival.now }
        { inbox, centre := (sink.receive_segment delivery node_id reader.centre).2 }
      else reader
    | none => reader

end Riscdom.Core
