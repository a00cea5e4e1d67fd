import Riscdom.Deliveries
import Riscdom.Local
import Riscdom.Merge
import Riscdom.RunIndex
import Riscdom.SandboxQueue

/-!
The centre's side of a segment that stood in elsewhere: it adopts the segment's
row, writes what was delivered into the segment's own store, checks the delivery,
and merges that store into its chain. The check comes between the two writes.
-/
namespace Riscdom.Core
open Riscdom.Json Riscdom.Audit Riscdom.Net Fallible.Act

def ACTION_CHAIN_VERIFIED : String := "host.audit.chain_verified"
def ACTION_CHAIN_REJECTED : String := "host.audit.chain_rejected"

/-- An optional number as a document: the number, or null. -/
def integer_or_null (n : Option Int) : Value := (n.map Value.integer).getD .null

def chain_verified_detail (segment_id sender : String) (anchor_digest : Option String) (anchor_length : Option Int)
    (events : Nat) (checked linkage anchor : String) : Value :=
  json [("segment_id", .string segment_id), ("from", .string sender), ("anchor_digest", .ofOption anchor_digest),
    ("anchor_length", integer_or_null anchor_length), ("events", .integer events), ("checked", .string checked),
    ("linkage", .string linkage), ("anchor", .string anchor)]

def chain_rejected_detail (segment_id sender : String) (anchor_digest : Option String) (anchor_length : Option Int)
    (events : Nat) (reason checked linkage anchor : String) : Value :=
  json [("segment_id", .string segment_id), ("from", .string sender), ("anchor_digest", .ofOption anchor_digest),
    ("anchor_length", integer_or_null anchor_length), ("events", .integer events), ("reason", .string reason),
    ("checked", .string checked), ("linkage", .string linkage), ("anchor", .string anchor)]

/-- What a centre reads and writes when a segment arrives: its files, its queue of asks, and what it told the server. -/
structure Centre where
  world : World
  requests : SandboxRequests
  told : List KeyEvent

abbrev Receipt (α : Type) : Type := Fallible.Act Centre String α

/-- What the audit layer does, its error as text. -/
def audited {α : Type} (x : Audit.Act α) : Receipt α := fun centre =>
  ((x centre.world).1.mapError AuditError.display, { centre with world := (x centre.world).2 })

/-- The length of an anchor as the store keeps it: none that does not fit. -/
def stored_length (length : Option UInt64) : Option Int :=
  length.bind fun n => if n.toNat < 2 ^ 63 then some (n.toNat : Int) else none

/-- A stream that ended, as it is handed on: its sender, its end frame, its events, and the time. -/
structure Delivery where
  sender : String
  done : SegmentDone
  events : List SegmentEvent
  now : Int

/-- What a node needs to be a centre. The sink of its own rows writes to the same store. -/
structure SegmentSink where
  crates : Crates
  audit_dir : FilePath
  store : AuditStore
  agent_id : String
  /-- Whether there is a session to tell the server by. -/
  client : Bool

/-- How far the checks of a delivery went, and what they came to. -/
structure Verdict where
  checked : String
  linkage : String
  anchor : String
  answer : Except String Unit

/-- The checks of the envelope, of the rebuilt store and of the hashes, in this order. -/
def delivery_verdict (crates : Crates) (this_node : String) (done : SegmentDone) (events : List SegmentEvent)
    (rebuild : Except String Unit) : String × String × Except String Unit :=
  -- A segment whose anchor has no length is older than the checks.
  if done.anchor_length = none then ("skipped", "skipped", .ok ()) else
    match verify_delivery this_node done events with
    | .error problem => ("delivery", "skipped", .error problem.reason)
    | .ok () =>
      match rebuild with
      | .error reason => ("delivery", "skipped", .error reason)
      | .ok () =>
        match verify_linkage crates events with
        | .ok () => ("delivery+chained", "ok", .ok ())
        | .error .NoHash => ("delivery", "skipped", .ok ())
        | .error problem => ("delivery", "broken", .error problem.reason)

/-- The check that the first event continues from the row the segment was opened with. -/
def anchor_check (done : SegmentDone) (events : List SegmentEvent) : String × Except String Unit :=
  match done.anchor_hash with
  | none => ("skipped", .ok ())
  | some wanted =>
    match events.head?.bind SegmentEvent.prev_hash with
    | none => ("skipped", .ok ())
    | some first =>
      if first = wanted then ("ok", .ok ())
      else ("broken", .error "the first delivered event does not continue from the anchor the sender named")

/-- The verdict on a delivery: the first problem is the one that is told. -/
def verdict (crates : Crates) (this_node : String) (done : SegmentDone) (events : List SegmentEvent)
    (rebuild : Except String Unit) : Verdict :=
  let (checked, linkage, delivered) := delivery_verdict crates this_node done events rebuild
  let (anchor, continued) := anchor_check done events
  { checked, linkage, anchor, answer := match delivered with | .error reason => .error reason | .ok () => continued }

namespace SegmentSink
variable (sink : SegmentSink) (d : Delivery)

/-- A row of the node's own. -/
def host_event (now : Int) (action : String) (detail : Value) : AuditEvent :=
  (AuditEvent.new now "host" action detail).with_agent sink.agent_id

/-- A row of the node's own written, if it can be. -/
def record_host_event (action : String) (detail : Value) : Audit.Act Unit := do
  let event := sink.host_event (← now_ms) action detail
  let _ ← attempt (sink.store.append sink.crates event)
  return ()

/-- The events appended one by one to the store of a segment. -/
def append_each (segment : AuditStore) : List SegmentEvent → Audit.Act Unit
  | [] => return ()
  | event :: rest => do
    let _ ← segment.append sink.crates event.audit_event
    append_each segment rest

/-- The delivered events written into the segment's own store, and what that store then shows. -/
def rebuild : Audit.Act (Except String Unit) := do
  let segment ← AuditStore.open_segment_store sink.audit_dir d.done.segment_id
  sink.append_each segment d.events
  match ← attempt (verify_chain sink.crates segment) with
  | .ok (.Intact _) => return .ok ()
  | .ok (.Broken at_id reason) =>
    return .error ("the rebuilt segment is broken at " ++ toString at_id ++ ": " ++ reason)
  | .error error => return .error ("the rebuilt segment could not be verified: " ++ error.display)

/-- The rows from an id on, the oldest so many of them, decoded. -/
def list_from (from_id : Int) (limit : Nat) : Audit.Act (List StoredEvent) := do
  let rows ← sink.store.scan
  ofExcept (((rows.filter fun row => from_id ≤ row.id).take limit).mapM (RawRow.into_stored sink.crates))

/-- The merge, and the rows it transcribed, read before any other row is written. -/
def merge_delivered : Audit.Act (MergeOutcome × List StoredEvent) := do
  let before ← get fun w => (w.rows sink.store).length
  let outcome ← sink.store.merge_segment sink.crates sink.audit_dir d.done.segment_id
  match outcome with
  | .Folded merged =>
    if 0 < merged then return (outcome, ← sink.list_from (before + 1) merged) else return (outcome, [])
  | .Forked _ => return (outcome, [])

/-- What a merge came to, in words; the server hears of a fork at once. -/
def tell_outcome (outcome : MergeOutcome) : Receipt String := do
  match outcome with
  | .Folded merged => return "folded " ++ toString merged
  | .Forked reason =>
    if sink.client then
      modify fun centre =>
        { centre with
          told := centre.told ++ [{
            at_ms := .ofInt d.now
            action := "host.audit.segment_forked"
            detail := json [("segment_id", .string d.done.segment_id), ("from", .string d.sender),
              ("reason", .string reason)] }] }
    return "forked: " ++ reason

/-- The asks among the transcribed rows put into the queue, and a row that tells of it if there was anything to tell. -/
def restore_transcribed (transcribed : List StoredEvent) : Receipt Unit := do
  if transcribed ≠ [] then
    let restored ← get fun centre => SandboxRequests.restore centre.requests (derive_requests_from transcribed)
    modify fun centre => { centre with requests := restored.requests }
    if 0 < restored.restored ∨ restored.conflicts ≠ [] then
      audited (sink.record_host_event "host.sandbox_request.restore"
        (json [("restored", .integer restored.restored), ("conflicts", .array (restored.conflicts.map .string))]))

/-- What follows a merge: its outcome is told, its asks are taken in, and a row records it. -/
def conclude (outcome : MergeOutcome) (transcribed : List StoredEvent) : Receipt (Option MergeOutcome) := do
  let said ← sink.tell_outcome d outcome
  sink.restore_transcribed transcribed
  audited (sink.record_host_event "host.connection.segment_rebuilt"
    (json [("segment_id", .string d.done.segment_id), ("from", .string d.sender), ("events", .integer d.events.length),
      ("outcome", .string said), ("at_ms", .integer d.now)]))
  return some outcome

/-- What follows a verdict that found no problem. -/
def fold_delivered : Receipt (Option MergeOutcome) := do
  let (outcome, transcribed) ← audited (sink.merge_delivered d)
  sink.conclude d outcome transcribed

/-- What is done with a delivery: what its merge came to, or none where the delivery was rejected. -/
def received (this_node : String) : Receipt (Option MergeOutcome) := do
  audited (sink.store.adopt_segment d.done.segment_id d.done.head_prev_chain (stored_length d.done.anchor_length))
  let rebuild ← audited (sink.rebuild d)
  let v := verdict sink.crates this_node d.done d.events rebuild
  let anchor_length := stored_length d.done.anchor_length
  match v.answer with
  | .error reason =>
    audited (sink.record_host_event ACTION_CHAIN_REJECTED (chain_rejected_detail d.done.segment_id d.sender
      d.done.head_prev_chain anchor_length d.events.length reason v.checked v.linkage v.anchor))
    return none
  | .ok () =>
    audited (sink.record_host_event ACTION_CHAIN_VERIFIED (chain_verified_detail d.done.segment_id d.sender
      d.done.head_prev_chain anchor_length d.events.length v.checked v.linkage v.anchor))
    sink.fold_delivered d

/-- The source answers nothing but a failure. -/
def receive_segment (this_node : String) : Receipt Unit := do
  let _ ← sink.received d this_node
  return ()

end SegmentSink

end Riscdom.Core
