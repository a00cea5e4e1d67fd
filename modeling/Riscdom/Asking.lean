import Riscdom.RunIndex
import Riscdom.Local
import Riscdom.SandboxQueue
import Riscdom.Signing

/-!
A node's process and its asks for a sandbox change. An ask waits in the queue of
the process; the audit rows of the asks and of the decisions are what the next
process fills its queue from. A decision may also arrive from a peer.
-/
namespace Riscdom.Net
open Riscdom.Json

/-! ### Bodies between peers -/

def is_probe (body : Value) : Bool := speaks "probe" body
def is_alive (body : Value) : Bool := speaks "alive" body

def Report.node_id : Report → String
  | .Unreachable node_id => node_id
  | .Reachable node_id => node_id

def Report.reachable : Report → Bool
  | .Unreachable _ => false
  | .Reachable _ => true

/-- A report, where it is about the centre. -/
def centre_report_from (body : Value) (centre : String) : Option Report :=
  (report_of body).filter fun report => report.node_id == centre

/-- A node announces that it stands in for the centre. -/
structure Takeover where
  centre : String
  by_node : String
  at_ms : Int64

def is_takeover (body : Value) : Option Takeover :=
  if speaks "takeover" body then do
    let centre ← (body.get "centre").bind Value.as_str
    let by_node ← (body.get "by").bind Value.as_str
    let at_ms ← (body.get "at_ms").bind as_i64
    return { centre, by_node, at_ms }
  else none

/-- A decision about an ask of a peer, on its way back to it. -/
structure RequestDecision where
  request_id : String
  decision : String
  decided_by : String
  at_ms : Int64

def request_decision_body (request_id decision decided_by : String) (at_ms : Int) : Value :=
  json [("request_decision", .integer PROTOCOL_VERSION.toNat), ("request_id", .string request_id),
    ("decision", .string decision), ("decided_by", .string decided_by), ("at_ms", .integer at_ms)]

def is_request_decision (body : Value) : Option RequestDecision :=
  if speaks "request_decision" body then do
    let request_id ← (body.get "request_id").bind Value.as_str
    let decision ← (body.get "decision").bind Value.as_str
    let decided_by ← (body.get "decided_by").bind Value.as_str
    let at_ms ← (body.get "at_ms").bind as_i64
    return { request_id, decision, decided_by, at_ms }
  else none

/-- The decision that a verified frame brings: none where the frame is read as something else first. -/
def decision_in (node_id centre : String) (message : SignedMessage) : Option RequestDecision :=
  if message.recipient = node_id ∧ is_probe message.body then none else
  if is_alive message.body then none else
    match centre_report_from message.body centre with
    | some _ => none
    | none => if (is_takeover message.body).isSome then none else is_request_decision message.body

end Riscdom.Net

namespace Riscdom.Core
open Riscdom.Json Riscdom.Audit Riscdom.Net Fallible.Act

/-! ### A process -/

/-- A process of a node: its number, the count of its asks, its queue, the files, and what it sent to peers. -/
structure Host where
  pid : UInt32
  seq : UInt64
  requests : SandboxRequests
  world : World
  sent : List (String × Value)

/-- What a node's processes have in common. -/
structure HostNode where
  crates : Crates
  store : AuditStore
  agent_id : String
  /-- Whether peers are dialled in, so that they can be told. -/
  server_role : Bool

def request_id (pid : UInt32) (seq : UInt64) : String := "req-" ++ toString pid.toNat ++ "-" ++ toString seq.toNat

def ask_detail (request : SandboxRequest) : Value :=
  json [("id", .string request.id), ("action", .string request.action.as_str), ("sandbox", .ofOption request.sandbox)]

def decision_detail (request : SandboxRequest) (decided_by : String) : Value :=
  json [("id", .string request.id), ("action", .string request.action.as_str), ("sandbox", .ofOption request.sandbox),
    ("decided_by", .string decided_by)]

/-- A row written if it can be. -/
def HostNode.record (node : HostNode) (event : AuditEvent) : Audit.Act Unit := do
  let _ ← attempt (node.store.append node.crates event)
  return ()

/-- A row of an act, under the name of the caller or of the node itself. -/
def HostNode.emit_m_action (node : HostNode) (caller : Option String) (action : String) (detail : Value) : Audit.Act Unit := do
  node.record ((AuditEvent.new (← now_ms) "host" action detail).with_agent (caller.getD node.agent_id))

/-- A row of the node's own. -/
def HostNode.emit_host (node : HostNode) (action : String) (detail : Value) : Audit.Act Unit :=
  node.emit_m_action none action detail

namespace Host
variable (node : HostNode) (host : Host)

/-- The process after it read the clock once. -/
def ticked (host : Host) : Host := { host with world := { host.world with clock := host.world.clock.tail } }

/-- What the audit layer does for the process. -/
def audited (host : Host) (x : Audit.Act Unit) : Host := { host with world := (x host.world).2 }

/-- An ask put into the queue, under the next number of the process. -/
def enqueue (requester : String) (action : SandboxAction) (sandbox reason : Option String) : SandboxRequest × Host :=
  let seq := host.seq + 1
  let (request, requests) :=
    host.requests.enqueue (request_id host.pid seq) requester action sandbox reason (host.world.clock.headD 0).toNat
  (request, { host.ticked with seq, requests })

/-- An ask through the control plane: queued, and recorded. -/
def request_sandbox (requester : String) (action : SandboxAction) (sandbox reason : Option String) : SandboxRequest × Host :=
  let (request, asked) := host.enqueue requester action sandbox reason
  (request, asked.audited (node.emit_m_action (some requester) ACTION_REQUEST_ASK (ask_detail request)))

/-- An ask through the agent's tool: queued under the node's name. -/
def tool_request (action : String) (sandbox reason : Option String) : Except String SandboxRequest × Host :=
  match SandboxAction.parse action with
  | none => (.error ("unknown action \"" ++ action ++ "\": expected switch, define or assemble"), host)
  | some action =>
    let (request, asked) := host.enqueue node.agent_id action sandbox reason
    (.ok request, asked)

/-- The node that asked is told of the decision, where it is another one. -/
def tell_asker (request : SandboxRequest) (decision : String) : Host :=
  if request.requester_agent_id = node.agent_id then host else
  if node.server_role then
    let body := request_decision_body request.id decision node.agent_id (host.world.clock.headD 0)
    { host.ticked with sent := host.sent ++ [(request.requester_agent_id, body)] }
  else host

/-- A decision made here: on the queue, on the chain, and told. -/
def decide_sandbox_request (status : SandboxRequestStatus) (action id decided_by : String) :
    Except HostError SandboxRequest × Host :=
  match host.requests.decide id status decided_by (host.world.clock.headD 0).toNat with
  | .error refusal => (.error refusal, host)
  | .ok (request, requests) =>
    let decided := { host.ticked with requests }.audited
      (node.emit_m_action (some decided_by) action (decision_detail request decided_by))
    (.ok request, decided.tell_asker node request status.as_str)

def approve_sandbox_request (id decided_by : String) : Except HostError SandboxRequest × Host :=
  host.decide_sandbox_request node .Approved ACTION_REQUEST_APPROVE id decided_by

def reject_sandbox_request (id decided_by : String) : Except HostError SandboxRequest × Host :=
  host.decide_sandbox_request node .Rejected ACTION_REQUEST_REJECT id decided_by

/-- An ask taken out of the queue; the chain keeps its rows. -/
def delete_sandbox_request (id : String) : Except HostError SandboxRequest × Host :=
  match host.requests.remove id with
  | .error refusal => (.error refusal, host)
  | .ok (request, requests) => (.ok request, { host with requests })

/-- The word of a peer's decision, as a status. -/
def decided_status : String → Option SandboxRequestStatus
  | "approved" => some .Approved
  | "rejected" => some .Rejected
  | _ => none

/-- A decision of a peer on the queue and on the chain; one that is not understood or finds no pending ask is ignored. -/
def decide_request_from_peer (decision : RequestDecision) (now : Int) : Bool × Host :=
  match decided_status decision.decision with
  | none => (false, host)
  | some status =>
    match host.requests.decide decision.request_id status decision.decided_by (host.world.clock.headD 0).toNat with
    | .error _ => (false, host)
    | .ok (request, requests) =>
      let event : AuditEvent := {
        timestamp_ms := now
        actor := "host"
        action := if status = .Approved then ACTION_REQUEST_APPROVE else ACTION_REQUEST_REJECT
        detail := decision_detail request decision.decided_by
        agent_id := some decision.decided_by }
      (true, { host.ticked with requests }.audited (node.record event))

/-- A verified frame of a peer, as far as it is a decision. -/
def receive_frame (node_id centre : String) (message : SignedMessage) (now : Int) : Host :=
  match decision_in node_id centre message with
  | none => host
  | some decision => (host.decide_request_from_peer node decision now).2

/-! ### Its start -/

/-- The events of the chain; none where a row of it cannot be read. -/
def chain_events (crates : Crates) (store : AuditStore) (w : World) : List StoredEvent :=
  match (store.all crates w).1 with
  | .ok events => events
  | .error _ => []

/-- The pending asks of the chain put back into the queue, and a row that tells of it if there was anything to tell. -/
def restore_pending_requests : Host :=
  let restored := SandboxRequests.restore host.requests (derive_requests_from (chain_events node.crates node.store host.world))
  let seeded := { host with requests := restored.requests }
  if restored.restored = 0 ∧ restored.conflicts = [] then seeded
  else seeded.audited (node.emit_host "host.sandbox_request.restore"
    (json [("restored", .integer restored.restored), ("conflicts", .array (restored.conflicts.map .string))]))

/-- A new process over the files. -/
def start (pid : UInt32) (w : World) : Host := restore_pending_requests node ⟨pid, 0, [], w, []⟩

end Host

end Riscdom.Core
