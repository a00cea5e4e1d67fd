import Riscdom.PeerDecisions
import Riscdom.QueueDeliveries
import Riscdom.Route

/-!
A decision's way back to the node that asked. The asks of a node's segment are
queued at the centre under the identity that their rows name; a decision there is
handed down the session of that identity, and sessions are kept by node.
-/
namespace Riscdom.Core
open Riscdom.Json Riscdom.Audit Riscdom.Net Riscdom.Machine Fallible.Act

/-- The one place an identity's text is built. -/
def mint (device : String) (pid : UInt32) (seq : UInt64) : String :=
  device ++ "-" ++ toString pid.toNat ++ "-" ++ toString seq.toNat

/-- An identity is longer than the name of its device. -/
theorem mint_ne (device : String) (pid : UInt32) (seq : UInt64) : mint device pid seq ≠ device := by
  intro same
  have lengths := congrArg String.length same
  have dash : "-".length = 1 := rfl
  simp only [mint, String.length_append, dash] at lengths
  omega

/-! ### The centre, with its server -/

/-- A frame of the server's own: whose session it is for, what it says, and what went to which socket. -/
structure Push where
  node_id : String
  message : SignedMessage
  handed : List (Nat × String)

/-- A centre's process, what it told the server, the sessions there, and the frames pushed down them. -/
structure Answering where
  host : Host
  told : List KeyEvent
  sessions : Sessions
  pushed : List Push

/-- How a decision is made: which one, by whom, and what the clock and the socket do meanwhile. -/
structure Ruling where
  approve : Bool
  decided_by : String
  now : Int64
  write_all : Except String Unit

/-- What a centre answers with: its sink, its name, whether it serves, and the server's signature and line format. -/
structure Answerer where
  sink : SegmentSink
  this_node : String
  serves : Bool
  sign : String → String
  to_line : SignedMessage → String

/-- A segment arrives, an ask is left, decided or deleted, a peer's decision comes in, a session begins or ends. -/
inductive AnswerAct
  | Arrive (d : Delivery)
  | Ask (requester : String) (action : SandboxAction) (sandbox reason : Option String)
  | ToolAsk (action : String) (sandbox reason : Option String)
  | Decide (id : String) (ruling : Ruling)
  | Delete (id : String)
  | Hear (centre : String) (message : SignedMessage) (now : Int)
  | Dial (node_id : String) (live : Live)
  | HangUp (node_id : String)

def Ruling.status (ruling : Ruling) : SandboxRequestStatus := if ruling.approve then .Approved else .Rejected

namespace Answerer
variable (a : Answerer)

def node : HostNode := ⟨a.sink.crates, a.sink.store, a.sink.agent_id, a.serves⟩

/-- A body signed as the server. -/
def signed (node_id : String) (ts : Int64) (body : Value) : SignedMessage :=
  let unsigned : SignedMessage := ⟨PROTOCOL_VERSION, a.this_node, node_id, ts, body, ""⟩
  { unsigned with sig := a.sign (canonical_json a.sink.crates unsigned.preamble) }

/-- A body signed and handed down a node's session. -/
def send_to (sessions : Sessions) (write_all : Except String Unit) (node_id : String) (ts : Int64) (body : Value) :
    Except RelayError Unit × Push :=
  let message := a.signed node_id ts body
  let (result, handed) := forward_to sessions write_all node_id (a.to_line message)
  (result, ⟨node_id, message, handed⟩)

def decide (host : Host) (id : String) (ruling : Ruling) : Except HostError SandboxRequest × Host :=
  if ruling.approve then host.approve_sandbox_request a.node id ruling.decided_by
  else host.reject_sandbox_request a.node id ruling.decided_by

/-- What the process had to say to nodes, said by its server. -/
def pushes (s : Answering) (ruling : Ruling) (after : Host) : List Push :=
  (after.sent.drop s.host.sent.length).map fun (node_id, body) =>
    (a.send_to s.sessions ruling.write_all node_id ruling.now body).2

def step (s : Answering) : AnswerAct → Answering
  | .Arrive d =>
    let c := (a.sink.receive_segment d a.this_node ⟨s.host.world, s.host.requests, s.told⟩).2
    { s with host := { s.host with world := c.world, requests := c.requests }, told := c.told }
  | .Ask requester action sandbox reason =>
    { s with host := (s.host.request_sandbox a.node requester action sandbox reason).2 }
  | .ToolAsk action sandbox reason => { s with host := (s.host.tool_request a.node action sandbox reason).2 }
  | .Decide id ruling =>
    let after := (a.decide s.host id ruling).2
    { s with host := after, pushed := s.pushed ++ a.pushes s ruling after }
  | .Delete id => { s with host := (s.host.delete_sandbox_request id).2 }
  | .Hear centre message now => { s with host := s.host.receive_frame a.node a.this_node centre message now }
  | .Dial node_id live => { s with sessions := Function.update s.sessions node_id (some live) }
  | .HangUp node_id => { s with sessions := Function.update s.sessions node_id none }

/-- A node holds a session at the centre. -/
def Holds (s : Answering) (node_id : String) (live : Live) : Prop := a.serves = true ∧ s.sessions node_id = some live

/-- A decision about an ask goes down a node's session. -/
def Reaches (s : Answering) (id : String) (ruling : Ruling) (node_id : String) : Prop :=
  ∃ push ∈ (a.step s (.Decide id ruling)).pushed.drop s.pushed.length, ∃ live at_ms, push.node_id = node_id ∧
    s.sessions node_id = some live ∧
    push.message.body = request_decision_body id ruling.status.as_str a.sink.agent_id at_ms ∧
    push.handed = [(live.writer, frame_bytes (a.to_line push.message))]

/-- A decision about an ask goes down no session. -/
def Silently (s : Answering) (id : String) (ruling : Ruling) : Prop :=
  ∀ push ∈ (a.step s (.Decide id ruling)).pushed.drop s.pushed.length, push.handed = []

end Answerer

/-! ### Who asked -/

namespace SandboxRequests

/-- The identity that the ask under an id was left by. -/
def asker (requests : SandboxRequests) (id : String) : Option String :=
  (requests.find? fun request => request.id == id).map SandboxRequest.requester_agent_id

variable {requests after : SandboxRequests} {id requester : String}

theorem asker_append (there : requests.asker id = some requester) (more : SandboxRequests) :
    asker (requests ++ more) id = some requester := by
  obtain ⟨request, found, rfl⟩ := Option.map_eq_some_iff.mp there
  rw [asker, List.find?_append, found]
  rfl

/-- An ask rewritten in its place under its own id and asker. -/
theorem asker_rewritten {before behind : SandboxRequests} {old request : SandboxRequest} (named : request.id = old.id)
    (same : request.requester_agent_id = old.requester_agent_id) (id : String) :
    asker (before ++ request :: behind) id = asker (before ++ old :: behind) id := by
  rw [asker, asker, List.find?_append, List.find?_append, List.find?_cons, List.find?_cons, named]
  cases before.find? fun other => other.id == id with
  | some other => rfl
  | none =>
    cases old.id == id with
    | true => exact congrArg some same
    | false => rfl

/-- A decision leaves the asker of every ask. -/
theorem asker_decide {other decider : String} {status : SandboxRequestStatus} {now : Nat} {request : SandboxRequest}
    (decided : requests.decide other status decider now = .ok (request, after)) (id : String) :
    asker after id = requests.asker id := by
  obtain ⟨old, found, _, rfl, rfl⟩ := decide_ok decided
  obtain ⟨before, behind, rfl, rewritten⟩ := rewrite_first_split _ found
  rw [rewritten]
  refine @asker_rewritten before behind old _ ?_ ?_ id <;> rfl

/-- The ask that a decision is on is the one that the asker is of. -/
theorem asker_of_decide {decider : String} {status : SandboxRequestStatus} {now : Nat} {request : SandboxRequest}
    (decided : requests.decide id status decider now = .ok (request, after)) :
    requests.asker id = some request.requester_agent_id := by
  obtain ⟨old, found, _, rfl, rfl⟩ := decide_ok decided
  rw [asker, found]
  rfl

theorem asker_remove {other : String} {request : SandboxRequest} (apart : id ≠ other)
    (removed : requests.remove other = .ok (request, after)) : asker after id = requests.asker id := by
  unfold remove at removed
  cases found : requests.find? fun request => request.id == other with
  | none => rw [found] at removed; cases removed
  | some old =>
    rw [found] at removed
    obtain ⟨rfl, rfl⟩ := Prod.mk.inj (Except.ok.inj removed)
    clear removed found
    induction requests with
    | nil => rfl
    | cons first rest ih =>
      rw [List.eraseP_cons]
      cases here : first.id == other with
      | true =>
        have differs : (first.id == id) = false := by
          rw [beq_iff_eq] at here
          simpa [here] using fun same => apart same.symm
        simp only [cond_true, asker, List.find?_cons, differs]
      | false =>
        simp only [cond_false, asker, List.find?_cons] at ih ⊢
        cases first.id == id with
        | true => rfl
        | false => exact ih

/-- The undecided records that come back do so under the askers they name. -/
theorem asker_restore {derived : List ReconciledRequest} (once : (record_ids derived).Nodup)
    (new : id ∉ request_ids requests) (there : id ∈ request_ids (requests.restore derived).requests) :
    ∃ record ∈ derived, record.id = id ∧
      asker (requests.restore derived).requests id = some record.requester_agent_id := by
  rw [restore_requests requests once] at there ⊢
  have absent : requests.find? (fun request => request.id == id) = none := by
    rw [List.find?_eq_none]
    intro request inside same
    exact new (List.mem_map.mpr ⟨request, inside, by simpa using same⟩)
  have back : ∃ request ∈ (derived.filter fun record => record.status = .Pending ∧ record.id ∉ request_ids requests).map
      SandboxRequest.restored, request.id = id := by
    rw [request_ids, List.map_append, List.mem_append] at there
    rcases there with before | back
    · exact absurd before new
    · simpa using List.mem_map.mp back
  cases found : ((derived.filter fun record => record.status = .Pending ∧ record.id ∉ request_ids requests).map
      SandboxRequest.restored).find? (fun request => request.id == id) with
  | none =>
    obtain ⟨request, inside, same⟩ := back
    exact absurd (beq_iff_eq.mpr same) (List.find?_eq_none.mp found request inside)
  | some request =>
    have named : request.id = id := by simpa using List.find?_some found
    obtain ⟨record, inside, rfl⟩ := List.mem_map.mp (List.mem_of_find?_eq_some found)
    refine ⟨record, List.mem_of_mem_filter inside, named, ?_⟩
    rw [asker, List.find?_append, absent, found]
    rfl

end SandboxRequests

/-! ### What a segment brings -/

/-- A chain has the row of an ask, and the row names who left it. -/
def AskedBy (sink : SegmentSink) (w : World) (id requester : String) : Prop :=
  ∃ row ∈ w.rows sink.store, ∃ stored, row.into_stored sink.crates = .ok stored ∧
    stored.event.action = ACTION_REQUEST_ASK ∧ text_at "id" stored.event.detail = some id ∧
    stored.event.agent_id.getD "" = requester

/-- A record is of a row that asks under its id, and names the identity of that row. -/
theorem derive_asker {events : List StoredEvent} {record : ReconciledRequest}
    (derived : record ∈ derive_requests_from events) :
    ∃ stored ∈ events, stored.event.action = ACTION_REQUEST_ASK ∧ text_at "id" stored.event.detail = some record.id ∧
      stored.event.agent_id.getD "" = record.requester_agent_id := by
  induction events using List.reverseRecOn generalizing record with
  | nil => cases derived
  | append_singleton events stored ih =>
    have earlier {other : ReconciledRequest} (there : other ∈ derive_requests_from events)
        (named : other.id = record.id) (left : other.requester_agent_id = record.requester_agent_id) :
        ∃ asking ∈ events ++ [stored], asking.event.action = ACTION_REQUEST_ASK ∧
          text_at "id" asking.event.detail = some record.id ∧ asking.event.agent_id.getD "" = record.requester_agent_id := by
      obtain ⟨asking, inside, asks, name, agent⟩ := ih there
      exact ⟨asking, List.mem_append_left _ inside, asks, named ▸ name, left ▸ agent⟩
    rw [derive_requests_from, List.foldl_append] at derived
    change record ∈ derive_request (derive_requests_from events) stored at derived
    unfold derive_request at derived
    cases name : text_at "id" stored.event.detail with
    | none => exact earlier (by simpa [name] using derived) rfl rfl
    | some id =>
      simp only [name] at derived
      split_ifs at derived with asks known decides
      · exact earlier derived rfl rfl
      · cases parsed : (text_at "action" stored.event.detail).bind SandboxAction.parse with
        | none => exact earlier (by simpa [parsed] using derived) rfl rfl
        | some action =>
          rw [parsed] at derived
          rcases List.mem_append.mp derived with before | last
          · exact earlier before rfl rfl
          · obtain rfl := List.mem_singleton.mp last
            exact ⟨stored, List.mem_append_right _ List.mem_cons_self, asks, name, rfl⟩
      · let named (other : ReconciledRequest) : String × String := (other.id, other.requester_agent_id)
        have decided (other : ReconciledRequest) : named (.decided stored other) = named other := by
          unfold ReconciledRequest.decided
          split_ifs <;> rfl
        have kept : named record ∈ (derive_requests_from events).map named := by
          rw [← map_rewrite_first named fun other _ _ => decided other]
          exact List.mem_map_of_mem derived
        obtain ⟨other, there, equal⟩ := List.mem_map.mp kept
        exact earlier there (Prod.mk.inj equal).1 (Prod.mk.inj equal).2
      · exact earlier derived rfl rfl

section Arrival
variable (sink : SegmentSink) (d : Delivery)

/-- The rows that a merge hands on are read from the chain it leaves. -/
theorem merge_delivered_reads (w : World) : EndsIn (sink.merge_delivered d) w fun result after =>
    ∀ outcome slice, result = .ok (outcome, slice) → ∀ stored ∈ slice,
      ∃ row ∈ after.rows sink.store, row.into_stored sink.crates = .ok stored := by
  rw [EndsIn, SegmentSink.merge_delivered, bind_of_ok (get_run _ _), bind_run]
  rcases sink.store.merge_segment sink.crates sink.audit_dir d.done.segment_id w with ⟨error | (count | reason), after⟩
  · rintro outcome slice ⟨⟩
  · simp only
    split_ifs with any
    · rw [bind_run, list_from_run]
      cases read : (((after.rows sink.store).filter fun row =>
          ((w.rows sink.store).length + 1 : Int) ≤ row.id).take count).mapM (RawRow.into_stored sink.crates) with
      | error error => rintro outcome slice ⟨⟩
      | ok transcribed =>
        rintro outcome slice ⟨⟩ stored inside
        obtain ⟨row, there, decoded⟩ := related_left (decoded_iff.mp read) inside
        exact ⟨row, List.mem_of_mem_filter (List.mem_of_mem_take there), decoded⟩
    · rintro outcome slice ⟨⟩ stored inside
      cases inside
  · rintro outcome slice ⟨⟩ stored inside
    cases inside

/-- What a delivery does to the queue: asks of rows that are then on the chain are put behind it. -/
theorem received_asks (this_node : String) (c : Centre) : EndsIn (sink.received d this_node) c fun _ after =>
    ∃ slice, after.requests = (c.requests.restore (derive_requests_from slice)).requests ∧
      ∀ stored ∈ slice, ∃ row ∈ after.world.rows sink.store, row.into_stored sink.crates = .ok stored := by
  have nothing {v : Centre} (same : v.requests = c.requests) :
      ∃ slice, v.requests = (c.requests.restore (derive_requests_from slice)).requests ∧
        ∀ stored ∈ slice, ∃ row ∈ v.world.rows sink.store, row.into_stored sink.crates = .ok stored :=
    ⟨[], same, by simp⟩
  refine ends_bind (fun _ (v : Centre) => v.requests = c.requests) rfl (fun _ _ same => nothing same) ?_
  rintro _ adopted same
  refine ends_bind (fun _ (v : Centre) => v.requests = c.requests) same (fun _ _ same => nothing same) ?_
  rintro rebuild rebuilt same
  simp only
  cases (verdict sink.crates this_node d.done d.events rebuild).answer with
  | error reason =>
    refine ends_bind (fun _ (v : Centre) => v.requests = c.requests) same (fun _ _ same => nothing same) ?_
    exact fun _ _ same => nothing same
  | ok _ =>
    refine ends_bind (fun _ (v : Centre) => v.requests = c.requests) same (fun _ _ same => nothing same) ?_
    rintro _ verified same
    have reads := merge_delivered_reads sink d verified.world
    refine ends_bind (fun result (v : Centre) => v.requests = c.requests ∧ ∀ outcome slice, result = .ok (outcome, slice) →
      ∀ stored ∈ slice, ∃ row ∈ v.world.rows sink.store, row.into_stored sink.crates = .ok stored) ⟨same, ?_⟩
      (fun _ _ both => nothing both.1) ?_
    · intro outcome slice result
      refine reads outcome slice ?_
      revert result
      simp only [audited]
      cases (sink.merge_delivered d verified.world).1 with
      | error error => rintro ⟨⟩
      | ok answered => exact fun same => congrArg _ (Except.ok.inj same)
    · rintro ⟨outcome, slice⟩ merged ⟨same, reads⟩
      obtain ⟨last, concluded, told, queue⟩ := conclude_run sink d sink.store outcome slice merged
      rw [EndsIn]
      simp only [concluded]
      refine ⟨slice, by rw [queue, same], fun stored inside => ?_⟩
      obtain ⟨row, there, decoded⟩ := reads outcome slice rfl stored inside
      obtain ⟨own, grown, _⟩ := told.grows.rows
      exact ⟨row, grown ▸ List.mem_append_left _ there, decoded⟩

end Arrival

/-! ### One step -/

/-- An asker that is another node is told, by a node that serves. -/
theorem tell_asker_sent (node : HostNode) (host : Host) (request : SandboxRequest) (decision : String) :
    (host.tell_asker node request decision).sent = host.sent ++
      if request.requester_agent_id ≠ node.agent_id ∧ node.server_role = true then
        [(request.requester_agent_id, request_decision_body request.id decision node.agent_id (host.world.clock.headD 0))]
      else [] := by
  rw [Host.tell_asker]
  by_cases own : request.requester_agent_id = node.agent_id
  · rw [if_pos own, if_neg fun both => both.1 own, List.append_nil]
  · rw [if_neg own]
    by_cases serves : node.server_role = true
    · rw [if_pos serves, if_pos ⟨own, serves⟩]
    · rw [if_neg serves, if_neg fun both => serves both.2, List.append_nil]

/-- What a decision does to the process: nothing where it is refused; otherwise the ask is decided, and its asker told
    where that is not the node itself and there is a server to tell by. -/
theorem decide_sandbox_request_cases (node : HostNode) (host : Host) (status : SandboxRequestStatus) (action id decided_by : String) :
    (∃ refusal, host.decide_sandbox_request node status action id decided_by = (.error refusal, host)) ∨
      ∃ request requests at_ms after, host.decide_sandbox_request node status action id decided_by = (.ok request, after) ∧
        host.requests.decide id status decided_by (host.world.clock.headD 0).toNat = .ok (request, requests) ∧
        after.requests = requests ∧
        after.sent = host.sent ++ if request.requester_agent_id ≠ node.agent_id ∧ node.server_role = true then
          [(request.requester_agent_id, request_decision_body request.id status.as_str node.agent_id at_ms)] else [] := by
  unfold Host.decide_sandbox_request
  cases decided : host.requests.decide id status decided_by (host.world.clock.headD 0).toNat with
  | error refusal => exact .inl ⟨refusal, rfl⟩
  | ok both =>
    obtain ⟨request, requests⟩ := both
    let settled : Host := { host.ticked with requests }.audited
      (node.emit_m_action (some decided_by) action (decision_detail request decided_by))
    refine .inr ⟨request, requests, settled.world.clock.headD 0, settled.tell_asker node request status.as_str, rfl, rfl, ?_, ?_⟩
    · exact (tell_asker_same ..).1
    · exact tell_asker_sent node settled request status.as_str

namespace Answerer
variable {a : Answerer} {s : Answering}

theorem decide_eq (host : Host) (id : String) (ruling : Ruling) : a.decide host id ruling =
    host.decide_sandbox_request a.node ruling.status
      (if ruling.approve then ACTION_REQUEST_APPROVE else ACTION_REQUEST_REJECT) id ruling.decided_by := by
  unfold decide Ruling.status
  cases ruling.approve <;> rfl

/-- An asker that is on record stays so until the ask is deleted. -/
theorem asker_step {id requester : String} (asked : s.host.requests.asker id = some requester) {act : AnswerAct}
    (kept : act ≠ .Delete id) : (a.step s act).host.requests.asker id = some requester := by
  cases act with
  | Arrive d =>
    have ends := received_asks a.sink d a.this_node ⟨s.host.world, s.host.requests, s.told⟩
    rw [EndsIn] at ends
    obtain ⟨slice, queue, _⟩ := ends
    have same : (a.step s (.Arrive d)).host.requests =
        (a.sink.received d a.this_node ⟨s.host.world, s.host.requests, s.told⟩).2.requests := by
      simp only [step, SegmentSink.receive_segment, bind_run]
      rcases a.sink.received d a.this_node ⟨s.host.world, s.host.requests, s.told⟩ with ⟨_ | _, after⟩ <;> rfl
    rw [same, queue, restore_requests _ (derive_distinct slice)]
    exact SandboxRequests.asker_append asked _
  | Ask requester action sandbox reason => exact SandboxRequests.asker_append asked _
  | ToolAsk action sandbox reason =>
    simp only [step, Host.tool_request]
    cases SandboxAction.parse action with
    | none => exact asked
    | some action => exact SandboxRequests.asker_append asked _
  | Decide other ruling =>
    simp only [step, decide_eq]
    rcases decide_sandbox_request_cases a.node s.host ruling.status
        (if ruling.approve then ACTION_REQUEST_APPROVE else ACTION_REQUEST_REJECT) other ruling.decided_by with
      ⟨refusal, refused⟩ | ⟨request, requests, at_ms, after, done, decided, queue, _⟩
    · rw [refused]
      exact asked
    · rw [done]
      simp only
      rw [queue, SandboxRequests.asker_decide decided, asked]
  | Delete other =>
    have apart : id ≠ other := fun same => kept (same ▸ rfl)
    simp only [step, Host.delete_sandbox_request]
    cases removed : s.host.requests.remove other with
    | error refusal => exact asked
    | ok both => exact (SandboxRequests.asker_remove apart removed).trans asked
  | Hear centre message now =>
    simp only [step, Host.receive_frame]
    cases decision_in a.this_node centre message with
    | none => exact asked
    | some decision =>
      simp only [Host.decide_request_from_peer]
      cases Host.decided_status decision.decision with
      | none => exact asked
      | some status =>
        simp only
        cases decided : s.host.requests.decide decision.request_id status decision.decided_by
            (s.host.world.clock.headD 0).toNat with
        | error refusal => exact asked
        | ok both => exact (SandboxRequests.asker_decide decided id).trans asked
  | Dial node_id live => exact asked
  | HangUp node_id => exact asked

theorem asker_run {id requester : String} (acts : List AnswerAct) (asked : s.host.requests.asker id = some requester)
    (kept : ∀ act ∈ acts, act ≠ .Delete id) : (run a.step s acts).host.requests.asker id = some requester := by
  induction acts generalizing s with
  | nil => exact asked
  | cons act acts ih =>
    exact ih (asker_step asked (kept act List.mem_cons_self)) fun other inside => kept other (List.mem_cons_of_mem _ inside)

/-- An ask that a segment brought is on the chain, and its asker is the one that its row names. -/
theorem arrived_asker {id : String} {d : Delivery} (new : id ∉ request_ids s.host.requests)
    (queued : id ∈ request_ids (a.step s (.Arrive d)).host.requests) :
    ∃ requester, (a.step s (.Arrive d)).host.requests.asker id = some requester ∧
      AskedBy a.sink (a.step s (.Arrive d)).host.world id requester := by
  have ends := received_asks a.sink d a.this_node ⟨s.host.world, s.host.requests, s.told⟩
  rw [EndsIn] at ends
  have same : (a.step s (.Arrive d)).host.requests =
        (a.sink.received d a.this_node ⟨s.host.world, s.host.requests, s.told⟩).2.requests ∧
      (a.step s (.Arrive d)).host.world =
        (a.sink.received d a.this_node ⟨s.host.world, s.host.requests, s.told⟩).2.world := by
    simp only [step, SegmentSink.receive_segment, bind_run]
    rcases a.sink.received d a.this_node ⟨s.host.world, s.host.requests, s.told⟩ with ⟨_ | _, after⟩ <;> exact ⟨rfl, rfl⟩
  rw [same.1] at queued ⊢
  rw [same.2]
  obtain ⟨slice, queue, rows⟩ := ends
  rw [queue] at queued ⊢
  obtain ⟨record, derived, rfl, asker⟩ := SandboxRequests.asker_restore (derive_distinct slice) new queued
  refine ⟨record.requester_agent_id, asker, ?_⟩
  obtain ⟨stored, inside, asks, name, agent⟩ := derive_asker derived
  obtain ⟨row, there, decoded⟩ := rows stored inside
  exact ⟨row, there, stored, decoded, asks, name, agent⟩

/-- What is pushed by a decision: one frame to its asker, or none. -/
theorem decide_pushes {id requester : String} {ruling : Ruling} (asked : s.host.requests.asker id = some requester)
    (granted : (a.decide s.host id ruling).1.isOk = true) :
    ∃ at_ms, (a.step s (.Decide id ruling)).pushed.drop s.pushed.length =
      if requester ≠ a.sink.agent_id ∧ a.serves = true then
        [(a.send_to s.sessions ruling.write_all requester ruling.now
          (request_decision_body id ruling.status.as_str a.sink.agent_id at_ms)).2]
      else [] := by
  simp only [step, pushes, List.drop_left]
  rw [decide_eq] at granted ⊢
  rcases decide_sandbox_request_cases a.node s.host ruling.status
      (if ruling.approve then ACTION_REQUEST_APPROVE else ACTION_REQUEST_REJECT) id ruling.decided_by with
    ⟨refusal, refused⟩ | ⟨request, requests, at_ms, after, done, decided, _, sent⟩
  · rw [refused] at granted
    cases granted
  · refine ⟨at_ms, ?_⟩
    have named := decide_named decided
    obtain rfl := Option.some.inj ((SandboxRequests.asker_of_decide decided).symm.trans asked)
    have agent : a.node.agent_id = a.sink.agent_id := rfl
    have role : a.node.server_role = a.serves := rfl
    rw [done]
    simp only
    rw [sent, List.drop_left, named, agent, role]
    by_cases told : request.requester_agent_id ≠ a.sink.agent_id ∧ a.serves = true
    · rw [if_pos told, if_pos told]
      rfl
    · rw [if_neg told, if_neg told]
      rfl

theorem handed_of_session {sessions : Sessions} {write_all : Except String Unit} {node_id : String} {live : Live}
    (session : sessions node_id = some live) (ts : Int64) (body : Value) :
    (a.send_to sessions write_all node_id ts body).2.handed =
      [(live.writer, frame_bytes (a.to_line (a.signed node_id ts body)))] := by
  simp only [send_to, forward_to, session]

theorem handed_of_no_session {sessions : Sessions} {write_all : Except String Unit} {node_id : String}
    (absent : sessions node_id = none) (ts : Int64) (body : Value) :
    (a.send_to sessions write_all node_id ts body).2.handed = [] := by
  simp only [send_to, forward_to, absent]

/-- A decision goes down a node's session exactly where it is that node that the ask is recorded of. -/
theorem reaches_iff {id requester node_id : String} {ruling : Ruling} {live : Live}
    (asked : s.host.requests.asker id = some requester) (granted : (a.decide s.host id ruling).1.isOk = true)
    (holds : a.Holds s node_id live) :
    a.Reaches s id ruling node_id ↔ requester = node_id ∧ node_id ≠ a.sink.agent_id := by
  obtain ⟨serves, session⟩ := holds
  obtain ⟨at_ms, pushed⟩ := @decide_pushes a s id requester ruling asked granted
  rw [Reaches, pushed]
  constructor
  · rintro ⟨push, inside, _, _, rfl, _⟩
    split_ifs at inside with told
    · obtain rfl := List.mem_singleton.mp inside
      exact ⟨rfl, told.1⟩
    · cases inside
  · rintro ⟨rfl, other⟩
    rw [if_pos ⟨other, serves⟩]
    exact ⟨_, List.mem_cons_self, live, at_ms, rfl, session, rfl, handed_of_session session _ _⟩

/-- A decision goes down no session exactly where the ask is the node's own, or its asker holds no session. -/
theorem silently_iff {id requester : String} {ruling : Ruling} (asked : s.host.requests.asker id = some requester)
    (granted : (a.decide s.host id ruling).1.isOk = true) :
    a.Silently s id ruling ↔ requester = a.sink.agent_id ∨ ∀ live, ¬ a.Holds s requester live := by
  obtain ⟨at_ms, pushed⟩ := @decide_pushes a s id requester ruling asked granted
  rw [Silently, pushed]
  by_cases own : requester = a.sink.agent_id
  · rw [if_neg fun told => told.1 own]
    exact ⟨fun _ => .inl own, fun _ => nofun⟩
  · by_cases serves : a.serves = true
    · rw [if_pos ⟨own, serves⟩]
      simp only [List.mem_singleton, forall_eq]
      cases session : s.sessions requester with
      | none => simp [handed_of_no_session session, Holds, session]
      | some live => simp [handed_of_session session, own, Holds, session, serves]
    · rw [if_neg fun told => serves told.2]
      exact ⟨fun _ => .inr fun _ holds => serves holds.1, fun _ => nofun⟩

end Answerer

open Answerer

/-- For every ask that a node's segment brought and every later decision of it while the node holds a session: the decision
    goes down that session exactly where the ask's row names the node itself, and not an identity minted there. In every
    state it goes down no session exactly where the ask is the centre's own or its asker holds none. -/
theorem decision_reaches_iff (a : Answerer) (s : Answering) (before between : List AnswerAct) (d : Delivery) (id : String)
    (ruling : Ruling) (live : Live) (new : id ∉ request_ids (run a.step s before).host.requests)
    (queued : id ∈ request_ids (run a.step s (before ++ [.Arrive d])).host.requests)
    (kept : ∀ act ∈ between, act ≠ .Delete id)
    (granted : (a.decide (run a.step s (before ++ .Arrive d :: between)).host id ruling).1.isOk = true)
    (holds : a.Holds (run a.step s (before ++ .Arrive d :: between)) d.sender live) :
    (∃ requester, AskedBy a.sink (run a.step s (before ++ [.Arrive d])).host.world id requester ∧
      (run a.step s (before ++ .Arrive d :: between)).host.requests.asker id = some requester ∧
      (a.Reaches (run a.step s (before ++ .Arrive d :: between)) id ruling d.sender ↔
        requester = d.sender ∧ d.sender ≠ a.sink.agent_id)) ∧
    ∀ (t : Answering) (other requester : String), t.host.requests.asker other = some requester →
      (a.decide t.host other ruling).1.isOk = true →
      (∀ node_id live, a.Holds t node_id live →
        (a.Reaches t other ruling node_id ↔ requester = node_id ∧ node_id ≠ a.sink.agent_id)) ∧
      (a.Silently t other ruling ↔ requester = a.sink.agent_id ∨ ∀ live, ¬ a.Holds t requester live) := by
  refine ⟨?_, fun t other requester asked granted =>
    ⟨fun node_id live there => reaches_iff asked granted there, silently_iff asked granted⟩⟩
  rw [run_append] at queued
  obtain ⟨requester, arrived, asked⟩ := arrived_asker new queued
  have asked_later : (run a.step s (before ++ .Arrive d :: between)).host.requests.asker id = some requester := by
    rw [run_append]
    exact asker_run between arrived kept
  refine ⟨requester, ?_, asked_later, reaches_iff asked_later granted holds⟩
  rw [run_append]
  exact asked

/-! ### The identities that nodes ask under -/

/-- A segment of a node with one ask, left under an identity. -/
def asked_as (agent_id : String) : Delivery :=
  { ask_delivery with
    sender := "dev-a"
    events := ask_delivery.events.map fun event => { event with agent_id := some agent_id } }

/-- A centre that serves; its server's key is not looked at here. -/
def serving_centre : Answerer where
  sink := new_sink provisional_crates
  this_node := "A"
  serves := true
  sign _ := String.ofList (List.replicate 86 'A')
  to_line message :=
    canonical_json provisional_crates (json [("v", .integer message.v.toNat), ("from", .string message.sender),
      ("to", .string message.recipient), ("ts", .integer message.ts.toInt), ("body", message.body),
      ("sig", .string message.sig)]) ++ "\n"

/-- The node has dialled in. -/
def dialled_in : Answering :=
  serving_centre.step ⟨⟨1, 0, [], new_centre.world, []⟩, [], fun _ => none, []⟩ (.Dial "dev-a" ⟨0, "10.0.0.2:40000", 7⟩)

def approval : Ruling := ⟨true, "ops", 9, .ok ()⟩

/-- An ask under the node's own name: its approval gets there. -/
theorem approval_reaches : serving_centre.Reaches (run serving_centre.step dialled_in [.Arrive (asked_as "dev-a")])
    "req-7-1" approval "dev-a" := by
  obtain ⟨⟨requester, _, asked, reaches⟩, _⟩ := decision_reaches_iff serving_centre dialled_in [] [] (asked_as "dev-a")
    "req-7-1" approval ⟨0, "10.0.0.2:40000", 7⟩ (by decide +kernel) (by decide +kernel) nofun (by decide +kernel)
    ⟨rfl, by decide +kernel⟩
  have name : (run serving_centre.step dialled_in ([] ++ [.Arrive (asked_as "dev-a")])).host.requests.asker "req-7-1" =
      some "dev-a" := by decide +kernel
  exact reaches.mpr ⟨(Option.some.inj (name.symm.trans asked)).symm, by decide⟩

/-- An ask under an identity that was minted on the node, which holds a session: its approval gets nowhere. -/
theorem approval_lost :
    "req-7-1" ∉ request_ids dialled_in.host.requests ∧
    (let held := run serving_centre.step dialled_in [.Arrive (asked_as (mint "dev-a" 7 1))]
     "req-7-1" ∈ request_ids held.host.requests ∧ (serving_centre.decide held.host "req-7-1" approval).1.isOk = true ∧
      serving_centre.Holds held "dev-a" ⟨0, "10.0.0.2:40000", 7⟩ ∧
      ¬ serving_centre.Reaches held "req-7-1" approval "dev-a") := by
  have granted : (serving_centre.decide (run serving_centre.step dialled_in
      [.Arrive (asked_as (mint "dev-a" 7 1))]).host "req-7-1" approval).1.isOk = true := by decide +kernel
  have holds : serving_centre.Holds (run serving_centre.step dialled_in [.Arrive (asked_as (mint "dev-a" 7 1))]) "dev-a"
      ⟨0, "10.0.0.2:40000", 7⟩ := ⟨rfl, by decide +kernel⟩
  have asked : (run serving_centre.step dialled_in [.Arrive (asked_as (mint "dev-a" 7 1))]).host.requests.asker "req-7-1" =
      some (mint "dev-a" 7 1) := by decide +kernel
  refine ⟨by decide +kernel, by decide +kernel, granted, holds, ?_⟩
  rw [reaches_iff asked granted holds]
  exact fun both => mint_ne _ _ _ both.1

end Riscdom.Core
