import Riscdom.AskRecords
import Riscdom.Machine

/-!
Runs of a node's process over its queue of asks and its chain. While no ask takes
an id that is in use, the next process finds on the chain what waited in the queue
of the last one, and the asks that were taken out of that queue undecided.
-/
namespace Riscdom.Core
open Riscdom.Json Riscdom.HashChain Riscdom.Audit Riscdom.Net Riscdom.Machine Fallible.Act

/-! ### The chain under a process -/

/-- Every row of the chain is read, and no append is refused for good. -/
structure Kept (node : HostNode) (w : World) : Prop where
  readable : ∃ events, (w.rows node.store).mapM (RawRow.into_stored node.crates) = .ok events
  unrefused : Unrefused w.appends

theorem chain_events_of_read {crates : Crates} {store : AuditStore} {w : World} {events : List StoredEvent}
    (read : (w.rows store).mapM (RawRow.into_stored crates) = .ok events) : Host.chain_events crates store w = events := by
  have all : (store.all crates w).1 = .ok events := by
    rw [AuditStore.all, bind_of_ok (show store.scan w = (.ok (w.rows store), w) from rfl), ofExcept_run, read]
  rw [Host.chain_events, all]

section Chain
variable {node : HostNode} {w : World}

/-- A row of the process comes behind the events of the chain. -/
theorem record_events (kept : Kept node w) (event : AuditEvent) (plain : Plain event.detail) (shallow : depth event.detail ≤ 127) :
    Kept node (node.record event w).2 ∧ ∃ stored, stored.event = event ∧
      Host.chain_events node.crates node.store (node.record event w).2 =
        Host.chain_events node.crates node.store w ++ [stored] := by
  obtain ⟨⟨events, read⟩, unrefused⟩ := kept
  have after : (node.record event w).2 = w.append_spent.appended node.crates node.store event :=
    congrArg Prod.snd (AuditStore.append_granted node.crates node.store unrefused.append_error event)
  have rows : (node.record event w).2.rows node.store =
      w.rows node.store ++ [(w.db node.store).audit_events.row_of node.crates event] := by
    rw [after, World.rows, World.appended, World.db_put_self]
    rfl
  have behind : ((node.record event w).2.rows node.store).mapM (RawRow.into_stored node.crates) =
      .ok (events ++ [((w.db node.store).audit_events.append node.crates event).1]) := by
    rw [rows]
    exact decoded_append read (decoded_iff.mpr (.cons (EventTable.row_of_stored node.crates _ event plain shallow) .nil))
  refine ⟨⟨⟨_, behind⟩, ?_⟩, ((w.db node.store).audit_events.append node.crates event).1, rfl, ?_⟩
  · rw [after]
    exact unrefused.append_spent
  · rw [chain_events_of_read behind, chain_events_of_read read]

/-- So does the row of an act. -/
theorem emit_events (kept : Kept node w) (caller : Option String) (action : String) {detail : Value} (plain : Plain detail)
    (shallow : depth detail ≤ 127) :
    Kept node (node.emit_m_action caller action detail w).2 ∧ ∃ stored : StoredEvent, stored.event.action = action ∧
      stored.event.detail = detail ∧ stored.event.agent_id = some (caller.getD node.agent_id) ∧
      Host.chain_events node.crates node.store (node.emit_m_action caller action detail w).2 =
        Host.chain_events node.crates node.store w ++ [stored] := by
  have ticked : Kept node { w with clock := w.clock.tail } := ⟨kept.readable, kept.unrefused⟩
  obtain ⟨after, stored, event, behind⟩ := record_events ticked
    ((AuditEvent.new (w.clock.headD 0) "host" action detail).with_agent (caller.getD node.agent_id)) plain shallow
  exact ⟨after, stored, by rw [event]; rfl, by rw [event]; rfl, by rw [event]; rfl, behind⟩

end Chain

/-! ### What a process does -/

/-- The calls on a process's queue: the two ways to ask, the two to decide, a peer's decision, and a deletion. -/
inductive QueueCall
  | request_sandbox (requester : String) (action : SandboxAction) (sandbox reason : Option String)
  | tool_request (action : String) (sandbox reason : Option String)
  | approve_sandbox_request (id decided_by : String)
  | reject_sandbox_request (id decided_by : String)
  | decide_request_from_peer (decision : RequestDecision) (now : Int)
  | delete_sandbox_request (id : String)

/-- What a call came to: an ask that was queued, and whether a row records it; an id decided; an ask taken out; nothing. -/
inductive Turn
  | asked (request : SandboxRequest) (recorded : Bool)
  | decided (id : String)
  | removed (request : SandboxRequest)
  | refused

/-- What a call comes to, and the process after it. -/
def Host.act (node : HostNode) (host : Host) : QueueCall → Turn × Host
  | .request_sandbox requester action sandbox reason =>
    let (request, after) := host.request_sandbox node requester action sandbox reason
    (.asked request true, after)
  | .tool_request action sandbox reason =>
    match host.tool_request node action sandbox reason with
    | (.ok request, after) => (.asked request false, after)
    | (.error _, after) => (.refused, after)
  | .approve_sandbox_request id decided_by =>
    match host.approve_sandbox_request node id decided_by with
    | (.ok _, after) => (.decided id, after)
    | (.error _, after) => (.refused, after)
  | .reject_sandbox_request id decided_by =>
    match host.reject_sandbox_request node id decided_by with
    | (.ok _, after) => (.decided id, after)
    | (.error _, after) => (.refused, after)
  | .decide_request_from_peer decision now =>
    match host.decide_request_from_peer node decision now with
    | (true, after) => (.decided decision.request_id, after)
    | (false, after) => (.refused, after)
  | .delete_sandbox_request id =>
    match host.delete_sandbox_request id with
    | (.ok request, after) => (.removed request, after)
    | (.error _, after) => (.refused, after)

/-- The events of the chain under a process. -/
def Host.events (node : HostNode) (host : Host) : List StoredEvent := Host.chain_events node.crates node.store host.world

/-- The row of an ask. -/
def AskRow (request : SandboxRequest) (stored : StoredEvent) : Prop :=
  stored.event.action = ACTION_REQUEST_ASK ∧ stored.event.detail = ask_detail request ∧
    stored.event.agent_id = some request.requester_agent_id

/-- What each turn does to the queue, to the count of asks, and to the chain. -/
inductive Effect (node : HostNode) (host : Host) : Turn → Host → Prop
  | asked {request : SandboxRequest} {recorded : Bool} {after : Host} (pending : request.status = .Pending)
    (named : request.id = request_id host.pid (host.seq + 1)) (counted : after.seq = host.seq + 1)
    (queued : after.requests = host.requests ++ [request])
    (chain : ∃ rows : List StoredEvent, after.events node = host.events node ++ rows ∧
      (recorded = true → ∃ stored : StoredEvent, rows = [stored] ∧ AskRow request stored) ∧ (recorded = false → rows = [])) :
    Effect node host (.asked request recorded) after
  | decided {id decider : String} {status : SandboxRequestStatus} {now : Nat} {request : SandboxRequest} {after : Host}
    (final : status ≠ .Pending) (queue : host.requests.decide id status decider now = .ok (request, after.requests))
    (counted : after.seq = host.seq)
    (chain : ∃ stored : StoredEvent, after.events node = host.events node ++ [stored] ∧ request_row stored.event = some (.decision id)) :
    Effect node host (.decided id) after
  | removed {id : String} {request : SandboxRequest} {after : Host}
    (queue : host.requests.remove id = .ok (request, after.requests)) (counted : after.seq = host.seq)
    (chain : after.events node = host.events node) : Effect node host (.removed request) after
  | refused {after : Host} (same : after.requests = host.requests) (counted : after.seq = host.seq)
    (chain : after.events node = host.events node) : Effect node host .refused after

theorem plain_ask_detail (request : SandboxRequest) : Plain (ask_detail request) ∧ depth (ask_detail request) ≤ 127 :=
  ⟨plain_json (by simp), (depth_json (d := 0) (by simp)).trans (by omega)⟩

theorem plain_decision_detail (request : SandboxRequest) (decided_by : String) :
    Plain (decision_detail request decided_by) ∧ depth (decision_detail request decided_by) ≤ 127 :=
  ⟨plain_json (by simp), (depth_json (d := 0) (by simp)).trans (by omega)⟩

theorem decision_named (request : SandboxRequest) (decided_by : String) :
    text_at "id" (decision_detail request decided_by) = some request.id := by
  have get (key : String) : (decision_detail request decided_by).get key = _ := get_json key _
  rw [text_at, get]
  rfl

/-- Telling the node that asked changes nothing here. -/
theorem tell_asker_same (node : HostNode) (host : Host) (request : SandboxRequest) (decision : String) :
    (host.tell_asker node request decision).requests = host.requests ∧ (host.tell_asker node request decision).seq = host.seq ∧
      (host.tell_asker node request decision).events node = host.events node ∧
      (Kept node host.world → Kept node (host.tell_asker node request decision).world) := by
  rw [Host.tell_asker]
  split_ifs
  · exact ⟨rfl, rfl, rfl, id⟩
  · exact ⟨rfl, rfl, rfl, fun kept => ⟨kept.readable, kept.unrefused⟩⟩
  · exact ⟨rfl, rfl, rfl, id⟩

section Act
variable {node : HostNode} {host : Host} (kept : Kept node host.world)
include kept

theorem enqueue_kept (requester : String) (action : SandboxAction) (sandbox reason : Option String) :
    Kept node (host.enqueue requester action sandbox reason).2.world := ⟨kept.readable, kept.unrefused⟩

theorem request_sandbox_effect (requester : String) (action : SandboxAction) (sandbox reason : Option String) :
    Kept node (host.request_sandbox node requester action sandbox reason).2.world ∧
      Effect node host (.asked (host.request_sandbox node requester action sandbox reason).1 true)
        (host.request_sandbox node requester action sandbox reason).2 := by
  obtain ⟨plain, shallow⟩ := plain_ask_detail (host.enqueue requester action sandbox reason).1
  obtain ⟨after, stored, asks, detail, agent, chain⟩ := emit_events (enqueue_kept kept requester action sandbox reason)
    (some requester) ACTION_REQUEST_ASK plain shallow
  refine ⟨after, .asked rfl rfl rfl rfl ⟨[stored], chain, fun _ => ⟨stored, rfl, asks, detail, agent⟩, nofun⟩⟩

theorem decide_sandbox_request_effect {status : SandboxRequestStatus} (final : status ≠ .Pending) {action : String}
    (decides : action = ACTION_REQUEST_APPROVE ∨ action = ACTION_REQUEST_REJECT) (id decided_by : String) :
    Kept node (host.decide_sandbox_request node status action id decided_by).2.world ∧
      match host.decide_sandbox_request node status action id decided_by with
      | (.ok _, after) => Effect node host (.decided id) after
      | (.error _, after) => Effect node host .refused after := by
  rw [Host.decide_sandbox_request]
  cases decided : host.requests.decide id status decided_by (host.world.clock.headD 0).toNat with
  | error refusal => exact ⟨kept, .refused rfl rfl rfl⟩
  | ok both =>
    obtain ⟨request, requests⟩ := both
    obtain ⟨plain, shallow⟩ := plain_decision_detail request decided_by
    have ticked : Kept node { host.ticked with requests }.world := ⟨kept.readable, kept.unrefused⟩
    obtain ⟨after, stored, act, detail, _, chain⟩ := emit_events ticked (some decided_by) action plain shallow
    obtain ⟨same, counted, events, still⟩ := tell_asker_same node ({ host.ticked with requests }.audited
      (node.emit_m_action (some decided_by) action (decision_detail request decided_by))) request status.as_str
    have queue : host.requests.decide id status decided_by (host.world.clock.headD 0).toNat = .ok (request,
        (Host.tell_asker node ({ host.ticked with requests }.audited
          (node.emit_m_action (some decided_by) action (decision_detail request decided_by))) request status.as_str).requests) := by
      rw [decided, same]
      rfl
    refine ⟨still after, .decided final queue counted ⟨stored, events.trans chain, request_row_decision ?_ ?_⟩⟩
    · rw [act]
      exact decides
    · rw [detail, decision_named, decide_named decided]

theorem decide_request_from_peer_effect (decision : RequestDecision) (now : Int) :
    Kept node (host.decide_request_from_peer node decision now).2.world ∧
      match host.decide_request_from_peer node decision now with
      | (true, after) => Effect node host (.decided decision.request_id) after
      | (false, after) => Effect node host .refused after := by
  rw [Host.decide_request_from_peer]
  cases word : Host.decided_status decision.decision with
  | none => exact ⟨kept, .refused rfl rfl rfl⟩
  | some status =>
    have final : status ≠ .Pending := by
      rintro rfl
      unfold Host.decided_status at word
      split at word <;> cases word
    simp only
    cases decided : host.requests.decide decision.request_id status decision.decided_by (host.world.clock.headD 0).toNat with
    | error refusal => exact ⟨kept, .refused rfl rfl rfl⟩
    | ok both =>
      obtain ⟨request, requests⟩ := both
      obtain ⟨plain, shallow⟩ := plain_decision_detail request decision.decided_by
      have ticked : Kept node { host.ticked with requests }.world := ⟨kept.readable, kept.unrefused⟩
      obtain ⟨after, stored, event, chain⟩ := record_events ticked {
        timestamp_ms := now, actor := "host",
        action := (if status = .Approved then ACTION_REQUEST_APPROVE else ACTION_REQUEST_REJECT),
        detail := decision_detail request decision.decided_by, agent_id := some decision.decided_by } plain shallow
      refine ⟨after, .decided final decided rfl ⟨stored, chain, request_row_decision ?_ ?_⟩⟩
      · rw [event]
        exact ite_eq_or_eq _ _ _
      · rw [event, decision_named, decide_named decided]

/-- What each call does. -/
theorem act_effect (call : QueueCall) :
    Kept node (host.act node call).2.world ∧ Effect node host (host.act node call).1 (host.act node call).2 := by
  cases call with
  | request_sandbox requester action sandbox reason => exact request_sandbox_effect kept requester action sandbox reason
  | tool_request action sandbox reason =>
    rw [Host.act, Host.tool_request]
    cases SandboxAction.parse action with
    | none => exact ⟨kept, .refused rfl rfl rfl⟩
    | some action =>
      exact ⟨enqueue_kept kept node.agent_id action sandbox reason,
        .asked rfl rfl rfl rfl ⟨[], (List.append_nil _).symm, nofun, fun _ => rfl⟩⟩
  | approve_sandbox_request id decided_by =>
    obtain ⟨after, effect⟩ := decide_sandbox_request_effect kept (show SandboxRequestStatus.Approved ≠ .Pending from nofun)
      (.inl rfl) id decided_by
    rw [Host.act, Host.approve_sandbox_request]
    rcases outcome : host.decide_sandbox_request node .Approved ACTION_REQUEST_APPROVE id decided_by with ⟨_ | _, _⟩
    · rw [outcome] at after effect
      exact ⟨after, effect⟩
    · rw [outcome] at after effect
      exact ⟨after, effect⟩
  | reject_sandbox_request id decided_by =>
    obtain ⟨after, effect⟩ := decide_sandbox_request_effect kept (show SandboxRequestStatus.Rejected ≠ .Pending from nofun)
      (.inr rfl) id decided_by
    rw [Host.act, Host.reject_sandbox_request]
    rcases outcome : host.decide_sandbox_request node .Rejected ACTION_REQUEST_REJECT id decided_by with ⟨_ | _, _⟩
    · rw [outcome] at after effect
      exact ⟨after, effect⟩
    · rw [outcome] at after effect
      exact ⟨after, effect⟩
  | decide_request_from_peer decision now =>
    obtain ⟨after, effect⟩ := decide_request_from_peer_effect kept decision now
    rw [Host.act]
    rcases outcome : host.decide_request_from_peer node decision now with ⟨_ | _, _⟩
    · rw [outcome] at after effect
      exact ⟨after, effect⟩
    · rw [outcome] at after effect
      exact ⟨after, effect⟩
  | delete_sandbox_request id =>
    rw [Host.act, Host.delete_sandbox_request]
    cases removed : host.requests.remove id with
    | error refusal => exact ⟨kept, .refused rfl rfl rfl⟩
    | ok both => exact ⟨⟨kept.readable, kept.unrefused⟩, .removed removed rfl rfl⟩

end Act

/-! ### A start -/

def Host.records (node : HostNode) (host : Host) : List ReconciledRequest := derive_requests_from (host.events node)

theorem plain_texts (texts : List String) : Plain (.array (texts.map .string)) ∧ depth (.array (texts.map .string)) ≤ 1 := by
  induction texts with
  | nil => exact ⟨trivial, le_refl _⟩
  | cons text rest ih =>
    obtain ⟨plain, shallow⟩ := ih
    exact ⟨⟨trivial, plain⟩, shallow⟩

/-- A process starts with the undecided asks of the chain, which it leaves as it is but for a row of its own. -/
theorem start_effect {node : HostNode} {w : World} (kept : Kept node w) (pid : UInt32) :
    Kept node (Host.start node pid w).world ∧ (Host.start node pid w).pid = pid ∧ (Host.start node pid w).seq = 0 ∧
      (Host.start node pid w).requests = (SandboxRequests.restore []
        (derive_requests_from (Host.chain_events node.crates node.store w))).requests ∧
      (Host.start node pid w).records node = derive_requests_from (Host.chain_events node.crates node.store w) := by
  rw [Host.start, Host.restore_pending_requests]
  split_ifs
  · exact ⟨kept, rfl, rfl, rfl, rfl⟩
  · generalize SandboxRequests.restore [] (derive_requests_from (Host.chain_events node.crates node.store w)) = restored
    obtain ⟨listed, flat⟩ := plain_texts restored.conflicts
    have plain : Plain (json [("restored", .integer restored.restored),
      ("conflicts", .array (restored.conflicts.map .string))]) := plain_json (by simp [listed])
    have shallow : depth (json [("restored", .integer restored.restored),
      ("conflicts", .array (restored.conflicts.map .string))]) ≤ 127 := (depth_json (d := 1) (by simp [flat])).trans (by omega)
    obtain ⟨after, stored, action, _, _, chain⟩ := emit_events kept none "host.sandbox_request.restore" plain shallow
    have silent : request_row stored.event = none := by
      refine request_row_other ?_
      rw [action]
      decide
    refine ⟨after, rfl, rfl, rfl, ?_⟩
    exact (congrArg derive_requests_from chain).trans ((derive_snoc _ stored).trans (derive_other silent))

/-! ### What the next process finds -/

/-- What a run leaves aside: the asks that were taken out of the queue undecided, and the ids of asks that no row records. -/
structure Books where
  withdrawn : List Ask
  unwritten : List String

def Books.note (books : Books) : Turn → Books
  | .asked request false => { books with unwritten := books.unwritten ++ [request.id] }
  | .removed request =>
    if request.status = .Pending then { books with withdrawn := books.withdrawn ++ [request.ask] } else books
  | _ => books

/-- A process and the books kept of it. -/
structure Booked where
  host : Host
  books : Books

/-- The books of a process that was just started. -/
def Booked.start (node : HostNode) (pid : UInt32) (w : World) : Booked := ⟨.start node pid w, [], []⟩

def Booked.step (node : HostNode) (booked : Booked) (call : QueueCall) : Booked :=
  let (turn, host) := booked.host.act node call
  ⟨host, booked.books.note turn⟩

/-- An ask is under an id that neither the queue nor the chain holds. -/
def Fresh (node : HostNode) (booked : Booked) (call : QueueCall) : Prop :=
  ∀ request recorded, (booked.host.act node call).1 = .asked request recorded →
    request.id ∉ request_ids booked.host.requests ∧ request.id ∉ record_ids (booked.host.records node)

/-- But for the asks that no row records, the chain holds undecided what waits and what was withdrawn. -/
structure Agrees (node : HostNode) (booked : Booked) : Prop where
  kept : Kept node booked.host.world
  distinct : (request_ids booked.host.requests).Nodup
  apart : ∀ ask ∈ booked.books.withdrawn, ask.id ∉ booked.books.unwritten → ask.id ∉ request_ids booked.host.requests
  agree : ∀ ask, ask.id ∉ booked.books.unwritten →
    (ask ∈ undecided (booked.host.records node) ↔ ask ∈ waiting booked.host.requests ∨ ask ∈ booked.books.withdrawn)

theorem start_agrees {node : HostNode} {w : World} (kept : Kept node w) (pid : UInt32) : Agrees node (.start node pid w) := by
  obtain ⟨after, _, _, requests, records⟩ := start_effect kept pid
  refine ⟨after, ?_, nofun, fun ask _ => ?_⟩
  · rw [Booked.start, requests]
    exact restore_distinct (derive_distinct _) List.nodup_nil
  · rw [Booked.start, requests, records, restored_from_nothing]
    simp

theorem waiting_snoc {requests : SandboxRequests} {request : SandboxRequest} (pending : request.status = .Pending)
    (ask : Ask) : ask ∈ waiting (requests ++ [request]) ↔ ask ∈ waiting requests ∨ ask = request.ask := by
  simp [waiting, pending]

/-- Every call whose ask has an id of its own keeps the two in agreement. -/
theorem step_agrees {node : HostNode} {booked : Booked} (agrees : Agrees node booked) {call : QueueCall}
    (fresh : Fresh node booked call) : Agrees node (booked.step node call) := by
  obtain ⟨kept, distinct, apart, agree⟩ := agrees
  obtain ⟨after, effect⟩ := act_effect kept call
  rw [Booked.step]
  unfold Fresh at fresh
  rcases turned : booked.host.act node call with ⟨turn, host⟩
  rw [turned] at after effect fresh
  cases effect with
  | @asked request recorded _ pending named counted queued chain =>
    obtain ⟨unqueued, unrecorded⟩ := fresh request recorded rfl
    obtain ⟨rows, chain, written, quiet⟩ := chain
    have once : (request_ids host.requests).Nodup := by
      rw [queued, request_ids, List.map_append]
      refine List.nodup_append.mpr ⟨distinct, List.nodup_singleton _, fun id there other last same => ?_⟩
      rw [List.map_singleton, List.mem_singleton] at last
      exact unqueued (last ▸ same ▸ there)
    have withdrawn_apart (ask : Ask) (inside : ask ∈ booked.books.withdrawn) (known : ask.id ∉ booked.books.unwritten)
        (other : ask.id ≠ request.id ∨ recorded = true) : ask.id ∉ request_ids host.requests := by
      rw [queued, request_ids, List.map_append, List.mem_append, List.map_singleton, List.mem_singleton]
      rintro (there | same)
      · exact apart ask inside known there
      · rcases other with differs | _
        · exact differs same
        · exact unrecorded (same ▸ record_of_undecided ((agree ask known).mpr (.inr inside)))
    cases recorded with
    | true =>
      obtain ⟨stored, rfl, asks, detail, agent⟩ := written rfl
      obtain ⟨record, behind, undecided_record, same⟩ := derive_ask asks detail agent unrecorded
      have records : host.records node = booked.host.records node ++ [record] := by
        rw [Host.records, chain, derive_snoc]
        exact behind
      refine ⟨after, once, fun ask inside known => withdrawn_apart ask inside known (.inr rfl), fun ask known => ?_⟩
      rw [records, undecided_snoc undecided_record, same, queued, waiting_snoc pending, agree ask known]
      exact or_right_comm
    | false =>
      have records : host.records node = booked.host.records node := by
        rw [Host.records, chain, quiet rfl, List.append_nil]
        rfl
      have split (ask : Ask) (known : ask.id ∉ booked.books.unwritten ++ [request.id]) :
          ask.id ∉ booked.books.unwritten ∧ ask.id ≠ request.id := by
        rw [List.mem_append, List.mem_singleton] at known
        exact not_or.mp known
      refine ⟨after, once, fun ask inside known => ?_, fun ask known => ?_⟩
      · exact withdrawn_apart ask inside (split ask known).1 (.inl (split ask known).2)
      · obtain ⟨before, other⟩ := split ask known
        rw [records, queued, waiting_snoc pending, agree ask before]
        have differs : ask ≠ request.ask := fun same => other (congrArg Ask.id same)
        simp only [differs, or_false]
        rfl
  | @decided id decider status now request _ final queue counted chain =>
    obtain ⟨stored, chain, decides⟩ := chain
    obtain ⟨there, ids, waits⟩ := decide_waiting queue final distinct
    have records : host.records node = derive_request (booked.host.records node) stored := by
      rw [Host.records, chain, derive_snoc]
      rfl
    obtain ⟨_, _, left⟩ := derive_decision (derive_distinct (booked.host.events node)) decides
    refine ⟨after, by rw [ids]; exact distinct, fun ask inside known => by rw [ids]; exact apart ask inside known,
      fun ask known => ?_⟩
    rw [records, waits, Host.records, left ask]
    have agreed := agree ask known
    rw [Host.records] at agreed
    have elsewhere : ask ∈ booked.books.withdrawn → ask.id ≠ id := fun inside same => apart ask inside known (same ▸ there)
    rw [agreed]
    constructor
    · rintro ⟨waits | withdrawn, other⟩
      · exact .inl ⟨waits, other⟩
      · exact .inr withdrawn
    · rintro (⟨waits, other⟩ | withdrawn)
      · exact ⟨.inl waits, other⟩
      · exact ⟨.inr withdrawn, elsewhere withdrawn⟩
  | @removed id request _ queue counted chain =>
    obtain ⟨named, there, gone, fewer, waits⟩ := remove_waiting queue distinct
    have records : host.records node = booked.host.records node := by
      rw [Host.records, chain]
      rfl
    have once := fewer.nodup distinct
    by_cases pending : request.status = .Pending
    · have noted : booked.books.note (.removed request) =
          { booked.books with withdrawn := booked.books.withdrawn ++ [request.ask] } := if_pos pending
      simp only [noted]
      refine ⟨after, once, fun ask inside known => ?_, fun ask known => ?_⟩
      · rcases List.mem_append.mp inside with before | last
        · exact fun still => apart ask before known (fewer.subset still)
        · rw [List.mem_singleton.mp last]
          exact fun still => gone (named ▸ still)
      · rw [records, agree ask known, waits, List.mem_append, List.mem_singleton]
        simp only [pending, true_and, or_assoc]
        rw [or_comm (a := request.ask = ask), eq_comm (a := request.ask)]
    · have noted : booked.books.note (.removed request) = booked.books := if_neg pending
      simp only [noted]
      refine ⟨after, once, fun ask inside known still => apart ask inside known (fewer.subset still), fun ask known => ?_⟩
      rw [records, agree ask known, waits]
      simp only [pending, false_and, or_false]
  | refused same counted chain =>
    have records : host.records node = booked.host.records node := by
      rw [Host.records, chain]
      rfl
    refine ⟨after, by rw [same]; exact distinct, fun ask inside known => by rw [same]; exact apart ask inside known,
      fun ask known => ?_⟩
    rw [records, same]
    exact agree ask known

theorem run_agrees {node : HostNode} {w : World} (kept : Kept node w) (pid : UInt32) {calls : List QueueCall}
    (fresh : Allowed (Booked.step node) (Fresh node) (.start node pid w) calls) :
    Agrees node (run (Booked.step node) (.start node pid w) calls) := by
  have keeps (booked : Booked) (call : QueueCall) (agrees : Agrees node booked) (own : Fresh node booked call) :
      Agrees node (booked.step node call) := step_agrees agrees own
  exact run_keeps keeps (start_agrees kept pid) fresh

/-- The next process starts with the asks that waited and those that were withdrawn, each as it was asked. -/
theorem restart_finds_asks (node : HostNode) (w : World) (kept : Kept node w) (pid next : UInt32) (calls : List QueueCall)
    (fresh : Allowed (Booked.step node) (Fresh node) (.start node pid w) calls) (ask : Ask)
    (written : ask.id ∉ (run (Booked.step node) (.start node pid w) calls).books.unwritten) :
    ask ∈ waiting (Host.start node next (run (Booked.step node) (.start node pid w) calls).host.world).requests ↔
      ask ∈ waiting (run (Booked.step node) (.start node pid w) calls).host.requests ∨
        ask ∈ (run (Booked.step node) (.start node pid w) calls).books.withdrawn := by
  have agrees := run_agrees kept pid fresh
  obtain ⟨_, _, _, requests, _⟩ := start_effect agrees.kept next
  rw [requests, restored_from_nothing]
  exact agrees.agree ask written

/-! ### A withdrawn ask -/

/-- A node on a new chain. -/
def lab_node : HostNode := ⟨provisional_crates, ⟨["data", "audit.db"]⟩, "dev-a", false⟩
def new_world : World := ⟨fun _ => none, [], [], [], []⟩

theorem new_world_kept (node : HostNode) : Kept node new_world := ⟨⟨[], rfl⟩, unrefused_nil⟩

def lab_ask : Ask := ⟨"req-7-1", "ops", .Switch, some "lab"⟩

/-- The ask, and its deletion before anybody decided. -/
def withdrawing : List QueueCall :=
  [.request_sandbox "ops" .Switch (some "lab") none, .delete_sandbox_request "req-7-1"]

theorem withdrawing_fresh : Allowed (Booked.step lab_node) (Fresh lab_node) (.start lab_node 7 new_world) withdrawing := by
  refine ⟨fun request recorded asked => ⟨?_, ?_⟩, fun request recorded asked => ?_, trivial⟩
  · exact List.not_mem_nil
  · exact List.not_mem_nil
  · rw [Host.act] at asked
    split at asked <;> cases asked

theorem withdrawn_ask :
    waiting (run (Booked.step lab_node) (.start lab_node 7 new_world) withdrawing).host.requests = [] ∧
      (run (Booked.step lab_node) (.start lab_node 7 new_world) withdrawing).books.withdrawn = [lab_ask] ∧
        (run (Booked.step lab_node) (.start lab_node 7 new_world) withdrawing).books.unwritten = [] := by
  decide

theorem withdrawn_ask_found :
    lab_ask ∈ waiting (Host.start lab_node 8
      (run (Booked.step lab_node) (.start lab_node 7 new_world) withdrawing).host.world).requests := by
  obtain ⟨_, withdrawn, unwritten⟩ := withdrawn_ask
  refine (restart_finds_asks lab_node new_world (new_world_kept lab_node) 7 8 withdrawing withdrawing_fresh lab_ask ?_).mpr ?_
  · rw [unwritten]
    exact List.not_mem_nil
  · rw [withdrawn]
    exact .inr List.mem_cons_self

/-- An ask deleted before anybody decided waits again after a restart. -/
theorem withdrawn_ask_returns : ¬ ∀ (node : HostNode) (w : World), Kept node w → ∀ (pid next : UInt32) (calls : List QueueCall),
    Allowed (Booked.step node) (Fresh node) (.start node pid w) calls → ∀ ask : Ask,
      ask ∈ waiting (Host.start node next (run (Booked.step node) (.start node pid w) calls).host.world).requests ↔
        ask ∈ waiting (run (Booked.step node) (.start node pid w) calls).host.requests := by
  intro same
  obtain ⟨live, withdrawn, unwritten⟩ := withdrawn_ask
  have agrees := run_agrees (new_world_kept lab_node) 7 withdrawing_fresh
  obtain ⟨_, _, _, requests, _⟩ := start_effect agrees.kept 8
  have back : lab_ask ∈ waiting (Host.start lab_node 8
      (run (Booked.step lab_node) (.start lab_node 7 new_world) withdrawing).host.world).requests := by
    rw [requests, restored_from_nothing]
    refine (agrees.agree lab_ask ?_).mpr ?_
    · rw [unwritten]
      exact List.not_mem_nil
    · rw [withdrawn]
      exact .inr List.mem_cons_self
  have waits := (same lab_node new_world (new_world_kept lab_node) 7 8 withdrawing withdrawing_fresh lab_ask).mp back
  rw [live] at waits
  cases waits

end Riscdom.Core
