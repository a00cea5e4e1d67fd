import Riscdom.RunRecords

/-!
Asks for a sandbox change: the live queue they wait in, and the record of them
that a chain keeps. A process fills its queue from the chain when it starts, and
from the rows that a merge adds to the chain.
-/
namespace Riscdom.Core
open Riscdom.Json Riscdom.Audit

inductive SandboxAction
  | Switch
  | Define
  | Assemble
deriving DecidableEq

namespace SandboxAction

def as_str : SandboxAction → String
  | .Switch => "switch"
  | .Define => "define"
  | .Assemble => "assemble"

/-- An unknown word is no action. -/
def parse (name : String) : Option SandboxAction :=
  if name = "switch" then some .Switch else
  if name = "define" then some .Define else
  if name = "assemble" then some .Assemble else none

@[simp] theorem parse_as_str (action : SandboxAction) : parse action.as_str = some action := by
  cases action <;> decide

end SandboxAction

inductive SandboxRequestStatus
  | Pending
  | Approved
  | Rejected
  | Expired
deriving DecidableEq

def SandboxRequestStatus.as_str : SandboxRequestStatus → String
  | .Pending => "pending"
  | .Approved => "approved"
  | .Rejected => "rejected"
  | .Expired => "expired"

/-- One ask as it waits in the queue. -/
structure SandboxRequest where
  id : String
  requester_agent_id : String
  action : SandboxAction
  sandbox : Option String
  reason : Option String
  requested_at_ms : Nat
  status : SandboxRequestStatus
  decided_by : Option String
  decided_at_ms : Option Nat
deriving DecidableEq

/-- What a chain says of one ask. -/
structure ReconciledRequest where
  id : String
  requester_agent_id : String
  action : SandboxAction
  sandbox : Option String
  status : SandboxRequestStatus
  decided_by : Option String
  requested_at_ms : Nat
  decided_at_ms : Option Nat
  reason : Option String
deriving DecidableEq

/-! ### The record on the chain -/

def ACTION_REQUEST_ASK : String := "m.request.ask"
def ACTION_REQUEST_APPROVE : String := "m.request.approve"
def ACTION_REQUEST_REJECT : String := "m.request.reject"

/-- The record of an ask, still to be decided. -/
def ReconciledRequest.asked (id : String) (action : SandboxAction) (stored : StoredEvent) : ReconciledRequest :=
  { id, requester_agent_id := stored.event.agent_id.getD "", action, sandbox := text_at "sandbox" stored.event.detail,
    status := .Pending, decided_by := none, requested_at_ms := stored.event.timestamp_ms.toNat, decided_at_ms := none,
    reason := none }

/-- The record after a decision; a decided one stays as it is. -/
def ReconciledRequest.decided (stored : StoredEvent) (record : ReconciledRequest) : ReconciledRequest :=
  if record.status ≠ .Pending then record else
    { record with
      status := if stored.event.action = ACTION_REQUEST_APPROVE then .Approved else .Rejected
      decided_by := (text_at "decided_by" stored.event.detail).or stored.event.agent_id
      decided_at_ms := some stored.event.timestamp_ms.toNat }

section Rewrite
universe u
variable {α : Type u}

/-- The list with the first element that fits rewritten. -/
def rewrite_first (fits : α → Bool) (rewrite : α → α) : List α → List α
  | [] => []
  | a :: rest => if fits a then rewrite a :: rest else a :: rewrite_first fits rewrite rest

/-- A rewriting that keeps the keys of what it rewrites keeps all the keys. -/
theorem map_rewrite_first {κ : Type u} (key : α → κ) {fits : α → Bool} {rewrite : α → α} {list : List α}
    (same : ∀ a ∈ list, fits a → key (rewrite a) = key a) : (rewrite_first fits rewrite list).map key = list.map key := by
  induction list with
  | nil => rfl
  | cons a rest ih =>
    rw [rewrite_first]
    split_ifs with fitting
    · rw [List.map_cons, List.map_cons, same a List.mem_cons_self fitting]
    · rw [List.map_cons, List.map_cons, ih fun b inside => same b (List.mem_cons_of_mem _ inside)]

/-- Where the keys are distinct, the element under a key is rewritten and the others stay. -/
theorem mem_rewrite_first {κ : Type u} [DecidableEq κ] {key : α → κ} {k : κ} {rewrite : α → α} {list : List α}
    (distinct : (list.map key).Nodup) {b : α} :
    b ∈ rewrite_first (fun a => key a == k) rewrite list ↔ (b ∈ list ∧ key b ≠ k) ∨ ∃ a ∈ list, key a = k ∧ b = rewrite a := by
  induction list with
  | nil => simp [rewrite_first]
  | cons a rest ih =>
    obtain ⟨apart, distinct⟩ := List.nodup_cons.mp distinct
    have differ (c : α) (inside : c ∈ rest) : key c ≠ key a := fun same => apart (same ▸ List.mem_map_of_mem inside)
    rw [rewrite_first]
    by_cases here : key a = k
    · rw [if_pos (beq_iff_eq.mpr here)]
      have others (c : α) (inside : c ∈ rest) : key c ≠ k := here ▸ differ c inside
      constructor
      · rintro member
        rcases List.mem_cons.mp member with rfl | later
        · exact .inr ⟨a, List.mem_cons_self, here, rfl⟩
        · exact .inl ⟨List.mem_cons_of_mem _ later, others b later⟩
      · rintro (⟨member, other⟩ | ⟨c, member, same, rfl⟩)
        · rcases List.mem_cons.mp member with rfl | later
          · exact absurd here other
          · exact List.mem_cons_of_mem _ later
        · rcases List.mem_cons.mp member with rfl | later
          · exact List.mem_cons_self
          · exact absurd same (others c later)
    · rw [if_neg (by simpa using here), List.mem_cons, ih distinct]
      constructor
      · rintro (rfl | ⟨later, other⟩ | ⟨c, later, same, rfl⟩)
        · exact .inl ⟨List.mem_cons_self, here⟩
        · exact .inl ⟨List.mem_cons_of_mem _ later, other⟩
        · exact .inr ⟨c, List.mem_cons_of_mem _ later, same, rfl⟩
      · rintro (⟨member, other⟩ | ⟨c, member, same, rfl⟩)
        · rcases List.mem_cons.mp member with rfl | later
          · exact .inl rfl
          · exact .inr (.inl ⟨later, other⟩)
        · rcases List.mem_cons.mp member with rfl | later
          · exact absurd same here
          · exact .inr (.inr ⟨c, later, same, rfl⟩)

end Rewrite

/-- One row folded into the records. -/
def derive_request (out : List ReconciledRequest) (stored : StoredEvent) : List ReconciledRequest :=
  let detail := stored.event.detail
  match text_at "id" detail with
  | none => out
  | some id =>
    if stored.event.action = ACTION_REQUEST_ASK then
      if out.any fun record => record.id == id then out else
        match (text_at "action" detail).bind SandboxAction.parse with
        | none => out
        | some action => out ++ [.asked id action stored]
    else if stored.event.action = ACTION_REQUEST_APPROVE ∨ stored.event.action = ACTION_REQUEST_REJECT then
      rewrite_first (fun record => record.id == id) (.decided stored) out
    else out

/-- The record of every ask, in the order of the asks. -/
def derive_requests_from (events : List StoredEvent) : List ReconciledRequest := events.foldl derive_request []

/-! ### The queue -/

abbrev SandboxRequests : Type := List SandboxRequest

/-- The ask as it comes back to a queue. -/
def SandboxRequest.restored (record : ReconciledRequest) : SandboxRequest :=
  { id := record.id, requester_agent_id := record.requester_agent_id, action := record.action, sandbox := record.sandbox,
    reason := none, requested_at_ms := record.requested_at_ms, status := .Pending, decided_by := none,
    decided_at_ms := none }

/-- What a restoration did: the queue after it, how many asks came back, and the ids that were taken. -/
structure Restored where
  requests : SandboxRequests
  restored : Nat
  conflicts : List String

def restore_one (so_far : Restored) (record : ReconciledRequest) : Restored :=
  if record.status ≠ .Pending then so_far else
  if so_far.requests.any fun queued => queued.id == record.id then
    { so_far with conflicts := so_far.conflicts ++ [record.id] }
  else { so_far with requests := so_far.requests ++ [.restored record], restored := so_far.restored + 1 }

/-- The pending asks of a chain put into the queue, none in the stead of one that waits there. -/
def SandboxRequests.restore (requests : SandboxRequests) (derived : List ReconciledRequest) : Restored :=
  derived.foldl restore_one ⟨requests, 0, []⟩

/-- The refusals of the queue. -/
inductive HostError
  | SandboxRequestNotFound (id : String)
  | SandboxRequestDecided (message : String)
deriving DecidableEq

namespace SandboxRequests
variable (requests : SandboxRequests)

def enqueue (id requester : String) (action : SandboxAction) (sandbox reason : Option String) (now : Nat) :
    SandboxRequest × SandboxRequests :=
  let request : SandboxRequest :=
    { id, requester_agent_id := requester, action, sandbox, reason, requested_at_ms := now, status := .Pending,
      decided_by := none, decided_at_ms := none }
  (request, requests ++ [request])

/-- Decide the first ask under an id, once. -/
def decide (id : String) (decision : SandboxRequestStatus) (decider : String) (now : Nat) :
    Except HostError (SandboxRequest × SandboxRequests) :=
  match requests.find? fun request => request.id == id with
  | none => .error (.SandboxRequestNotFound id)
  | some request =>
    if request.status ≠ .Pending then
      .error (.SandboxRequestDecided (request.id ++ " was already " ++ request.status.as_str))
    else
      let decided := { request with status := decision, decided_by := some decider, decided_at_ms := some now }
      .ok (decided, rewrite_first (fun request => request.id == id) (fun _ => decided) requests)

/-- Take the first ask under an id out of the queue. -/
def remove (id : String) : Except HostError (SandboxRequest × SandboxRequests) :=
  match requests.find? fun request => request.id == id with
  | none => .error (.SandboxRequestNotFound id)
  | some request => .ok (request, requests.eraseP fun request => request.id == id)

end SandboxRequests

end Riscdom.Core
