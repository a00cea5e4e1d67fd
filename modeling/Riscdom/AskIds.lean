import Riscdom.AskRuns

/-!
The ids of asks, over all the processes that share a chain. An id is made of the
number of its process and of that process's count; it names one ask as long as
no process has the number of another one that asked.
-/
namespace Riscdom.Core
open Riscdom.Json Riscdom.HashChain Riscdom.Audit Riscdom.Net Riscdom.Machine Fallible.Act

/-! ### Processes over one chain -/

/-- A process starts, or the one that runs takes a call. -/
inductive Move
  | start (pid : UInt32)
  | call (call : QueueCall)

/-- The running process, and every ask so far with whether a row was to record it. -/
structure Chronicle where
  host : Host
  asked : List (Ask × Bool)

def Turn.made : Turn → List (Ask × Bool)
  | .asked request recorded => [(request.ask, recorded)]
  | _ => []

/-- The first process over the files; the asks so far are those of the chain. -/
def Chronicle.start (node : HostNode) (pid : UInt32) (w : World) : Chronicle :=
  ⟨.start node pid w, (derive_requests_from (Host.chain_events node.crates node.store w)).map fun record => (record.ask, true)⟩

def Chronicle.step (node : HostNode) (chronicle : Chronicle) : Move → Chronicle
  | .start pid => { chronicle with host := .start node pid chronicle.host.world }
  | .call call =>
    let (turn, host) := chronicle.host.act node call
    ⟨host, chronicle.asked ++ turn.made⟩

/-- No two asks have one id, the ask under an id is the one that a decision under it decides, and each recorded ask is on
    record. -/
structure Identified (node : HostNode) (chronicle : Chronicle) : Prop where
  once : (chronicle.asked.map fun entry => entry.1.id).Nodup
  decides : ∀ entry ∈ chronicle.asked, ∀ status decider now request after,
    chronicle.host.requests.decide entry.1.id status decider now = .ok (request, after) → request.ask = entry.1
  recorded : ∀ entry ∈ chronicle.asked, entry.2 = true → ∃ record ∈ chronicle.host.records node, record.ask = entry.1

/-- A process starts under a number that no ask so far bears in its id, and no process counts past its last number. -/
def Numbered (node : HostNode) (chronicle : Chronicle) : Move → Prop
  | .start pid => ∀ entry ∈ chronicle.asked, ∀ seq, entry.1.id ≠ request_id pid seq
  | .call call => ∀ request recorded, (chronicle.host.act node call).1 = .asked request recorded →
    chronicle.host.seq.toNat + 1 < 2 ^ 64

/-! ### What keeps the ids apart -/

theorem request_id_injective {pid : UInt32} {seq other : UInt64} (same : request_id pid seq = request_id pid other) :
    seq = other := by
  rw [request_id, request_id, String.append_right_inj] at same
  exact UInt64.toNat_inj.mp (Nat.repr_injective same)

/-- Every ask of the queue and of the chain was made, and those of the running process under numbers it has counted. -/
structure Counted (node : HostNode) (chronicle : Chronicle) : Prop where
  kept : Kept node chronicle.host.world
  once : (chronicle.asked.map fun entry => entry.1.id).Nodup
  own : ∀ entry ∈ chronicle.asked, ∀ seq, entry.1.id = request_id chronicle.host.pid seq → seq ≤ chronicle.host.seq
  queued : ∀ request ∈ chronicle.host.requests, ∃ recorded, (request.ask, recorded) ∈ chronicle.asked
  known : ∀ record ∈ chronicle.host.records node, ∃ recorded, (record.ask, recorded) ∈ chronicle.asked
  recorded : ∀ entry ∈ chronicle.asked, entry.2 = true → ∃ record ∈ chronicle.host.records node, record.ask = entry.1

theorem tell_asker_pid (node : HostNode) (host : Host) (request : SandboxRequest) (decision : String) :
    (host.tell_asker node request decision).pid = host.pid := by
  rw [Host.tell_asker]
  split_ifs <;> rfl

theorem decide_sandbox_request_pid (node : HostNode) (host : Host) (status : SandboxRequestStatus)
    (action id decided_by : String) : (host.decide_sandbox_request node status action id decided_by).2.pid = host.pid := by
  rw [Host.decide_sandbox_request]
  cases host.requests.decide id status decided_by (host.world.clock.headD 0).toNat with
  | error refusal => rfl
  | ok both => exact tell_asker_pid _ _ _ _

/-- No call changes the number of its process. -/
theorem act_pid (node : HostNode) (host : Host) (call : QueueCall) : (host.act node call).2.pid = host.pid := by
  cases call with
  | request_sandbox requester action sandbox reason => rfl
  | tool_request action sandbox reason =>
    rw [Host.act, Host.tool_request]
    cases SandboxAction.parse action <;> rfl
  | approve_sandbox_request id decided_by =>
    have same := decide_sandbox_request_pid node host .Approved ACTION_REQUEST_APPROVE id decided_by
    rw [Host.act, Host.approve_sandbox_request]
    rcases outcome : host.decide_sandbox_request node .Approved ACTION_REQUEST_APPROVE id decided_by with ⟨_ | _, _⟩
    · rwa [outcome] at same
    · rwa [outcome] at same
  | reject_sandbox_request id decided_by =>
    have same := decide_sandbox_request_pid node host .Rejected ACTION_REQUEST_REJECT id decided_by
    rw [Host.act, Host.reject_sandbox_request]
    rcases outcome : host.decide_sandbox_request node .Rejected ACTION_REQUEST_REJECT id decided_by with ⟨_ | _, _⟩
    · rwa [outcome] at same
    · rwa [outcome] at same
  | decide_request_from_peer decision now =>
    rw [Host.act, Host.decide_request_from_peer]
    cases Host.decided_status decision.decision with
    | none => rfl
    | some status =>
      simp only
      cases host.requests.decide decision.request_id status decision.decided_by (host.world.clock.headD 0).toNat <;> rfl
  | delete_sandbox_request id =>
    rw [Host.act, Host.delete_sandbox_request]
    cases host.requests.remove id <;> rfl

/-- What is in a list with its first fit rewritten was in it, or is the rewriting of what was. -/
theorem of_mem_rewrite_first {α : Type} {fits : α → Bool} {rewrite : α → α} {list : List α} {b : α}
    (inside : b ∈ rewrite_first fits rewrite list) : b ∈ list ∨ ∃ a ∈ list, fits a ∧ b = rewrite a := by
  induction list with
  | nil => cases inside
  | cons a rest ih =>
    rw [rewrite_first] at inside
    split_ifs at inside with fitting
    · rcases List.mem_cons.mp inside with rfl | later
      · exact .inr ⟨a, List.mem_cons_self, fitting, rfl⟩
      · exact .inl (List.mem_cons_of_mem _ later)
    · rcases List.mem_cons.mp inside with rfl | later
      · exact .inl List.mem_cons_self
      · rcases ih later with kept | ⟨c, kept, fits, rfl⟩
        · exact .inl (List.mem_cons_of_mem _ kept)
        · exact .inr ⟨c, List.mem_cons_of_mem _ kept, fits, rfl⟩

/-- A deletion leaves asks that were there. -/
theorem removed_subset {requests after : SandboxRequests} {id : String} {request : SandboxRequest}
    (removed : requests.remove id = .ok (request, after)) : after ⊆ requests := by
  rw [SandboxRequests.remove] at removed
  split at removed
  · cases removed
  · cases removed
    exact List.eraseP_subset

section Keeps
variable {node : HostNode} {chronicle : Chronicle} (counted : Counted node chronicle)
include counted

/-- Asks so far under one id are one ask. -/
theorem Counted.same {entry other : Ask × Bool} (inside : entry ∈ chronicle.asked) (there : other ∈ chronicle.asked)
    (id : entry.1.id = other.1.id) : entry = other := List.inj_on_of_nodup_map counted.once inside there id

theorem Counted.identified : Identified node chronicle where
  once := counted.once
  recorded := counted.recorded
  decides := by
    intro entry inside status decider now request after decided
    obtain ⟨old, found, _, rfl, _⟩ := decide_ok decided
    have named : old.id = entry.1.id := by simpa using List.find?_some found
    obtain ⟨recorded, made⟩ := counted.queued old (List.mem_of_find?_eq_some found)
    exact congrArg Prod.fst (counted.same made inside named)

/-- A new process starts with asks of the chain. -/
theorem start_counted {pid : UInt32} (apart : Numbered node chronicle (.start pid)) :
    Counted node (chronicle.step node (.start pid)) := by
  obtain ⟨kept, number, seq, requests, records⟩ := start_effect counted.kept pid
  have same : (Host.start node pid chronicle.host.world).records node = chronicle.host.records node := records
  refine ⟨kept, counted.once, fun entry inside seq named => ?_, fun request inside => ?_, ?_, ?_⟩
  · rw [Chronicle.step, number] at named
    exact absurd named (apart entry inside seq)
  · rw [Chronicle.step, requests, restore_requests [] (derive_distinct _), List.nil_append] at inside
    obtain ⟨record, back, rfl⟩ := List.mem_map.mp inside
    exact counted.known record (List.mem_of_mem_filter back)
  · rw [Chronicle.step, same]
    exact counted.known
  · rw [Chronicle.step, same]
    exact counted.recorded

variable {host : Host} (after : Kept node host.world) (pid : host.pid = chronicle.host.pid)
include after pid

/-- An ask comes under the next number of its process. -/
theorem asked_counted {request : SandboxRequest} {recorded : Bool}
    (effect : Effect node chronicle.host (.asked request recorded) host) (room : chronicle.host.seq.toNat + 1 < 2 ^ 64) :
    Counted node ⟨host, chronicle.asked ++ [(request.ask, recorded)]⟩ := by
  obtain ⟨pending, named, rise, queued, chain⟩ := effect
  obtain ⟨rows, chain, written, quiet⟩ := chain
  have risen : (chronicle.host.seq + 1).toNat = chronicle.host.seq.toNat + 1 := by
    rw [UInt64.toNat_add]
    exact Nat.mod_eq_of_lt room
  have fresh : ∀ entry ∈ chronicle.asked, entry.1.id ≠ request.id := by
    intro entry inside same
    have below := UInt64.le_iff_toNat_le.mp (counted.own entry inside _ (same.trans named))
    omega
  have unrecorded : request.id ∉ record_ids (chronicle.host.records node) := by
    intro there
    obtain ⟨record, kept, same⟩ := List.mem_map.mp there
    obtain ⟨_, known⟩ := counted.known record kept
    exact fresh _ known same
  have records : ∃ more : List ReconciledRequest, host.records node = chronicle.host.records node ++ more ∧
      (∀ record ∈ more, record.ask = request.ask) ∧ (recorded = true → more ≠ []) := by
    cases recorded with
    | true =>
      obtain ⟨stored, rfl, asks, detail, agent⟩ := written rfl
      obtain ⟨record, behind, _, same⟩ := derive_ask asks detail agent unrecorded
      refine ⟨[record], ?_, by simpa using same, fun _ => List.cons_ne_nil _ _⟩
      rw [Host.records, chain, derive_snoc]
      exact behind
    | false =>
      refine ⟨[], ?_, by simp, by rintro ⟨⟩⟩
      rw [Host.records, chain, quiet rfl, List.append_nil, List.append_nil]
      rfl
  obtain ⟨more, grown, ours, some_there⟩ := records
  refine ⟨after, ?_, fun entry inside seq same => ?_, fun other inside => ?_, fun record inside => ?_,
    fun entry inside marked => ?_⟩
  · rw [List.map_append]
    refine List.nodup_append.mpr ⟨counted.once, List.nodup_singleton _, ?_⟩
    rintro id there other last rfl
    obtain ⟨entry, kept, same⟩ := List.mem_map.mp there
    rw [List.map_singleton, List.mem_singleton] at last
    exact fresh entry kept (same.trans last)
  · rw [pid] at same
    rw [rise, UInt64.le_iff_toNat_le, risen]
    rcases List.mem_append.mp inside with before | last
    · have below := UInt64.le_iff_toNat_le.mp (counted.own entry before seq same)
      omega
    · rw [List.mem_singleton.mp last] at same
      rw [← request_id_injective (named.symm.trans same), risen]
  · rw [queued] at inside
    rcases List.mem_append.mp inside with before | last
    · obtain ⟨marked, there⟩ := counted.queued other before
      exact ⟨marked, List.mem_append_left _ there⟩
    · rw [List.mem_singleton.mp last]
      exact ⟨recorded, List.mem_append_right _ (List.mem_singleton_self _)⟩
  · rw [grown] at inside
    rcases List.mem_append.mp inside with before | last
    · obtain ⟨marked, there⟩ := counted.known record before
      exact ⟨marked, List.mem_append_left _ there⟩
    · rw [ours record last]
      exact ⟨recorded, List.mem_append_right _ (List.mem_singleton_self _)⟩
  · rw [grown]
    rcases List.mem_append.mp inside with before | last
    · obtain ⟨record, kept, same⟩ := counted.recorded entry before marked
      exact ⟨record, List.mem_append_left _ kept, same⟩
    · rw [List.mem_singleton.mp last] at marked ⊢
      obtain ⟨record, rest, rfl⟩ := List.exists_cons_of_ne_nil (some_there marked)
      exact ⟨record, List.mem_append_right _ List.mem_cons_self, ours record List.mem_cons_self⟩

/-- A decision keeps the asks that there are. -/
theorem decided_counted {id : String} (effect : Effect node chronicle.host (.decided id) host) :
    Counted node ⟨host, chronicle.asked⟩ := by
  obtain _ | ⟨_, queue, still, stored, chain, decides⟩ := effect
  obtain ⟨_, asks, _⟩ := derive_decision (derive_distinct (chronicle.host.events node)) decides
  have records : (host.records node).map ReconciledRequest.ask = (chronicle.host.records node).map ReconciledRequest.ask := by
    rw [Host.records, chain, derive_snoc]
    exact asks
  refine ⟨after, counted.once, ?_, fun other inside => ?_, fun record inside => ?_, fun entry inside marked => ?_⟩
  · rw [pid, still]
    exact counted.own
  · obtain ⟨old, found, _, rfl, rewritten⟩ := decide_ok queue
    rw [rewritten] at inside
    rcases of_mem_rewrite_first inside with before | ⟨_, _, _, rfl⟩
    · exact counted.queued other before
    · exact counted.queued old (List.mem_of_find?_eq_some found)
  · have there := List.mem_map_of_mem (f := ReconciledRequest.ask) inside
    rw [records] at there
    obtain ⟨old, kept, same⟩ := List.mem_map.mp there
    rw [← same]
    exact counted.known old kept
  · obtain ⟨old, kept, same⟩ := counted.recorded entry inside marked
    have there := List.mem_map_of_mem (f := ReconciledRequest.ask) kept
    rw [← records] at there
    obtain ⟨record, now_there, ask⟩ := List.mem_map.mp there
    exact ⟨record, now_there, ask.trans same⟩

omit after pid

/-- A call puts an ask under the next number of its process, or keeps the asks that there are. -/
theorem call_counted {call : QueueCall} (numbered : Numbered node chronicle (.call call)) :
    Counted node (chronicle.step node (.call call)) := by
  obtain ⟨after, effect⟩ := act_effect counted.kept call
  have pid := act_pid node chronicle.host call
  rw [Chronicle.step]
  rw [Numbered] at numbered
  rcases turned : chronicle.host.act node call with ⟨turn, host⟩
  rw [turned] at after effect numbered pid
  simp only at after effect numbered pid ⊢
  cases turn with
  | asked request recorded => exact asked_counted counted after pid effect (numbered request recorded rfl)
  | decided id =>
    have made : Turn.made (.decided id) = [] := rfl
    rw [made, List.append_nil]
    exact decided_counted counted after pid effect
  | removed request =>
    cases effect with
    | @removed id _ _ queue still chain =>
      have records : host.records node = chronicle.host.records node := by
        rw [Host.records, chain]
        rfl
      have made : Turn.made (.removed request) = [] := rfl
      rw [made, List.append_nil]
      exact ⟨after, counted.once, by rw [pid, still]; exact counted.own,
        fun other inside => counted.queued other (removed_subset queue inside), by rw [records]; exact counted.known,
        by rw [records]; exact counted.recorded⟩
  | refused =>
    cases effect with
    | refused same still chain =>
      have records : host.records node = chronicle.host.records node := by
        rw [Host.records, chain]
        rfl
      have made : Turn.made .refused = [] := rfl
      rw [made, List.append_nil]
      exact ⟨after, counted.once, by rw [pid, still]; exact counted.own, by rw [same]; exact counted.queued,
        by rw [records]; exact counted.known, by rw [records]; exact counted.recorded⟩

end Keeps

/-- Along every run of processes of different numbers, the ids identify the asks. -/
theorem asks_identified (node : HostNode) (w : World) (kept : Kept node w) (pid : UInt32)
    (other : ∀ record ∈ derive_requests_from (Host.chain_events node.crates node.store w), ∀ seq, record.id ≠ request_id pid seq)
    (moves : List Move) (numbered : Allowed (Chronicle.step node) (Numbered node) (.start node pid w) moves) :
    Identified node (run (Chronicle.step node) (.start node pid w) moves) := by
  have first : Counted node (.start node pid w) := by
    obtain ⟨after, number, seq, requests, records⟩ := start_effect kept pid
    refine ⟨after, ?_, fun entry inside seq same => ?_, fun request inside => ?_, fun record inside => ?_,
      fun entry inside _ => ?_⟩
    · rw [Chronicle.start, List.map_map]
      exact derive_distinct _
    · obtain ⟨record, there, rfl⟩ := List.mem_map.mp inside
      rw [Chronicle.start, number] at same
      exact absurd same (other record there seq)
    · rw [Chronicle.start, requests, restore_requests [] (derive_distinct _), List.nil_append] at inside
      obtain ⟨record, back, rfl⟩ := List.mem_map.mp inside
      exact ⟨true, List.mem_map_of_mem (List.mem_of_mem_filter back)⟩
    · rw [Chronicle.start, records] at inside
      exact ⟨true, List.mem_map_of_mem inside⟩
    · obtain ⟨record, there, rfl⟩ := List.mem_map.mp inside
      rw [Chronicle.start, records]
      exact ⟨record, there, rfl⟩
  have keeps (chronicle : Chronicle) (move : Move) (counted : Counted node chronicle) (own : Numbered node chronicle move) :
      Counted node (chronicle.step node move) := by
    cases move with
    | start pid => exact start_counted counted own
    | call call => exact call_counted counted own
  exact (run_keeps keeps first numbered).identified

/-! ### Two processes of one number -/

def lab_request : QueueCall := .request_sandbox "ops" .Switch (some "lab") none

theorem start_first (node : HostNode) (pid : UInt32) (w : World) :
    (Host.start node pid w).pid = pid ∧ (Host.start node pid w).seq = 0 := by
  rw [Host.start, Host.restore_pending_requests]
  split_ifs
  · exact ⟨rfl, rfl⟩
  · exact ⟨rfl, rfl⟩

/-- The first ask of a process is its number's first. -/
theorem first_ask (node : HostNode) (chronicle : Chronicle) (pid : UInt32) :
    (run (Chronicle.step node) chronicle [.start pid, .call lab_request]).asked =
      chronicle.asked ++ [(⟨request_id pid 1, "ops", .Switch, some "lab"⟩, true)] := by
  obtain ⟨number, seq⟩ := start_first node pid chronicle.host.world
  have asked : (run (Chronicle.step node) chronicle [.start pid, .call lab_request]).asked = chronicle.asked ++
      [(⟨request_id (Host.start node pid chronicle.host.world).pid ((Host.start node pid chronicle.host.world).seq + 1),
        "ops", .Switch, some "lab"⟩, true)] := rfl
  rw [asked, number, seq]
  rfl

/-- No id of the seventh process is one of the eighth. -/
theorem seven_not_eight (seq : UInt64) : request_id 7 1 ≠ request_id 8 seq := by
  intro same
  have start := congrArg (fun id : String => id.toList.take 5) same
  have eighth : request_id 8 seq = "req-8-" ++ toString seq.toNat := by
    rw [request_id, show "req-" ++ toString (8 : UInt32).toNat ++ "-" = "req-8-" by decide]
  rw [eighth] at start
  simp only [String.toList_append] at start
  have seventh : (request_id 7 1).toList.take 5 = ['r', 'e', 'q', '-', '7'] := by decide
  rw [seventh] at start
  simp at start

/-- Two processes of different numbers, and an ask in each. -/
theorem two_numbers_identified :
    Identified lab_node (run (Chronicle.step lab_node) (.start lab_node 7 new_world)
      [.call lab_request, .start 8, .call lab_request]) := by
  refine asks_identified lab_node new_world (new_world_kept lab_node) 7 (fun record inside => nomatch inside) _
    ⟨fun _ _ _ => ?_, fun entry inside seq => ?_, fun _ _ _ => ?_, trivial⟩
  · decide
  · have asked : (Chronicle.step lab_node (.start lab_node 7 new_world) (.call lab_request)).asked = [(lab_ask, true)] := by
      decide
    rw [asked, List.mem_singleton] at inside
    rw [inside]
    exact seven_not_eight seq
  · rw [Chronicle.step, (start_first _ _ _).2]
    decide

/-- Two processes of one number give two asks one id. -/
theorem one_number_two_asks : ¬ ∀ (node : HostNode) (w : World), Kept node w → ∀ (pid : UInt32),
    (∀ record ∈ derive_requests_from (Host.chain_events node.crates node.store w), ∀ seq, record.id ≠ request_id pid seq) →
      ∀ moves : List Move, Identified node (run (Chronicle.step node) (.start node pid w) moves) := by
  intro identified
  have twice := identified lab_node new_world (new_world_kept lab_node) 7 (fun record inside => nomatch inside)
    [.call lab_request, .start 7, .call lab_request]
  have asked : (Chronicle.step lab_node (.start lab_node 7 new_world) (.call lab_request)).asked = [(lab_ask, true)] := by
    decide
  have once := twice.once
  rw [run_cons, first_ask, asked] at once
  exact absurd once (by decide)

end Riscdom.Core
