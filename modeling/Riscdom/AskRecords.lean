import Riscdom.Asking
import Riscdom.DeliverySteps

/-!
Asks on the chain and asks in the queue: what each row does to the record of the
asks, what each call does to those that wait, and that a restoration puts back
exactly the asks that the chain holds undecided.
-/
namespace Riscdom.Core
open Riscdom.Json Riscdom.HashChain Riscdom.Audit Riscdom.Net Fallible.Act

/-- An ask, whatever became of it. -/
structure Ask where
  id : String
  requester_agent_id : String
  action : SandboxAction
  sandbox : Option String
deriving DecidableEq

def SandboxRequest.ask (request : SandboxRequest) : Ask :=
  ⟨request.id, request.requester_agent_id, request.action, request.sandbox⟩
def ReconciledRequest.ask (record : ReconciledRequest) : Ask :=
  ⟨record.id, record.requester_agent_id, record.action, record.sandbox⟩

/-- The asks of a queue that wait for a decision. -/
def waiting (requests : SandboxRequests) : List Ask :=
  (requests.filter fun request => request.status = .Pending).map SandboxRequest.ask

/-- The asks of a record that no row decides. -/
def undecided (records : List ReconciledRequest) : List Ask :=
  (records.filter fun record => record.status = .Pending).map ReconciledRequest.ask

theorem mem_waiting {requests : SandboxRequests} {ask : Ask} :
    ask ∈ waiting requests ↔ ∃ request ∈ requests, request.status = .Pending ∧ request.ask = ask := by
  simp [waiting, and_assoc]

theorem mem_undecided {records : List ReconciledRequest} {ask : Ask} :
    ask ∈ undecided records ↔ ∃ record ∈ records, record.status = .Pending ∧ record.ask = ask := by
  simp [undecided, and_assoc]

/-! ### The record of the chain -/

def record_ids (records : List ReconciledRequest) : List String := records.map ReconciledRequest.id

theorem derive_snoc (events : List StoredEvent) (stored : StoredEvent) :
    derive_requests_from (events ++ [stored]) = derive_request (derive_requests_from events) stored := by
  rw [derive_requests_from, List.foldl_append]
  rfl

theorem decided_id (stored : StoredEvent) (record : ReconciledRequest) : (record.decided stored).id = record.id := by
  rw [ReconciledRequest.decided]
  split_ifs <;> rfl

theorem decided_ask (stored : StoredEvent) (record : ReconciledRequest) : (record.decided stored).ask = record.ask := by
  rw [ReconciledRequest.decided]
  split_ifs <;> rfl

theorem decided_not_pending (stored : StoredEvent) (record : ReconciledRequest) : (record.decided stored).status ≠ .Pending := by
  rw [ReconciledRequest.decided]
  split_ifs with before approve
  · exact before
  · exact nofun
  · exact nofun

/-- What an event says of asks: that one was made under an id, or decided. -/
inductive RequestRow
  | ask (id : String) (action : SandboxAction)
  | decision (id : String)
deriving DecidableEq

def request_row (event : AuditEvent) : Option RequestRow :=
  match text_at "id" event.detail with
  | none => none
  | some id =>
    if event.action = ACTION_REQUEST_ASK then ((text_at "action" event.detail).bind SandboxAction.parse).map (.ask id)
    else if event.action = ACTION_REQUEST_APPROVE ∨ event.action = ACTION_REQUEST_REJECT then some (.decision id)
    else none

theorem request_row_other {event : AuditEvent} (other : event.action ≠ ACTION_REQUEST_ASK ∧
    event.action ≠ ACTION_REQUEST_APPROVE ∧ event.action ≠ ACTION_REQUEST_REJECT) : request_row event = none := by
  rw [request_row]
  split
  · rfl
  · rw [if_neg other.1, if_neg (not_or.mpr other.2)]

theorem request_row_decision {event : AuditEvent} {id : String}
    (decides : event.action = ACTION_REQUEST_APPROVE ∨ event.action = ACTION_REQUEST_REJECT)
    (names : text_at "id" event.detail = some id) : request_row event = some (.decision id) := by
  have other : event.action ≠ ACTION_REQUEST_ASK := by
    rcases decides with approve | reject
    · rw [approve]
      decide
    · rw [reject]
      decide
  rw [request_row]
  simp only [names]
  rw [if_neg other, if_pos decides]

/-- A row is folded by what it says: nothing, an ask that is new or known, a decision. -/
theorem derive_request_row (records : List ReconciledRequest) (stored : StoredEvent) :
    derive_request records stored =
      match request_row stored.event with
      | none => records
      | some (.ask id action) => if id ∈ record_ids records then records else records ++ [.asked id action stored]
      | some (.decision id) => rewrite_first (fun record => record.id == id) (.decided stored) records := by
  have known (id : String) : (records.any fun record => record.id == id) = true ↔ id ∈ record_ids records := by
    simp [record_ids]
  rw [derive_request, request_row]
  cases text_at "id" stored.event.detail with
  | none => rfl
  | some id =>
    simp only
    by_cases ask : stored.event.action = ACTION_REQUEST_ASK
    · rw [if_pos ask, if_pos ask]
      cases (text_at "action" stored.event.detail).bind SandboxAction.parse with
      | none => exact ite_self records
      | some action =>
        by_cases held : id ∈ record_ids records
        · exact (if_pos ((known id).mpr held)).trans (if_pos held).symm
        · exact (if_neg (mt (known id).mp held)).trans (if_neg held).symm
    · rw [if_neg ask, if_neg ask]
      by_cases decision : stored.event.action = ACTION_REQUEST_APPROVE ∨ stored.event.action = ACTION_REQUEST_REJECT
      · rw [if_pos decision, if_pos decision]
      · rw [if_neg decision, if_neg decision]

/-- A row keeps the records' ids distinct. -/
theorem derive_request_distinct {records : List ReconciledRequest} (distinct : (record_ids records).Nodup)
    (stored : StoredEvent) : (record_ids (derive_request records stored)).Nodup := by
  rw [derive_request_row]
  split
  · exact distinct
  · next id action _ =>
    split_ifs with held
    · exact distinct
    · rw [record_ids, List.map_append]
      refine List.nodup_append.mpr ⟨distinct, List.nodup_singleton _, fun old inside new last same => ?_⟩
      rw [List.map_singleton, List.mem_singleton] at last
      have name : old = id := same.trans last
      exact held (name ▸ inside)
  · rw [record_ids, map_rewrite_first ReconciledRequest.id fun record _ _ => decided_id stored record]
    exact distinct

/-- No two records of a chain have one id. -/
theorem derive_distinct (events : List StoredEvent) : (record_ids (derive_requests_from events)).Nodup := by
  induction events using List.reverseRecOn with
  | nil => exact List.nodup_nil
  | append_singleton events stored ih =>
    rw [derive_snoc]
    exact derive_request_distinct ih stored

section Rows
variable {records : List ReconciledRequest} {stored : StoredEvent}

/-- A row that is neither an ask nor a decision changes nothing. -/
theorem derive_other (other : request_row stored.event = none) : derive_request records stored = records := by
  rw [derive_request_row, other]

/-- An ask under a new id is put on record. -/
theorem derive_ask {request : SandboxRequest} (asks : stored.event.action = ACTION_REQUEST_ASK)
    (detail : stored.event.detail = ask_detail request) (agent : stored.event.agent_id = some request.requester_agent_id)
    (new : request.id ∉ record_ids records) :
    ∃ record : ReconciledRequest, derive_request records stored = records ++ [record] ∧ record.status = .Pending ∧
      record.ask = request.ask := by
  have get (key : String) : (ask_detail request).get key = _ := get_json key _
  have id : text_at "id" stored.event.detail = some request.id := by
    rw [detail, text_at, get]
    rfl
  have action : text_at "action" stored.event.detail = some request.action.as_str := by
    rw [detail, text_at, get]
    rfl
  have sandbox : text_at "sandbox" stored.event.detail = request.sandbox := by
    rw [detail, text_at, get]
    exact as_str_ofOption _
  have row : request_row stored.event = some (.ask request.id request.action) := by
    rw [request_row]
    simp only [id]
    rw [if_pos asks, action, Option.bind_some, SandboxAction.parse_as_str]
    rfl
  refine ⟨.asked request.id request.action stored, ?_, rfl, ?_⟩
  · rw [derive_request_row, row]
    exact if_neg new
  · rw [ReconciledRequest.ask, SandboxRequest.ask, ReconciledRequest.asked]
    simp only [agent, sandbox, Option.getD_some]

/-- A decision takes the ask under its id out of the undecided ones, and no other. -/
theorem derive_decision {id : String} (distinct : (record_ids records).Nodup)
    (decides : request_row stored.event = some (.decision id)) :
    record_ids (derive_request records stored) = record_ids records ∧
      (derive_request records stored).map ReconciledRequest.ask = records.map ReconciledRequest.ask ∧
      ∀ ask, ask ∈ undecided (derive_request records stored) ↔ ask ∈ undecided records ∧ ask.id ≠ id := by
  have rewritten : derive_request records stored = rewrite_first (fun record => record.id == id) (.decided stored) records := by
    rw [derive_request_row, decides]
  rw [rewritten]
  refine ⟨map_rewrite_first ReconciledRequest.id fun record _ _ => decided_id stored record,
    map_rewrite_first ReconciledRequest.ask fun record _ _ => decided_ask stored record, fun ask => ?_⟩
  simp only [mem_undecided, mem_rewrite_first distinct]
  constructor
  · rintro ⟨record, ⟨kept, apart⟩ | ⟨old, _, _, rfl⟩, pending, rfl⟩
    · exact ⟨⟨record, kept, pending, rfl⟩, apart⟩
    · exact absurd pending (decided_not_pending stored old)
  · rintro ⟨⟨record, kept, pending, rfl⟩, apart⟩
    exact ⟨record, .inl ⟨kept, apart⟩, pending, rfl⟩

/-- The ask that a row of one puts on record waits for a decision. -/
theorem asked_pending (id : String) (action : SandboxAction) (stored : StoredEvent) :
    (ReconciledRequest.asked id action stored).status = .Pending := rfl

theorem undecided_snoc {record : ReconciledRequest} (pending : record.status = .Pending) (ask : Ask) :
    ask ∈ undecided (records ++ [record]) ↔ ask ∈ undecided records ∨ ask = record.ask := by
  simp [undecided, pending]

theorem record_of_undecided {ask : Ask} (inside : ask ∈ undecided records) : ask.id ∈ record_ids records := by
  obtain ⟨record, kept, _, rfl⟩ := mem_undecided.mp inside
  exact List.mem_map_of_mem kept

/-- No row of these decides an ask that the records hold undecided. -/
def DecidesNone (records : List ReconciledRequest) (slice : List StoredEvent) : Prop :=
  ∀ stored ∈ slice, ∀ id, request_row stored.event = some (.decision id) → id ∉ (undecided records).map Ask.id

/-- Rows folded into records: the ids are those of both, and undecided are the asks that were, and those that are in the
    rows alone and new, where no row decides an ask of before. -/
theorem derive_slice (distinct : (record_ids records).Nodup) (slice : List StoredEvent) (none_decided : DecidesNone records slice) :
    (record_ids (slice.foldl derive_request records)).Nodup ∧
    (∀ id, id ∈ record_ids (slice.foldl derive_request records) ↔
      id ∈ record_ids records ∨ id ∈ record_ids (derive_requests_from slice)) ∧
    ∀ ask, ask ∈ undecided (slice.foldl derive_request records) ↔
      ask ∈ undecided records ∨ (ask ∈ undecided (derive_requests_from slice) ∧ ask.id ∉ record_ids records) := by
  induction slice using List.reverseRecOn with
  | nil => exact ⟨distinct, fun id => by simp [derive_requests_from, record_ids], fun ask => by simp [derive_requests_from, undecided]⟩
  | append_singleton slice stored ih =>
    obtain ⟨once, ids, asks⟩ := ih fun other inside => none_decided other (List.mem_append_left _ inside)
    have grown : (slice ++ [stored]).foldl derive_request records =
        derive_request (slice.foldl derive_request records) stored := by
      rw [List.foldl_append]
      rfl
    refine ⟨by rw [grown]; exact derive_request_distinct once stored, ?_⟩
    rw [grown, derive_snoc]
    cases row : request_row stored.event with
    | none =>
      rw [derive_other row, derive_other row]
      exact ⟨ids, asks⟩
    | some told =>
      cases told with
      | ask id action =>
        have fold (before : List ReconciledRequest) : derive_request before stored =
            if id ∈ record_ids before then before else before ++ [.asked id action stored] := by
          rw [derive_request_row, row]
        have snoc_ids (before : List ReconciledRequest) (other : String) :
            other ∈ record_ids (before ++ [.asked id action stored]) ↔ other ∈ record_ids before ∨ other = id := by
          simp [record_ids, ReconciledRequest.asked]
        have named : (ReconciledRequest.asked id action stored).ask.id = id := rfl
        rw [fold, fold]
        by_cases alone : id ∈ record_ids (derive_requests_from slice)
        · rw [if_pos alone, if_pos ((ids id).mpr (.inr alone))]
          exact ⟨ids, asks⟩
        · rw [if_neg alone]
          by_cases known : id ∈ record_ids records
          · rw [if_pos ((ids id).mpr (.inl known))]
            refine ⟨fun other => ?_, fun ask => ?_⟩
            · rw [ids, snoc_ids]
              constructor
              · exact fun there => there.imp_right .inl
              · rintro (before | inside | rfl)
                · exact .inl before
                · exact .inr inside
                · exact .inl known
            · rw [asks, undecided_snoc (asked_pending id action stored)]
              constructor
              · exact fun there => there.imp_right fun ⟨inside, new⟩ => ⟨.inl inside, new⟩
              · rintro (before | ⟨inside | rfl, new⟩)
                · exact .inl before
                · exact .inr ⟨inside, new⟩
                · exact absurd known (named ▸ new)
          · rw [if_neg fun there => ((ids id).mp there).elim known alone]
            refine ⟨fun other => ?_, fun ask => ?_⟩
            · rw [snoc_ids, snoc_ids, ids, or_assoc]
            · rw [undecided_snoc (asked_pending id action stored), undecided_snoc (asked_pending id action stored), asks]
              constructor
              · rintro ((before | ⟨inside, new⟩) | rfl)
                · exact .inl before
                · exact .inr ⟨.inl inside, new⟩
                · exact .inr ⟨.inr rfl, named ▸ known⟩
              · rintro (before | ⟨inside | rfl, new⟩)
                · exact .inl (.inl before)
                · exact .inl (.inr ⟨inside, new⟩)
                · exact .inr rfl
      | decision id =>
        obtain ⟨same, _, left⟩ := derive_decision once row
        obtain ⟨alone, _, left_alone⟩ := derive_decision (derive_distinct slice) row
        refine ⟨fun other => by rw [same, alone, ids], fun ask => ?_⟩
        have elsewhere : ask ∈ undecided records → ask.id ≠ id := fun inside name =>
          none_decided stored (List.mem_append_right _ (List.mem_singleton_self _)) id row (name ▸ List.mem_map_of_mem inside)
        rw [left, left_alone, asks]
        constructor
        · rintro ⟨before | ⟨inside, new⟩, other⟩
          · exact .inl before
          · exact .inr ⟨⟨inside, other⟩, new⟩
        · rintro (before | ⟨⟨inside, other⟩, new⟩)
          · exact ⟨.inl before, elsewhere before⟩
          · exact ⟨.inr ⟨inside, new⟩, other⟩

end Rows

/-! ### The queue -/

def request_ids (requests : SandboxRequests) : List String := requests.map SandboxRequest.id

section Queue
variable {requests after : SandboxRequests} {request : SandboxRequest} {id decider : String} {status : SandboxRequestStatus}
  {now : Nat}

/-- A decision of the queue is on the first ask under its id, which waited. -/
theorem decide_ok (decided : requests.decide id status decider now = .ok (request, after)) :
    ∃ old, requests.find? (fun other => other.id == id) = some old ∧ old.status = .Pending ∧
      request = { old with status, decided_by := some decider, decided_at_ms := some now } ∧
      after = rewrite_first (fun other => other.id == id) (fun _ => request) requests := by
  rw [SandboxRequests.decide] at decided
  cases found : requests.find? (fun other => other.id == id) with
  | none =>
    rw [found] at decided
    cases decided
  | some old =>
    rw [found] at decided
    simp only at decided
    by_cases pending : old.status = .Pending
    · rw [if_neg (not_not.mpr pending)] at decided
      cases decided
      exact ⟨old, rfl, pending, rfl, rfl⟩
    · rw [if_pos pending] at decided
      cases decided

theorem decide_named (decided : requests.decide id status decider now = .ok (request, after)) : request.id = id := by
  obtain ⟨old, found, _, rfl, _⟩ := decide_ok decided
  simpa using List.find?_some found

/-- Decided, the ask under the id no longer waits, and the others are as they were. -/
theorem decide_waiting (decided : requests.decide id status decider now = .ok (request, after))
    (final : status ≠ .Pending) (distinct : (request_ids requests).Nodup) :
    id ∈ request_ids requests ∧ request_ids after = request_ids requests ∧
      ∀ ask, ask ∈ waiting after ↔ ask ∈ waiting requests ∧ ask.id ≠ id := by
  obtain ⟨old, found, _, rfl, rfl⟩ := decide_ok decided
  have named : old.id = id := by simpa using List.find?_some found
  refine ⟨List.mem_map.mpr ⟨old, List.mem_of_find?_eq_some found, named⟩, ?_, fun ask => ?_⟩
  · exact map_rewrite_first SandboxRequest.id fun other _ fits => named.trans (beq_iff_eq.mp fits).symm
  · simp only [mem_waiting, mem_rewrite_first distinct]
    constructor
    · rintro ⟨other, ⟨kept, apart⟩ | ⟨_, _, _, rfl⟩, pending, rfl⟩
      · exact ⟨⟨other, kept, pending, rfl⟩, apart⟩
      · exact absurd pending final
    · rintro ⟨⟨other, kept, pending, rfl⟩, apart⟩
      exact ⟨other, .inl ⟨kept, apart⟩, pending, rfl⟩

/-- Taken out of the queue, an ask that waited is gone, and the others are as they were. -/
theorem remove_waiting (removed : requests.remove id = .ok (request, after)) (distinct : (request_ids requests).Nodup) :
    request.id = id ∧ id ∈ request_ids requests ∧ id ∉ request_ids after ∧ (request_ids after).Sublist (request_ids requests) ∧
      ∀ ask, ask ∈ waiting requests ↔ ask ∈ waiting after ∨ (request.status = .Pending ∧ request.ask = ask) := by
  rw [SandboxRequests.remove] at removed
  cases found : requests.find? (fun other => other.id == id) with
  | none =>
    rw [found] at removed
    cases removed
  | some old =>
    rw [found] at removed
    cases removed
    have named : request.id = id := by simpa using List.find?_some found
    obtain ⟨taken, before, behind, earlier, fits, rfl, erased⟩ :=
      List.exists_of_eraseP (p := fun other : SandboxRequest => other.id == id) (List.mem_of_find?_eq_some found)
        (beq_iff_eq.mpr named)
    have first : taken = request := by
      rw [List.find?_append, List.find?_eq_none.mpr earlier, Option.none_or, List.find?_cons, fits] at found
      exact Option.some.inj found
    subst first
    rw [erased]
    have whole : request_ids (before ++ taken :: behind) = request_ids before ++ taken.id :: request_ids behind := by
      simp [request_ids]
    have left : request_ids (before ++ behind) = request_ids before ++ request_ids behind := by simp [request_ids]
    rw [whole] at distinct ⊢
    rw [left]
    obtain ⟨apart, _⟩ := List.nodup_middle.mp distinct |> List.nodup_cons.mp
    rw [← named]
    refine ⟨rfl, by simp, apart, by simp, fun ask => ?_⟩
    simp only [mem_waiting, List.mem_append, List.mem_cons]
    constructor
    · rintro ⟨other, earlier | rfl | later, pending, rfl⟩
      · exact .inl ⟨other, .inl earlier, pending, rfl⟩
      · exact .inr ⟨pending, rfl⟩
      · exact .inl ⟨other, .inr later, pending, rfl⟩
    · rintro (⟨other, earlier | later, pending, rfl⟩ | ⟨pending, rfl⟩)
      · exact ⟨other, .inl earlier, pending, rfl⟩
      · exact ⟨other, .inr (.inr later), pending, rfl⟩
      · exact ⟨taken, .inr (.inl rfl), pending, rfl⟩

/-! ### The restoration -/

/-- One record put back, or left where its id is taken. -/
theorem restore_one_requests (so_far : Restored) (record : ReconciledRequest) :
    (restore_one so_far record).requests = so_far.requests ++
      (if record.status = .Pending ∧ record.id ∉ request_ids so_far.requests then [.restored record] else []) := by
  have held : (so_far.requests.any fun queued => queued.id == record.id) = true ↔ record.id ∈ request_ids so_far.requests := by
    simp [request_ids]
  rw [restore_one]
  by_cases pending : record.status = .Pending
  · rw [if_neg (not_not.mpr pending)]
    by_cases there : record.id ∈ request_ids so_far.requests
    · rw [if_pos (held.mpr there), if_neg fun new => new.2 there, List.append_nil]
    · rw [if_neg (mt held.mp there), if_pos ⟨pending, there⟩]
  · rw [if_pos pending, if_neg fun new => pending new.1, List.append_nil]

/-- The undecided records whose ids are not taken come back, behind those that are there. -/
theorem restore_requests (requests : SandboxRequests) {derived : List ReconciledRequest} (once : (record_ids derived).Nodup) :
    (SandboxRequests.restore requests derived).requests = requests ++
      (derived.filter fun record => record.status = .Pending ∧ record.id ∉ request_ids requests).map .restored := by
  induction derived using List.reverseRecOn with
  | nil => simp [SandboxRequests.restore]
  | append_singleton derived record ih =>
    rw [record_ids, List.map_append] at once
    obtain ⟨once, _, apart⟩ := List.nodup_append.mp once
    have fresh : ∀ other ∈ derived, other.id ≠ record.id :=
      fun other inside same => apart _ (List.mem_map_of_mem inside) _ List.mem_cons_self same
    have step : (SandboxRequests.restore requests (derived ++ [record])).requests =
        (SandboxRequests.restore requests derived).requests ++
          (if record.status = .Pending ∧ record.id ∉ request_ids (SandboxRequests.restore requests derived).requests then
            [.restored record] else []) := by
      rw [← restore_one_requests, SandboxRequests.restore, SandboxRequests.restore, List.foldl_append]
      rfl
    have there : record.id ∈ request_ids (SandboxRequests.restore requests derived).requests ↔
        record.id ∈ request_ids requests := by
      rw [ih once, request_ids, List.map_append, List.mem_append]
      refine ⟨fun held => held.resolve_right fun back => ?_, .inl⟩
      obtain ⟨_, restored, same⟩ := List.mem_map.mp back
      obtain ⟨other, inside, rfl⟩ := List.mem_map.mp restored
      exact fresh other (List.mem_of_mem_filter inside) same
    simp only [there] at step
    rw [step, ih once, List.filter_append, List.map_append, List.append_assoc]
    by_cases back : record.status = .Pending ∧ record.id ∉ request_ids requests
    · rw [if_pos back, List.filter_cons_of_pos (by simpa using back)]
      rfl
    · rw [if_neg back, List.filter_cons_of_neg (by simpa using back)]
      rfl

section Restore
variable {requests : SandboxRequests} {derived : List ReconciledRequest} (once : (record_ids derived).Nodup)
include once

/-- What waits after a restoration waited before it, or is undecided on the chain under an id that was free. -/
theorem restore_waiting (ask : Ask) : ask ∈ waiting (SandboxRequests.restore requests derived).requests ↔
    ask ∈ waiting requests ∨ (ask ∈ undecided derived ∧ ask.id ∉ request_ids requests) := by
  rw [restore_requests requests once, waiting, List.filter_append, List.map_append, List.mem_append]
  refine or_congr Iff.rfl ?_
  simp only [mem_undecided, List.mem_map, List.mem_filter, decide_eq_true_eq]
  constructor
  · rintro ⟨_, ⟨⟨record, ⟨inside, pending, free⟩, rfl⟩, _⟩, rfl⟩
    exact ⟨⟨record, inside, pending, rfl⟩, free⟩
  · rintro ⟨⟨record, inside, pending, rfl⟩, free⟩
    exact ⟨.restored record, ⟨⟨record, ⟨inside, pending, free⟩, rfl⟩, rfl⟩, rfl⟩

theorem restore_distinct (distinct : (request_ids requests).Nodup) :
    (request_ids (SandboxRequests.restore requests derived).requests).Nodup := by
  rw [restore_requests requests once, request_ids, List.map_append, List.map_map]
  refine List.nodup_append.mpr ⟨distinct, ?_, ?_⟩
  · exact List.Sublist.nodup (List.Sublist.map ReconciledRequest.id List.filter_sublist) once
  · rintro held there back restored rfl
    obtain ⟨record, inside, rfl⟩ := List.mem_map.mp restored
    exact (of_decide_eq_true (List.mem_filter.mp inside).2).2 there

end Restore

/-- A queue filled from nothing but a chain holds the chain's undecided asks. -/
theorem restored_from_nothing (events : List StoredEvent) (ask : Ask) :
    ask ∈ waiting (SandboxRequests.restore [] (derive_requests_from events)).requests ↔
      ask ∈ undecided (derive_requests_from events) := by
  rw [restore_waiting (derive_distinct events)]
  simp [waiting, request_ids]

end Queue

end Riscdom.Core
