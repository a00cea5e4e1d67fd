import Riscdom.AskRecords

/-!
Who decided, when a peer's frame says so. The frame's sender is verified; the
decider that the row and the queue name is read from the frame's body.
-/
namespace Riscdom.Core
open Riscdom.Json Riscdom.HashChain Riscdom.Audit Riscdom.Net Fallible.Act

/-- Rows that were not on the chain before name a node as the decider, and so does every place of the queue that changed. -/
structure NamesDecider (node : HostNode) (decider : String) (host after : Host) : Prop where
  rows : ∀ row ∈ (after.world.rows node.store).drop (host.world.rows node.store).length, ∃ event,
    Records node.crates event row ∧ event.agent_id = some decider ∧ text_at "decided_by" event.detail = some decider
  queue : ∀ (place : Nat) (request : SandboxRequest), after.requests[place]? = some request → host.requests[place]? ≠ some request →
    request.decided_by = some decider

/-- A frame's decision is taken: it is in one of the two words, and the first ask under its id waits. -/
def Taken (host : Host) (node_id centre : String) (message : SignedMessage) (decision : RequestDecision) : Prop :=
  decision_in node_id centre message = some decision ∧ (Host.decided_status decision.decision).isSome = true ∧
    ∃ request, host.requests.find? (fun other => other.id == decision.request_id) = some request ∧
      request.status = .Pending

/-- The first fit is rewritten in its place. -/
theorem rewrite_first_split {α : Type} {fits : α → Bool} (rewrite : α → α) {list : List α} {a : α}
    (found : list.find? fits = some a) :
    ∃ before behind, list = before ++ a :: behind ∧ rewrite_first fits rewrite list = before ++ rewrite a :: behind := by
  induction list with
  | nil => cases found
  | cons b rest ih =>
    rw [rewrite_first]
    rw [List.find?_cons] at found
    cases fitting : fits b with
    | true =>
      rw [fitting] at found
      cases found
      exact ⟨[], rest, rfl, rfl⟩
    | false =>
      rw [fitting] at found
      obtain ⟨before, behind, rfl, rewritten⟩ := ih found
      exact ⟨b :: before, behind, rfl, by simp [rewritten]⟩

section Decision
variable {node : HostNode} {host : Host}

/-- Nothing changed, and nothing names anybody. -/
theorem names_decider_refl (decider : String) : NamesDecider node decider host host where
  rows := fun row inside => by
    rw [List.drop_length] at inside
    cases inside
  queue := fun _ _ same other => absurd same other

/-- A row that was to be written is there, or the chain is as it was. -/
theorem record_rows (node : HostNode) (event : AuditEvent) (w : World) :
    ∃ rows, (node.record event w).2.rows node.store = w.rows node.store ++ rows ∧ ∀ row ∈ rows, Records node.crates event row := by
  cases outcome : w.append_error with
  | none =>
    refine ⟨[(w.db node.store).audit_events.row_of node.crates event], ?_, ?_⟩
    · have after : (node.record event w).2 = w.append_spent.appended node.crates node.store event :=
        congrArg Prod.snd (AuditStore.append_granted node.crates node.store outcome event)
      rw [after, World.rows, World.appended, World.db_put_self]
      rfl
    · intro row inside
      rw [List.mem_singleton.mp inside]
      exact ⟨rfl, rfl, rfl, rfl, rfl⟩
  | some error =>
    refine ⟨[], ?_, by simp⟩
    have after : (node.record event w).2 = w.append_spent :=
      congrArg Prod.snd (AuditStore.append_refused node.crates node.store outcome event)
    rw [after, List.append_nil]
    rfl

/-- A decision that is taken is in the queue and on the chain under the name its body gives. -/
theorem decide_request_from_peer_taken (node : HostNode) {decision : RequestDecision} {status : SandboxRequestStatus} (now : Int)
    (word : Host.decided_status decision.decision = some status) {old : SandboxRequest}
    (found : host.requests.find? (fun other => other.id == decision.request_id) = some old) (pending : old.status = .Pending) :
    ∃ request rows before behind, status ≠ .Pending ∧ request.status = status ∧ request.decided_by = some decision.decided_by ∧
      host.requests = before ++ old :: behind ∧
      (host.decide_request_from_peer node decision now).2.requests = before ++ request :: behind ∧
      (host.decide_request_from_peer node decision now).2.world.rows node.store = host.world.rows node.store ++ rows ∧
      ∀ row ∈ rows, ∃ event, Records node.crates event row ∧ event.agent_id = some decision.decided_by ∧
        text_at "decided_by" event.detail = some decision.decided_by := by
  have final : status ≠ .Pending := by
    rintro rfl
    unfold Host.decided_status at word
    split at word <;> cases word
  let request : SandboxRequest := { old with
    status, decided_by := some decision.decided_by, decided_at_ms := some (host.world.clock.headD 0).toNat }
  obtain ⟨before, behind, split, rewritten⟩ := rewrite_first_split (fun _ => request) found
  have decided : host.requests.decide decision.request_id status decision.decided_by (host.world.clock.headD 0).toNat =
      .ok (request, before ++ request :: behind) := by
    rw [SandboxRequests.decide, found]
    simp only
    rw [if_neg (not_not.mpr pending), ← rewritten]
  let event : AuditEvent := {
    timestamp_ms := now
    actor := "host"
    action := if status = .Approved then ACTION_REQUEST_APPROVE else ACTION_REQUEST_REJECT
    detail := decision_detail request decision.decided_by
    agent_id := some decision.decided_by }
  have taken : (host.decide_request_from_peer node decision now).2 =
      { host.ticked with requests := before ++ request :: behind }.audited (node.record event) := by
    rw [Host.decide_request_from_peer, word]
    simp only [decided]
    rfl
  have get (key : String) : (decision_detail request decision.decided_by).get key = _ := get_json key _
  obtain ⟨rows, grown, recorded⟩ := record_rows node event host.ticked.world
  refine ⟨request, rows, before, behind, final, rfl, rfl, split, by rw [taken]; rfl, by rw [taken]; exact grown, ?_⟩
  intro row inside
  refine ⟨_, recorded row inside, rfl, ?_⟩
  rw [text_at, get]
  rfl

/-- A decision that is not taken changes nothing. -/
theorem decide_request_from_peer_ignored {decision : RequestDecision} (now : Int)
    (ignored : (Host.decided_status decision.decision).isSome = true → ∀ request,
      host.requests.find? (fun other => other.id == decision.request_id) = some request → request.status ≠ .Pending) :
    (host.decide_request_from_peer node decision now).2 = host := by
  rw [Host.decide_request_from_peer]
  cases word : Host.decided_status decision.decision with
  | none => rfl
  | some status =>
    rw [word] at ignored
    simp only [SandboxRequests.decide]
    cases found : host.requests.find? (fun other => other.id == decision.request_id) with
    | none => rfl
    | some old =>
      simp only
      rw [if_pos (ignored rfl old found)]

/-- The sender of a peer's frame is recorded as the decider exactly when the frame's decision, where it is taken, names
    that sender. -/
theorem sender_decides_iff (node : HostNode) (host : Host) (node_id centre : String) (message : SignedMessage) (now : Int) :
    NamesDecider node message.sender host (host.receive_frame node node_id centre message now) ↔
      ∀ decision, Taken host node_id centre message decision → decision.decided_by = message.sender := by
  rw [Host.receive_frame]
  cases read : decision_in node_id centre message with
  | none =>
    refine ⟨fun _ decision taken => ?_, fun _ => names_decider_refl _⟩
    rw [taken.1] at read
    cases read
  | some decision =>
    have only (other : RequestDecision) (taken : Taken host node_id centre message other) : other = decision :=
      Option.some.inj (taken.1.symm.trans read)
    simp only
    by_cases taken : Taken host node_id centre message decision
    · obtain ⟨_, understood, old, found, pending⟩ := taken
      obtain ⟨status, word⟩ := Option.isSome_iff_exists.mp understood
      obtain ⟨request, rows, before, behind, final, decided, named, split, requests, grown, recorded⟩ :=
        decide_request_from_peer_taken node now word found pending
      constructor
      · intro names other taken
        rw [only other taken]
        have changed : host.requests[before.length]? ≠ some request := by
          rw [split, List.getElem?_append_right le_rfl, Nat.sub_self]
          rintro ⟨⟩
          exact final (decided.symm.trans pending)
        have there : (host.decide_request_from_peer node decision now).2.requests[before.length]? = some request := by
          rw [requests, List.getElem?_append_right le_rfl, Nat.sub_self]
          rfl
        exact Option.some.inj (named.symm.trans (names.queue _ request there changed))
      · intro named_sender
        have sender := named_sender decision ⟨read, understood, old, found, pending⟩
        rw [sender] at named recorded
        refine ⟨fun row inside => ?_, fun place other there changed => ?_⟩
        · rw [grown, List.drop_left] at inside
          exact recorded row inside
        · rw [requests] at there
          rw [split] at changed
          rcases Nat.lt_trichotomy place before.length with earlier | rfl | later
          · rw [List.getElem?_append_left earlier] at there changed
            exact absurd there changed
          · rw [List.getElem?_append_right le_rfl, Nat.sub_self] at there
            cases there
            exact named
          · obtain ⟨beyond, same⟩ := Nat.exists_eq_add_of_lt later
            have past (first : SandboxRequest) : (before ++ first :: behind)[place]? = behind[beyond]? := by
              rw [List.getElem?_append_right later.le, show place - before.length = beyond + 1 by omega]
              rfl
            rw [past] at there changed
            exact absurd there changed
    · rw [decide_request_from_peer_ignored now fun understood old found pending => taken ⟨read, understood, old, found, pending⟩]
      exact ⟨fun _ other taken_too => absurd (only other taken_too ▸ taken_too) taken, fun _ => names_decider_refl _⟩

/-! ### A peer that names another -/

/-- The frame of a peer that answers an ask in the name of the centre. -/
def answering (sender decided_by : String) : SignedMessage where
  v := 1
  sender
  recipient := "dev-a"
  ts := 5
  body := request_decision_body "req-7-1" "approved" decided_by 5
  sig := ""

/-- A process whose queue holds one ask. -/
def asking_host : Host :=
  ⟨7, 1, [⟨"req-7-1", "dev-a", .Switch, none, none, 0, .Pending, none, none⟩], ⟨fun _ => none, [], [], [], []⟩, []⟩

/-- The centre's decision of an ask, sent by another peer, is recorded as the centre's. -/
theorem named_decider_recorded : ¬ ∀ (node : HostNode) (host : Host) (node_id centre : String) (message : SignedMessage)
    (now : Int), NamesDecider node message.sender host (host.receive_frame node node_id centre message now) := by
  intro names
  have recorded := (names ⟨provisional_crates, ⟨["data", "audit.db"]⟩, "dev-a", false⟩ asking_host "dev-a" "hub"
    (answering "dev-b" "hub") 5).queue 0 ⟨"req-7-1", "dev-a", .Switch, none, none, 0, .Approved, some "hub", some 0⟩ rfl
      (by decide)
  exact absurd recorded (by decide)

end Decision

end Riscdom.Core
