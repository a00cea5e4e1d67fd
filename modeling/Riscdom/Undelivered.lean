import Riscdom.Relaying

/-!
Frames to a node that cannot be reached: the record takes a frame before its
destination is looked for, so a frame that goes nowhere is spent all the same.
The same bytes are refused from then on, and what still gets through is a frame
of the sender with a later time.
-/
namespace Riscdom.Net
open Riscdom.Machine

/-- The frame passed every check of the sender, and could not be delivered. -/
def RelayError.undelivered : RelayError → Bool
  | .UnknownDestination _ => true
  | .NoSession _ => true
  | .Transport _ => true
  | .Malformed _ => false
  | .Refused _ => false

variable {wire : Wire} {server_node_id : String} {frame : String} {message : SignedMessage} {guard : ReplayGuard}
  {setting : Setting} {arrival : Arrival}

/-! ### A frame that is taken -/

/-- The destination of a frame is looked for after the record took the frame. -/
theorem route_taken (read : SignedMessage.parse_line wire frame = .ok message) (elsewhere : message.recipient ≠ server_node_id)
    (taken : Taken wire message guard setting) :
    route wire server_node_id frame guard setting =
      if (setting.peers.entry message.recipient).isNone then
        ⟨.error (.UnknownDestination message.recipient), guard.step (message.call wire setting.now), []⟩
      else
        match forward_to setting.sessions setting.write_all message.recipient frame with
        | (.error error, handed) => ⟨.error error, guard.step (message.call wire setting.now), handed⟩
        | (.ok (), handed) =>
          ⟨.ok (.Forwarded message.sender message.recipient), guard.step (message.call wire setting.now), handed⟩ := by
  obtain ⟨identified, recorded⟩ := taken_iff.mp taken
  have checked : check_record wire message guard setting.now = (.ok (), guard.step (message.call wire setting.now)) :=
    Prod.ext recorded (check_record_step guard setting.now).1
  rw [route_elsewhere read elsewhere, route_forwarded, authenticate_forwarded, identified]
  generalize check_record wire message guard setting.now = record at checked ⊢
  subst checked
  rfl

/-- What is refused of a frame to the server was refused by the checks of its sender. -/
theorem route_local_refused {error : RelayError} (refused : (route_local wire message guard setting).result = .error error) :
    ∃ why, error = .Refused why := by
  unfold route_local at refused
  split at refused
  · cases refused
    exact ⟨_, rfl⟩
  · simp only at refused
    split at refused
    · cases refused
      exact ⟨_, rfl⟩
    · cases refused

/-- Only a frame to somebody else that the record took is undelivered. -/
theorem taken_of_undelivered {error : RelayError} (refused : (route wire server_node_id frame guard setting).result = .error error)
    (undelivered : error.undelivered = true) :
    ∃ message, SignedMessage.parse_line wire frame = .ok message ∧ message.recipient ≠ server_node_id ∧
      Taken wire message guard setting := by
  cases read : SignedMessage.parse_line wire frame with
  | error unread =>
    rw [route_unread read] at refused
    cases refused
    cases undelivered
  | ok message =>
    have elsewhere : message.recipient ≠ server_node_id := by
      intro here
      rw [route_to_server read here] at refused
      obtain ⟨why, rfl⟩ := route_local_refused refused
      cases undelivered
    refine ⟨message, rfl, elsewhere, taken_iff.mpr ?_⟩
    cases identified : check_identity wire message setting.keys with
    | error why =>
      rw [route_unidentified read identified] at refused
      cases refused
      cases undelivered
    | ok _ =>
      refine ⟨rfl, ?_⟩
      cases recorded : (check_record wire message guard setting.now).1 with
      | error why =>
        rw [((route_recorded read identified fun opens => elsewhere opens.1).2 why recorded).1] at refused
        cases refused
        cases undelivered
      | ok _ => rfl

/-- A frame that is taken goes through where its destination is placed, dialled in and writable. -/
theorem route_delivered {live : Live} (read : SignedMessage.parse_line wire frame = .ok message)
    (elsewhere : message.recipient ≠ server_node_id) (taken : Taken wire message guard setting)
    (placed : (setting.peers.entry message.recipient).isSome = true) (session : setting.sessions message.recipient = some live)
    (written : setting.write_all = .ok ()) :
    (route wire server_node_id frame guard setting).result = .ok (.Forwarded message.sender message.recipient) ∧
      (route wire server_node_id frame guard setting).handed = [(live.writer, frame_bytes frame)] := by
  obtain ⟨entry, placed⟩ := Option.isSome_iff_exists.mp placed
  rw [route_taken read elsewhere taken, placed, forward_to, session, written]
  exact ⟨rfl, rfl⟩

/-! ### The record after it -/

/-- The record has taken a message: the entry of its sender stands at its time and holds its body, and the rest is as it was. -/
structure TakenInto (wire : Wire) (message : SignedMessage) (before after : ReplayGuard) : Prop where
  window : after.window = before.window
  others : ∀ peer, peer ≠ message.sender → after.peers peer = before.peers peer
  own : ∃ seen, after.peers message.sender = some ⟨message.ts, insert (Audit.fingerprint wire.crates message.body) seen⟩

theorem takenInto_step (taken : Taken wire message guard setting) :
    TakenInto wire message guard (guard.step (message.call wire setting.now)) := by
  obtain ⟨-, -, seen, written, -⟩ := ReplayGuard.accept_eq_ok taken.2.2
  refine ⟨ReplayGuard.step_window guard _, fun peer other => ReplayGuard.step_other other, seen, ?_⟩
  rw [written]
  exact (ReplayGuard.write_peers _ _ _).trans (if_pos rfl)

/-- Spent bytes are refused by the checks of their sender, handed to nobody, and leave the record as it is. -/
theorem route_spent (read : SignedMessage.parse_line wire frame = .ok message) (elsewhere : message.recipient ≠ server_node_id)
    (spent : guard.Spent (message.triple wire)) :
    ∃ why, (route wire server_node_id frame guard setting).result = .error (.Refused why) ∧
      (route wire server_node_id frame guard setting).handed = [] ∧
      (route wire server_node_id frame guard setting).guard = guard ∧
      (check_identity wire message setting.keys = .ok () → guard.Inside (message.call wire setting.now) →
        why = .Replay message.sender message.ts) := by
  have other : ¬ Opens server_node_id message := fun opens => elsewhere opens.1
  cases identified : check_identity wire message setting.keys with
  | error why =>
    rw [route_unidentified read identified]
    refine ⟨why, rfl, rfl, rfl, ?_⟩
    rintro ⟨⟩
  | ok _ =>
    rw [← message.call_triple wire setting.now] at spent
    have untouched : (route wire server_node_id frame guard setting).guard = guard :=
      (route_recorded read identified other).1.trans (ReplayGuard.step_of_spent spent).1
    cases recorded : (check_record wire message guard setting.now).1 with
    | ok _ =>
      have accepted := (check_record_step guard setting.now).2.mp recorded
      exact absurd spent (ReplayGuard.not_spent_of_accepted accepted)
    | error why =>
      obtain ⟨refused, nobody⟩ := (route_recorded read identified other).2 why recorded
      refine ⟨why, refused, nobody, untouched, ?_⟩
      intro _ inside
      rw [message.call_triple] at spent
      have replay : (Arrival.passage wire server_node_id guard ⟨frame, setting⟩).result =
          .error (.Refused (.Replay message.sender message.ts)) :=
        @refused_of_spent wire server_node_id message guard ⟨frame, setting⟩ read identified other inside spent
      rw [Arrival.passage, refused] at replay
      cases replay
      rfl

/-- A message with a later time than the one taken last is no replay. -/
theorem fresh_of_later {before : ReplayGuard} {fresh : SignedMessage} (into : TakenInto wire message before guard)
    (own : fresh.sender = message.sender) (later : message.ts < fresh.ts) : ¬ guard.Replayed (fresh.call wire setting.now) := by
  obtain ⟨seen, held⟩ := into.own
  rw [← own] at held
  rintro (older | ⟨same, -⟩)
  · rw [SignedMessage.call, held, Option.getD_some] at older
    exact Int64.lt_asymm older later
  · rw [SignedMessage.call, held, Option.getD_some] at same
    have same : fresh.ts = message.ts := same
    rw [same] at later
    exact Int64.lt_irrefl later

/-- What an undelivered frame leaves behind: the record has taken it, its own bytes are refused after any run of other
    frames, and a later frame of its sender goes through once its destination is back. -/
theorem undelivered_frame_spent (wire : Wire) (server_node_id : String) (guard : ReplayGuard) (arrival : Arrival)
    (error : RelayError) (refused : (arrival.passage wire server_node_id guard).result = .error error)
    (undelivered : error.undelivered = true) :
    ∃ message, SignedMessage.parse_line wire arrival.frame = .ok message ∧
      TakenInto wire message guard (relay wire server_node_id guard arrival) ∧
      (∀ arrivals setting, ∃ why,
        let record := run (relay wire server_node_id) (relay wire server_node_id guard arrival) arrivals
        let again := route wire server_node_id arrival.frame record setting
        again.result = .error (.Refused why) ∧ again.handed = [] ∧ again.guard = record ∧
          (check_identity wire message setting.keys = .ok () → record.Inside (message.call wire setting.now) →
            why = .Replay message.sender message.ts)) ∧
      ∀ (fresh : SignedMessage) (live : Live) (later : Arrival), SignedMessage.parse_line wire later.frame = .ok fresh → fresh.sender = message.sender →
        message.ts < fresh.ts → fresh.recipient ≠ server_node_id →
        check_identity wire fresh later.setting.keys = .ok () → guard.Inside (fresh.call wire later.setting.now) →
        (later.setting.peers.entry fresh.recipient).isSome = true → later.setting.sessions fresh.recipient = some live →
        later.setting.write_all = .ok () →
        (later.passage wire server_node_id (relay wire server_node_id guard arrival)).result =
            .ok (.Forwarded fresh.sender fresh.recipient) ∧
          (later.passage wire server_node_id (relay wire server_node_id guard arrival)).handed =
            [(live.writer, frame_bytes later.frame)] := by
  obtain ⟨message, read, elsewhere, taken⟩ := taken_of_undelivered refused undelivered
  have recorded : Recorded wire server_node_id message guard arrival.setting := ⟨fun opens => elsewhere opens.1, taken⟩
  have into : TakenInto wire message guard (relay wire server_node_id guard arrival) := by
    rw [relay_of_recorded read recorded]
    exact takenInto_step taken
  refine ⟨message, read, into, ?_, ?_⟩
  · intro arrivals setting
    exact route_spent read elsewhere (spent_run (spent_of_recorded read recorded) arrivals)
  · intro fresh live later opened own newer away identified inside placed session written
    have accepted := ReplayGuard.accept_toBool_iff.mpr
      ⟨by rwa [ReplayGuard.Inside, into.window], @fresh_of_later wire message _ later.setting _ fresh into own newer⟩
    exact route_delivered opened away ⟨(check_identity_ok.mp identified).1, (check_identity_ok.mp identified).2, accepted⟩
      placed session written

/-! ### One takeover told to a peer that is away -/

/-- The takeover told to the first peer while it is not dialled in. -/
def lost : Arrival := ⟨takeover_line "dev-b" "1700000000000" ++ "\n", { two_peers 1700000000000 with sessions := fun _ => none }⟩

theorem lost_read : SignedMessage.parse_line takeover_wire lost.frame = .ok (takeover "dev-b" 1700000000000) :=
  takeover_read ("dev-b", "1700000000000", 1700000000000) (by decide)

theorem lost_taken : Taken takeover_wire (takeover "dev-b" 1700000000000) .new lost.setting := told_first_recorded.2

theorem lost_result : (lost.passage takeover_wire "relay-1" .new).result = .error (.NoSession "dev-b") := by
  rw [Arrival.passage, route_taken lost_read (by decide) lost_taken]
  rfl

theorem lost_takeover_spent : (told "dev-d" "1700000000001" 1700000000001 |>.passage takeover_wire "relay-1"
    (relay takeover_wire "relay-1" .new lost)).result = .ok (.Forwarded "dev-a" "dev-d") := by
  obtain ⟨message, read, -, -, later⟩ := undelivered_frame_spent takeover_wire "relay-1" .new lost _ lost_result rfl
  rw [lost_read] at read
  cases read
  exact (later (takeover "dev-d" 1700000000001) ⟨1, "10.0.0.4:50000", 8⟩ (told "dev-d" "1700000000001" 1700000000001)
    (takeover_read ("dev-d", "1700000000001", 1700000000001) (by decide)) rfl (by decide) (by decide)
    (check_identity_ok.mpr ⟨takeover_signed _ _ _, rfl⟩) (by decide) (by decide) rfl rfl).1

/-- A takeover refused because its destination has no session changes the record, and is a replay once the destination is back. -/
theorem lost_takeover_refused : (lost.passage takeover_wire "relay-1" .new).result = .error (.NoSession "dev-b") ∧
    relay takeover_wire "relay-1" .new lost ≠ .new ∧
    ((told "dev-b" "1700000000000" 1700000000000).passage takeover_wire "relay-1"
      (relay takeover_wire "relay-1" .new lost)).result = .error (.Refused (.Replay "dev-a" 1700000000000)) := by
  have recorded : Recorded takeover_wire "relay-1" (takeover "dev-b" 1700000000000) .new lost.setting :=
    ⟨by decide, lost_taken⟩
  have spent := spent_of_recorded lost_read recorded
  refine ⟨lost_result, ?_, ?_⟩
  · intro same
    rw [same] at spent
    obtain ⟨record, held, -⟩ := spent
    cases held
  · have read : SignedMessage.parse_line takeover_wire (told "dev-b" "1700000000000" 1700000000000).frame =
        .ok (takeover "dev-b" 1700000000000) := lost_read
    have inside : (relay takeover_wire "relay-1" .new lost).Inside
        ((takeover "dev-b" 1700000000000).call takeover_wire 1700000000000) := by
      rw [relay_of_recorded lost_read recorded, ReplayGuard.Inside, ReplayGuard.step_window]
      decide
    exact refused_of_spent read (check_identity_ok.mpr ⟨takeover_signed _ _ _, rfl⟩) (by decide) inside spent

end Riscdom.Net
