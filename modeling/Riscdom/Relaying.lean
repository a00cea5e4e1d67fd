import Riscdom.Route

/-!
What the routing rule comes to: one frame is handed down a session exactly when
it meets every condition of the rule, and over a run no frame but a hello is
handed on or answered twice. The record tells two frames of one peer apart by
their time and body alone.
-/
namespace Riscdom.Net
open Riscdom.Json Riscdom.Machine

section Relaying
variable (wire : Wire) (server_node_id : String)

/-! ### What is handed on -/

/-- All that a frame to somebody else must meet to be handed down a session. -/
structure Deliverable (frame : String) (guard : ReplayGuard) (setting : Setting) (message : SignedMessage)
    (live : Live) : Prop where
  parses : SignedMessage.parse_line wire frame = .ok message
  known : setting.keys.knows message.sender = true
  signed : ∃ key ∈ setting.keys.keys_of message.sender, message.verify_with wire key = true
  version : message.v = PROTOCOL_VERSION
  inside : guard.Inside (message.call wire setting.now)
  fresh : ¬ guard.Replayed (message.call wire setting.now)
  placed : (setting.peers.entry message.recipient).isSome = true
  elsewhere : message.recipient ≠ server_node_id
  session : setting.sessions message.recipient = some live

variable {wire server_node_id} {frame : String} {message : SignedMessage} {guard : ReplayGuard} {setting : Setting}

theorem taken_iff : Taken wire message guard setting ↔
    check_identity wire message setting.keys = .ok () ∧ (check_record wire message guard setting.now).1 = .ok () := by
  rw [Taken, check_identity_ok, (check_record_step guard setting.now).2, and_assoc]

/-- A frame that is not taken is handed to nobody. -/
theorem handed_of_not_taken (read : SignedMessage.parse_line wire frame = .ok message)
    (elsewhere : message.recipient ≠ server_node_id) (refused : ¬ Taken wire message guard setting) :
    (route wire server_node_id frame guard setting).handed = [] := by
  cases identified : check_identity wire message setting.keys with
  | error error => rw [route_unidentified read identified]
  | ok _ =>
    cases recorded : (check_record wire message guard setting.now).1 with
    | error error => exact ((route_recorded read identified (fun opens => elsewhere opens.1)).2 error recorded).2
    | ok _ => exact absurd (taken_iff.mpr ⟨identified, recorded⟩) refused

/-- A frame that is taken goes down the session of its destination, if it has an entry and a session. -/
theorem handed_of_taken (read : SignedMessage.parse_line wire frame = .ok message)
    (elsewhere : message.recipient ≠ server_node_id) (taken : Taken wire message guard setting) :
    (route wire server_node_id frame guard setting).handed =
      if (setting.peers.entry message.recipient).isSome then
        ((setting.sessions message.recipient).map fun live => (live.writer, frame_bytes frame)).toList
      else [] := by
  obtain ⟨identified, recorded⟩ := taken_iff.mp taken
  rw [route_elsewhere read elsewhere, route_forwarded, authenticate_forwarded, identified]
  simp only
  rcases checked : check_record wire message guard setting.now with ⟨result, after⟩
  rw [checked] at recorded
  cases recorded
  simp only
  cases placed : setting.peers.entry message.recipient with
  | none => rfl
  | some entry =>
    simp only [Option.isNone_some, Option.isSome_some, Bool.false_eq_true, if_false, if_true, forward_to]
    cases setting.sessions message.recipient with
    | none => rfl
    | some live =>
      cases setting.write_all with
      | error why => rfl
      | ok _ => rfl

theorem frame_bytes_of_terminated (terminated : frame.toList.getLast? = some '\n') : frame_bytes frame = frame :=
  if_pos terminated

/-- A deliverable frame is handed on once, down the session of its destination. -/
theorem handed_of_deliverable {live : Live} (deliverable : Deliverable wire server_node_id frame guard setting message live) :
    (route wire server_node_id frame guard setting).handed = [(live.writer, frame_bytes frame)] := by
  have taken : Taken wire message guard setting :=
    ⟨⟨deliverable.known, deliverable.signed⟩, deliverable.version,
      ReplayGuard.accept_toBool_iff.mpr ⟨deliverable.inside, deliverable.fresh⟩⟩
  rw [handed_of_taken deliverable.parses deliverable.elsewhere taken, if_pos deliverable.placed, deliverable.session]
  rfl

/-- What is handed on was deliverable. -/
theorem deliverable_of_handed (handed : (route wire server_node_id frame guard setting).handed ≠ []) :
    ∃ message live, Deliverable wire server_node_id frame guard setting message live := by
  cases read : SignedMessage.parse_line wire frame with
  | error error =>
    rw [route_unread read] at handed
    exact absurd rfl handed
  | ok message =>
    by_cases here : message.recipient = server_node_id
    · rw [route_to_server read here, route_local] at handed
      exfalso
      apply handed
      split
      · rfl
      · simp only
        split
        · rfl
        · rfl
    · by_cases taken : Taken wire message guard setting
      · rw [handed_of_taken read here taken] at handed
        by_cases placed : (setting.peers.entry message.recipient).isSome = true
        · rw [if_pos placed] at handed
          cases session : setting.sessions message.recipient with
          | none =>
            rw [session] at handed
            exact absurd rfl handed
          | some live =>
            obtain ⟨⟨known, signed⟩, version, accepted⟩ := taken
            obtain ⟨inside, fresh⟩ := ReplayGuard.accept_toBool_iff.mp accepted
            exact ⟨message, live, read, known, signed, version, inside, fresh, placed, here, session⟩
        · rw [if_neg placed] at handed
          exact absurd rfl handed
      · exact absurd (handed_of_not_taken read here taken) handed

/-! ### A run of frames -/

variable (wire server_node_id)

/-- A frame as it comes in, and what it is routed against. -/
structure Arrival where
  frame : String
  setting : Setting

def Arrival.passage (guard : ReplayGuard) (arrival : Arrival) : Passage :=
  route wire server_node_id arrival.frame guard arrival.setting

/-- The record after a frame. -/
def relay (guard : ReplayGuard) (arrival : Arrival) : ReplayGuard := (arrival.passage wire server_node_id guard).guard

/-- The frame was handed down a session, or answered here. -/
def Passage.handled (passage : Passage) : Bool :=
  !passage.handed.isEmpty || match passage.result with
    | .ok (.Local _ _ _) => true
    | _ => false

/-- The frame is read, and opens no session. -/
def plain_frame (frame : String) : Bool :=
  match SignedMessage.parse_line wire frame with
  | .ok message => !decide (Opens server_node_id message)
  | .error _ => false

/-- What the record keeps of a frame that can be read. -/
def triple_of (frame : String) : Option (String × Int64 × String) :=
  match SignedMessage.parse_line wire frame with
  | .ok message => some (message.triple wire)
  | .error _ => none

/-- The frames of a run that were handed on or answered, less those that open a session. -/
def handled : ReplayGuard → List Arrival → List String
  | _, [] => []
  | guard, arrival :: arrivals =>
    if plain_frame wire server_node_id arrival.frame && (arrival.passage wire server_node_id guard).handled then
      arrival.frame :: handled (relay wire server_node_id guard arrival) arrivals
    else handled (relay wire server_node_id guard arrival) arrivals

variable {wire server_node_id} {arrival : Arrival}

/-- A frame leaves the record as it was, or asks it once. -/
theorem relay_cases (wire : Wire) (server_node_id : String) (guard : ReplayGuard) (arrival : Arrival) :
    relay wire server_node_id guard arrival = guard ∨
      ∃ call, relay wire server_node_id guard arrival = guard.step call := by
  rw [relay, Arrival.passage]
  cases read : SignedMessage.parse_line wire arrival.frame with
  | error error => exact .inl (by rw [route_unread read])
  | ok message =>
    cases identified : check_identity wire message arrival.setting.keys with
    | error error => exact .inl (by rw [route_unidentified read identified])
    | ok _ =>
      by_cases opens : Opens server_node_id message
      · exact .inl (by rw [route_opening read identified opens])
      · exact .inr ⟨_, (route_recorded read identified opens).1⟩

theorem spent_relay {triple : String × Int64 × String} (spent : guard.Spent triple) (arrival : Arrival) :
    (relay wire server_node_id guard arrival).Spent triple := by
  rcases relay_cases wire server_node_id guard arrival with still | ⟨call, asked⟩
  · rwa [still]
  · rw [asked]
    exact ReplayGuard.spent_step spent call

theorem spent_run {triple : String × Int64 × String} (spent : guard.Spent triple) (arrivals : List Arrival) :
    (run (relay wire server_node_id) guard arrivals).Spent triple := by
  have keeps (guard : ReplayGuard) (arrival : Arrival) (spent : guard.Spent triple) :
      (relay wire server_node_id guard arrival).Spent triple := spent_relay spent arrival
  exact run_invariant keeps spent arrivals

/-- The record takes a frame: it is no hello, it is authentic, and the guard accepts it. -/
def Recorded (wire : Wire) (server_node_id : String) (message : SignedMessage) (guard : ReplayGuard)
    (setting : Setting) : Prop :=
  ¬ Opens server_node_id message ∧ Taken wire message guard setting

theorem relay_of_recorded (read : SignedMessage.parse_line wire arrival.frame = .ok message)
    (recorded : Recorded wire server_node_id message guard arrival.setting) :
    relay wire server_node_id guard arrival = guard.step (message.call wire arrival.setting.now) := by
  obtain ⟨other, taken⟩ := recorded
  exact (route_recorded read (taken_iff.mp taken).1 other).1

theorem spent_of_recorded (read : SignedMessage.parse_line wire arrival.frame = .ok message)
    (recorded : Recorded wire server_node_id message guard arrival.setting) :
    (relay wire server_node_id guard arrival).Spent (message.triple wire) := by
  rw [relay_of_recorded read recorded, ← SignedMessage.call_triple]
  exact ReplayGuard.spent_of_accepted recorded.2.2.2

/-- What is handed on or answered, and is no hello, was taken by the record. -/
theorem recorded_of_handled (plain : plain_frame wire server_node_id arrival.frame = true)
    (done : (arrival.passage wire server_node_id guard).handled = true) :
    ∃ message, SignedMessage.parse_line wire arrival.frame = .ok message ∧
      Recorded wire server_node_id message guard arrival.setting := by
  cases read : SignedMessage.parse_line wire arrival.frame with
  | error error =>
    rw [plain_frame, read] at plain
    cases plain
  | ok message =>
    have other : ¬ Opens server_node_id message := by simpa [plain_frame, read] using plain
    refine ⟨message, rfl, other, ?_⟩
    rw [taken_iff]
    rw [Arrival.passage, Passage.handled] at done
    cases identified : check_identity wire message arrival.setting.keys with
    | error error =>
      rw [route_unidentified read identified] at done
      cases done
    | ok _ =>
      cases recorded : (check_record wire message guard arrival.setting.now).1 with
      | error error =>
        obtain ⟨refused, nobody⟩ := (route_recorded read identified other).2 error recorded
        rw [refused, nobody] at done
        cases done
      | ok _ => exact ⟨rfl, rfl⟩

theorem not_mem_handled {triple : String × Int64 × String} (spent : guard.Spent triple) (arrivals : List Arrival) :
    some triple ∉ (handled wire server_node_id guard arrivals).map (triple_of wire) := by
  induction arrivals generalizing guard with
  | nil => simp [handled]
  | cons arrival arrivals ih =>
    rw [handled]
    split
    · next done =>
      rw [Bool.and_eq_true] at done
      obtain ⟨message, read, -, taken⟩ := recorded_of_handled done.1 done.2
      rw [List.map_cons, List.mem_cons]
      rintro (same | later)
      · rw [triple_of, read] at same
        cases same
        exact ReplayGuard.not_spent_of_accepted taken.2.2 spent
      · exact ih (spent_relay spent arrival) later
    · exact ih (spent_relay spent arrival)

/-- No two frames that a run handles are the same to the record. -/
theorem handled_nodup (guard : ReplayGuard) (arrivals : List Arrival) :
    ((handled wire server_node_id guard arrivals).map (triple_of wire)).Nodup := by
  induction arrivals generalizing guard with
  | nil => exact List.nodup_nil
  | cons arrival arrivals ih =>
    rw [handled]
    split
    · next done =>
      rw [Bool.and_eq_true] at done
      obtain ⟨message, read, recorded⟩ := recorded_of_handled done.1 done.2
      rw [List.map_cons, List.nodup_cons]
      refine ⟨?_, ih _⟩
      rw [triple_of, read]
      exact not_mem_handled (spent_of_recorded read recorded) arrivals
    · exact ih _

/-! ### What the record tells apart -/

/-- The members the signature covers, the body by its canonical text. -/
def SignedMessage.covered (wire : Wire) (message : SignedMessage) : UInt32 × String × String × Int64 × String :=
  (message.v, message.sender, message.recipient, message.ts, Audit.canonical_json wire.crates message.body)

/-- Two messages alike in all the signature covers but the recipient. -/
def OnlyRedirected (wire : Wire) (first second : SignedMessage) : Prop :=
  first.v = second.v ∧ first.sender = second.sender ∧ first.ts = second.ts ∧
    Audit.canonical_json wire.crates first.body = Audit.canonical_json wire.crates second.body

/-- Two frames of a run with others between them: what is read, and the record each comes to. -/
structure FramePair where
  guard : ReplayGuard
  first : Arrival
  between : List Arrival
  second : Arrival

/-- The record that the second frame comes to. -/
def FramePair.later (wire : Wire) (server_node_id : String) (pair : FramePair) : ReplayGuard :=
  run (relay wire server_node_id) (relay wire server_node_id pair.guard pair.first) pair.between

/-- Both frames are validly signed and inside the window, they differ in what is signed, and the second is not
    older than the mark of its sender. -/
structure FramePair.Distinct (wire : Wire) (server_node_id : String) (pair : FramePair) (first second : SignedMessage) :
    Prop where
  first_read : SignedMessage.parse_line wire pair.first.frame = .ok first
  second_read : SignedMessage.parse_line wire pair.second.frame = .ok second
  first_signed : ValidlySigned wire first pair.first.setting.keys
  second_signed : ValidlySigned wire second pair.second.setting.keys
  differ : first.covered wire ≠ second.covered wire
  first_inside : pair.guard.Inside (first.call wire pair.first.setting.now)
  second_inside : (pair.later wire server_node_id).Inside (second.call wire pair.second.setting.now)
  not_older : ∀ mark, (pair.later wire server_node_id).high_water second.sender = some mark → mark ≤ second.ts

/-- The second frame is refused as a replay for the payload at the mark, and that payload is the first one's. -/
structure FramePair.RefusedAsReplay (wire : Wire) (server_node_id : String) (pair : FramePair)
    (first second : SignedMessage) : Prop where
  recorded : Recorded wire server_node_id first pair.guard pair.first.setting
  same : first.triple wire = second.triple wire
  held : ∃ record, (pair.later wire server_node_id).peers second.sender = some record ∧
    second.ts = record.high_water ∧ Audit.fingerprint wire.crates second.body ∈ record.at_water
  refused : (pair.second.passage wire server_node_id (pair.later wire server_node_id)).result =
    .error (.Refused (.Replay second.sender second.ts))

theorem triple_eq_iff (collision_free : Function.Injective wire.crates.sha256_hex) (first second : SignedMessage) :
    first.triple wire = second.triple wire ↔ first.sender = second.sender ∧ first.ts = second.ts ∧
      Audit.canonical_json wire.crates first.body = Audit.canonical_json wire.crates second.body := by
  simp only [SignedMessage.triple, Prod.mk.injEq, Audit.fingerprint, collision_free.eq_iff]

/-- A spent frame inside the window is refused as a replay, unless it is a hello. -/
theorem refused_of_spent (read : SignedMessage.parse_line wire arrival.frame = .ok message)
    (identified : check_identity wire message arrival.setting.keys = .ok ()) (other : ¬ Opens server_node_id message)
    (inside : guard.Inside (message.call wire arrival.setting.now)) (spent : guard.Spent (message.triple wire)) :
    (arrival.passage wire server_node_id guard).result = .error (.Refused (.Replay message.sender message.ts)) := by
  have answer : (guard.accept (message.call wire arrival.setting.now)).1 = .error (.Replay message.sender message.ts) := by
    rcases ReplayGuard.accept_cases guard (message.call wire arrival.setting.now) with
      ⟨outside, -, -⟩ | ⟨-, refused, -⟩ | ⟨-, taken, -⟩
    · exact absurd inside outside
    · exact refused
    · rw [← SignedMessage.call_triple] at spent
      exact absurd spent (ReplayGuard.not_spent_of_accepted (by rw [taken]; rfl))
  apply ((route_recorded read identified other).2 (.Replay message.sender message.ts) _).1
  rw [check_record]
  rcases asked : guard.accept (message.call wire arrival.setting.now) with ⟨result, after⟩
  rw [asked] at answer
  cases answer
  rfl

/-- What is refused as a replay speaks the version, and is no hello to the server. -/
theorem spoken_of_refused_as_replay {pair : FramePair} {first second : SignedMessage}
    (distinct : pair.Distinct wire server_node_id first second)
    (replay : pair.RefusedAsReplay wire server_node_id first second) :
    second.v = PROTOCOL_VERSION ∧ ¬ Opens server_node_id second := by
  have refused := replay.refused
  have version : second.v = PROTOCOL_VERSION := by
    by_contra unspoken
    have signed : ((pair.second.setting.keys.keys_of second.sender).any fun key => second.verify_with wire key) = true := by
      simpa using distinct.second_signed.2
    have unsupported : check_identity wire second pair.second.setting.keys =
        .error (.UnsupportedVersion second.v PROTOCOL_VERSION) := by
      simp [check_identity, distinct.second_signed.1, signed, unspoken]
    rw [Arrival.passage, route_unidentified distinct.second_read unsupported] at refused
    cases refused
  refine ⟨version, ?_⟩
  intro opens
  have identified : check_identity wire second pair.second.setting.keys = .ok () :=
    check_identity_ok.mpr ⟨distinct.second_signed, version⟩
  rw [Arrival.passage, route_opening distinct.second_read identified opens] at refused
  cases refused

theorem refused_as_replay_of_redirected {pair : FramePair} {first second : SignedMessage}
    (distinct : pair.Distinct wire server_node_id first second)
    (recorded : Recorded wire server_node_id first pair.guard pair.first.setting)
    (redirected : OnlyRedirected wire first second) (other : ¬ Opens server_node_id second) :
    pair.RefusedAsReplay wire server_node_id first second := by
  obtain ⟨version, sender, ts, body⟩ := redirected
  have same : first.triple wire = second.triple wire := by
    simp only [SignedMessage.triple, Audit.fingerprint, sender, ts, body]
  have spent : (pair.later wire server_node_id).Spent (second.triple wire) := by
    rw [← same]
    exact spent_run (spent_of_recorded distinct.first_read recorded) pair.between
  have identified : check_identity wire second pair.second.setting.keys = .ok () :=
    check_identity_ok.mpr ⟨distinct.second_signed, by rw [← version, recorded.2.2.1]⟩
  refine ⟨recorded, same, ?_, refused_of_spent distinct.second_read identified other distinct.second_inside spent⟩
  obtain ⟨record, entry, older | held⟩ := spent
  · have mark : (pair.later wire server_node_id).high_water second.sender = some record.high_water := by
      rw [ReplayGuard.high_water]
      exact congrArg (Option.map PeerRecord.high_water) entry
    exact absurd (distinct.not_older _ mark) (Int64.not_le.mpr older)
  · exact ⟨record, entry, held⟩

end Relaying

/-! ### One takeover told to two peers -/

def zero_signature : String :=
  "AAAAAAAAAAAAAAAAAAAAAAAAAAAAAAAAAAAAAAAAAAAAAAAAAAAAAAAAAAAAAAAAAAAAAAAAAAAAAAAAAAAAAA"

/-- A takeover of a centre, as one node tells it to another. -/
def takeover (recipient : String) (at_ms : Int64) : SignedMessage where
  v := 1
  sender := "dev-a"
  recipient := recipient
  ts := at_ms
  body := json [("takeover", .integer 1), ("centre", .string "dev-c"), ("by", .string "dev-a"),
    ("at_ms", .integer at_ms.toInt)]
  sig := zero_signature

/-- Its line, less the terminator. -/
def takeover_line (recipient at_ms : String) : String :=
  "\x7b" ++ ("\"v\":1,\"from\":\"dev-a\",\"to\":\"" ++ recipient ++ "\",\"ts\":" ++ at_ms ++ ",\"body\":\x7b\"at_ms\":" ++
    at_ms ++ ",\"by\":\"dev-a\",\"centre\":\"dev-c\",\"takeover\":1\x7d,\"sig\":\"" ++ zero_signature ++ "\"") ++ "\x7d"

def takeovers : List (String × String × Int64) :=
  [("dev-b", "1700000000000", 1700000000000), ("dev-d", "1700000000000", 1700000000000),
    ("dev-d", "1700000000001", 1700000000001)]

/-- The library functions on the lines of these takeovers. -/
def takeover_wire : Wire where
  crates :=
    { json := compact
      sha256_hex := Audit.digest_of
        [("\x7b\"at_ms\":1700000000000,\"by\":\"dev-a\",\"centre\":\"dev-c\",\"takeover\":1\x7d",
            "67714b2ae174443b62ded65ba15a6a03cfdeb507b96d1aac2b274bb6255187d6"),
          ("\x7b\"at_ms\":1700000000001,\"by\":\"dev-a\",\"centre\":\"dev-c\",\"takeover\":1\x7d",
            "1fcb17902a5c5ba93d04c0c32b9e74854c7b3f5bfd62e32927fd5a1b3ed6bbaf")] }
  from_str line :=
    match takeovers.find? fun told => takeover_line told.1 told.2.1 == line with
    | some told => .ok (takeover told.1 told.2.2)
    | none => .error "expected value at line 1 column 1"
  decode text := if text = zero_signature then .ok (List.replicate 64 0) else .error "Invalid padding"
  verify_strict _ _ signature := signature == List.replicate 64 0

theorem takeover_read : ∀ told ∈ takeovers,
    SignedMessage.parse_line takeover_wire (takeover_line told.1 told.2.1 ++ "\n") = .ok (takeover told.1 told.2.2) := by
  intro told known
  have trimmed : Text.trim (takeover_line told.1 told.2.1 ++ "\n") = takeover_line told.1 told.2.1 := Text.trim_object _
  have found : ∀ told ∈ takeovers,
      (takeovers.find? fun other => takeover_line other.1 other.2.1 == takeover_line told.1 told.2.1) = some told := by
    decide +kernel
  have parsed : takeover_wire.from_str (takeover_line told.1 told.2.1) = .ok (takeover told.1 told.2.2) := by
    simp only [takeover_wire, found told known]
  have signature : (takeover told.1 told.2.2).signature takeover_wire = .ok (List.replicate 64 0) := by
    simp [SignedMessage.signature, takeover_wire, takeover, SIGNATURE_BYTES]
  rw [SignedMessage.parse_line, trimmed, parsed]
  simp only [signature]

/-- The tables of a server that knows both peers, each with its session. -/
def two_peers (now : Int64) : Setting where
  peers := ⟨1, [⟨"dev-b", [], .null, [], []⟩, ⟨"dev-d", [], .null, [], []⟩]⟩
  keys := ⟨fun node_id => if node_id = "dev-a" then some [⟨[]⟩] else none⟩
  sessions node_id := if node_id = "dev-b" then some ⟨0, "10.0.0.2:50000", 7⟩
    else if node_id = "dev-d" then some ⟨1, "10.0.0.4:50000", 8⟩ else none
  now := now
  write_all := .ok ()

def told (recipient at_ms : String) (now : Int64) : Arrival := ⟨takeover_line recipient at_ms ++ "\n", two_peers now⟩

theorem takeover_signed (recipient : String) (at_ms now : Int64) :
    ValidlySigned takeover_wire (takeover recipient at_ms) (two_peers now).keys := by
  refine ⟨rfl, ⟨[]⟩, List.mem_singleton.mpr rfl, ?_⟩
  simp [SignedMessage.verify_with, SignedMessage.signature, takeover_wire, takeover, SIGNATURE_BYTES]

/-! ### The rule over every run -/

/-- A received frame is handed on exactly when it is deliverable, then once, unchanged, to the session of its
    destination; and no run handles a frame twice, hellos to the server apart. -/
theorem route_hands_iff_deliverable (wire : Wire) (server_node_id : String) (guard : ReplayGuard) (arrival : Arrival)
    (received : arrival.frame.toList.getLast? = some '\n') (arrivals : List Arrival) :
    ((arrival.passage wire server_node_id guard).handed ≠ [] ↔
        ∃ message live, Deliverable wire server_node_id arrival.frame guard arrival.setting message live) ∧
      (∀ message live, Deliverable wire server_node_id arrival.frame guard arrival.setting message live →
        (arrival.passage wire server_node_id guard).handed = [(live.writer, arrival.frame)]) ∧
      (handled wire server_node_id guard arrivals).Nodup ∧
        ((handled wire server_node_id guard arrivals).map (triple_of wire)).Nodup := by
  have once (message : SignedMessage) (live : Live)
      (deliverable : Deliverable wire server_node_id arrival.frame guard arrival.setting message live) :
      (arrival.passage wire server_node_id guard).handed = [(live.writer, arrival.frame)] := by
    rw [Arrival.passage, handed_of_deliverable deliverable, frame_bytes_of_terminated received]
  refine ⟨⟨deliverable_of_handed, ?_⟩, once, List.Nodup.of_map _ (handled_nodup guard arrivals), handled_nodup guard arrivals⟩
  rintro ⟨message, live, deliverable⟩
  rw [once message live deliverable]
  exact List.cons_ne_nil _ _

theorem takeover_forwarded : ((told "dev-b" "1700000000000" 1700000000000).passage takeover_wire "relay-1" .new).handed =
    [(7, takeover_line "dev-b" "1700000000000" ++ "\n")] := by
  have terminated : (takeover_line "dev-b" "1700000000000" ++ "\n").toList.getLast? = some '\n' := by
    rw [String.toList_append]
    exact List.getLast?_append_of_ne_nil _ (by decide)
  obtain ⟨-, once, -⟩ := route_hands_iff_deliverable takeover_wire "relay-1" .new
    (told "dev-b" "1700000000000" 1700000000000) terminated []
  have signed := takeover_signed "dev-b" 1700000000000 1700000000000
  exact once (takeover "dev-b" 1700000000000) ⟨0, "10.0.0.2:50000", 7⟩
    ⟨takeover_read ("dev-b", "1700000000000", 1700000000000) (by decide), signed.1, signed.2, rfl, by decide, by decide,
      by decide, by decide, rfl⟩

/-- The second frame is never refused as a replay of the first, unless the record took the first and the two differ
    in their recipient alone; a hello to the server is not refused even then. -/
theorem refused_as_replay_iff (wire : Wire) (server_node_id : String)
    (collision_free : Function.Injective wire.crates.sha256_hex) (pair : FramePair)
    {first second : SignedMessage} (distinct : pair.Distinct wire server_node_id first second) :
    ¬ pair.RefusedAsReplay wire server_node_id first second ↔
      ¬ (Recorded wire server_node_id first pair.guard pair.first.setting ∧ OnlyRedirected wire first second ∧
        ¬ Opens server_node_id second) := by
  apply not_congr
  constructor
  · intro replay
    obtain ⟨sender, ts, body⟩ := (triple_eq_iff collision_free first second).mp replay.same
    obtain ⟨version, other⟩ := spoken_of_refused_as_replay distinct replay
    exact ⟨replay.recorded, ⟨replay.recorded.2.2.1.trans version.symm, sender, ts, body⟩, other⟩
  · rintro ⟨recorded, redirected, other⟩
    exact refused_as_replay_of_redirected distinct recorded redirected other

/-- A takeover told to one peer, and another frame right after it. -/
def told_then (second : Arrival) : FramePair := ⟨.new, told "dev-b" "1700000000000" 1700000000000, [], second⟩

theorem told_first_recorded : Recorded takeover_wire "relay-1" (takeover "dev-b" 1700000000000) .new
    (two_peers 1700000000000) := by
  have accepted : (ReplayGuard.new.accept ((takeover "dev-b" 1700000000000).call takeover_wire 1700000000000)).1.toBool = true :=
    ReplayGuard.accept_toBool_iff.mpr ⟨by decide, by decide⟩
  exact ⟨by decide, takeover_signed _ _ _, rfl, accepted⟩

theorem told_first_read (second : Arrival) :
    SignedMessage.parse_line takeover_wire (told_then second).first.frame = .ok (takeover "dev-b" 1700000000000) :=
  takeover_read ("dev-b", "1700000000000", 1700000000000) (by decide)

theorem told_then_later (second : Arrival) : (told_then second).later takeover_wire "relay-1" =
    ReplayGuard.new.step ((takeover "dev-b" 1700000000000).call takeover_wire 1700000000000) := by
  rw [FramePair.later]
  exact (run_nil _ _).trans (relay_of_recorded (told_first_read second) told_first_recorded)

/-- The two are a pair that the record must tell apart. -/
theorem told_then_distinct {at_ms : String} {ts : Int64} (known : ("dev-d", at_ms, ts) ∈ takeovers) :
    (told_then (told "dev-d" at_ms ts)).Distinct takeover_wire "relay-1" (takeover "dev-b" 1700000000000)
      (takeover "dev-d" ts) := by
  have late : ∀ told ∈ takeovers, 1700000000000 ≤ told.2.2 ∧
      ¬ told.2.2 < told.2.2 - REPLAY_WINDOW_BACK_MS ∧ ¬ told.2.2 > told.2.2 + REPLAY_WINDOW_AHEAD_MS := by decide
  have early : ReplayGuard.new.Inside ((takeover "dev-b" 1700000000000).call takeover_wire 1700000000000) := by decide
  have mark (second : Arrival) : ((told_then second).later takeover_wire "relay-1").high_water "dev-a" =
      some 1700000000000 := by
    rw [told_then_later]
    decide
  have window (second : Arrival) : ((told_then second).later takeover_wire "relay-1").window = .default := by
    rw [told_then_later, ReplayGuard.step_window]
    rfl
  have read : SignedMessage.parse_line takeover_wire (takeover_line "dev-d" at_ms ++ "\n") = .ok (takeover "dev-d" ts) :=
    takeover_read ("dev-d", at_ms, ts) known
  constructor
  · exact told_first_read _
  · exact read
  · exact takeover_signed "dev-b" 1700000000000 1700000000000
  · exact takeover_signed "dev-d" ts ts
  · intro same
    have recipients : "dev-b" = "dev-d" := congrArg (fun covered => covered.2.2.1) same
    exact absurd recipients (by decide)
  · exact early
  · rw [ReplayGuard.Inside, window]
    exact (late _ known).2
  · intro other marked
    cases (mark _).symm.trans marked
    exact (late _ known).1

theorem later_takeover_taken : ¬ (told_then (told "dev-d" "1700000000001" 1700000000001)).RefusedAsReplay takeover_wire
    "relay-1" (takeover "dev-b" 1700000000000) (takeover "dev-d" 1700000000001) := by
  have collision_free : Function.Injective takeover_wire.crates.sha256_hex := Audit.digest_of_injective (by decide) (by decide)
  apply (refused_as_replay_iff takeover_wire "relay-1" collision_free _ (told_then_distinct (by decide))).mpr
  rintro ⟨-, ⟨-, -, ts, -⟩, -⟩
  exact absurd ts (by decide)

/-- The second of two takeovers told in one millisecond is refused as a replay of the first. -/
theorem takeover_refused_as_replay : ¬ ∀ (wire : Wire) (server_node_id : String),
    Function.Injective wire.crates.sha256_hex → ∀ (pair : FramePair) (first second : SignedMessage),
      pair.Distinct wire server_node_id first second → ¬ pair.RefusedAsReplay wire server_node_id first second := by
  intro law
  have collision_free : Function.Injective takeover_wire.crates.sha256_hex := Audit.digest_of_injective (by decide) (by decide)
  have known : (("dev-d", "1700000000000", 1700000000000) : String × String × Int64) ∈ takeovers := by decide
  have distinct := told_then_distinct known
  apply law takeover_wire "relay-1" collision_free _ _ _ distinct
  exact refused_as_replay_of_redirected distinct told_first_recorded ⟨rfl, rfl, rfl, rfl⟩ (by decide)

end Riscdom.Net
