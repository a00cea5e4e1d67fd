import Riscdom.Local

/-!
The routing of one frame: read, authenticated, held against the record, and
answered here or handed down the session of its destination, in the bytes it
came in. A hello to the server is the one frame the record does not see.
-/
namespace Riscdom.Net
open Riscdom.Machine

/-! ### The tables -/

structure PeerEntry where
  node_id : String
  addresses : List String
  public_key : Json.Value
  capabilities : List String
  rooms : List String

structure PeersFile where
  schema_version : UInt32
  peers : List PeerEntry

def PeersFile.entry (peers : PeersFile) (node_id : String) : Option PeerEntry :=
  peers.peers.find? fun entry => entry.node_id == node_id

/-- A live session: the number of its binding, where it dialled in from, and the socket it is written to. -/
structure Live where
  id : Nat
  addr : String
  writer : Nat
deriving DecidableEq

/-- The session of each node that is dialled in. -/
abbrev Sessions : Type := String → Option Live

inductive RelayError
  | Malformed (why : String)
  | Refused (error : VerifyError)
  | UnknownDestination (node_id : String)
  | NoSession (node_id : String)
  | Transport (why : String)
deriving DecidableEq

inductive Routed
  | Local (sender recipient : String) (action : Net.Local)
  | Forwarded (sender recipient : String)

def Routed.sender : Routed → String
  | .Local sender _ _ => sender
  | .Forwarded sender _ => sender

/-! ### The rule -/

/-- A frame with its terminator, as it is pushed down a session. -/
def frame_bytes (frame : String) : String := if frame.toList.getLast? = some '\n' then frame else frame ++ "\n"

/-- What comes of a frame: the answer, the record after it, and what was handed to which socket. -/
structure Passage where
  result : Except RelayError Routed
  guard : ReplayGuard
  handed : List (Nat × String)

/-- What a frame is routed against: the tables, the clock, and how a write down a session ends. -/
structure Setting where
  peers : PeersFile
  keys : PeerKeys
  sessions : Sessions
  now : Int64
  write_all : Except String Unit

section Route
variable (wire : Wire) (server_node_id : String)

/-- A frame handed down the session of a node. -/
def forward_to (sessions : Sessions) (write_all : Except String Unit) (node_id frame : String) :
    Except RelayError Unit × List (Nat × String) :=
  match sessions node_id with
  | none => (.error (.NoSession node_id), [])
  | some live => (write_all.mapError .Transport, [(live.writer, frame_bytes frame)])

/-- A frame to the server itself. -/
def route_local (message : SignedMessage) (guard : ReplayGuard) (setting : Setting) : Passage :=
  match check_identity wire message setting.keys with
  | .error error => ⟨.error (.Refused error), guard, []⟩
  | .ok () =>
    let action := Local.of message.body
    let checked := if is_hello message.body then (.ok (), guard) else check_record wire message guard setting.now
    match checked with
    | (.error error, guard) => ⟨.error (.Refused error), guard, []⟩
    | (.ok (), guard) => ⟨.ok (.Local message.sender message.recipient action), guard, []⟩

/-- A frame to somebody else. -/
def route_forwarded (frame : String) (message : SignedMessage) (guard : ReplayGuard) (setting : Setting) : Passage :=
  match authenticate_forwarded wire message setting.keys guard setting.now with
  | (.error error, guard) => ⟨.error (.Refused error), guard, []⟩
  | (.ok (), guard) =>
    if (setting.peers.entry message.recipient).isNone then ⟨.error (.UnknownDestination message.recipient), guard, []⟩
    else
      match forward_to setting.sessions setting.write_all message.recipient frame with
      | (.error error, handed) => ⟨.error error, guard, handed⟩
      | (.ok (), handed) => ⟨.ok (.Forwarded message.sender message.recipient), guard, handed⟩

def route (frame : String) (guard : ReplayGuard) (setting : Setting) : Passage :=
  match SignedMessage.parse_line wire frame with
  | .error error => ⟨.error (.Malformed error.display), guard, []⟩
  | .ok message =>
    if message.recipient = server_node_id then route_local wire message guard setting
    else route_forwarded wire frame message guard setting

/-! ### One frame -/

/-- The frame opens a session with the server. -/
def Opens (message : SignedMessage) : Prop := message.recipient = server_node_id ∧ is_hello message.body = true

instance (message : SignedMessage) : Decidable (Opens server_node_id message) := by unfold Opens; infer_instance

/-- The frame passes every check up to the record's, and the record takes it. -/
def Taken (message : SignedMessage) (guard : ReplayGuard) (setting : Setting) : Prop :=
  ValidlySigned wire message setting.keys ∧ message.v = PROTOCOL_VERSION ∧
    (guard.accept (message.call wire setting.now)).1.toBool = true

variable {wire server_node_id} {frame : String} {message : SignedMessage} {guard : ReplayGuard} {setting : Setting}

theorem route_unread {error : MessageError} (unread : SignedMessage.parse_line wire frame = .error error) :
    route wire server_node_id frame guard setting = ⟨.error (.Malformed error.display), guard, []⟩ := by
  rw [route, unread]

theorem route_to_server (read : SignedMessage.parse_line wire frame = .ok message)
    (here : message.recipient = server_node_id) :
    route wire server_node_id frame guard setting = route_local wire message guard setting := by
  rw [route, read]
  exact if_pos here

theorem route_elsewhere (read : SignedMessage.parse_line wire frame = .ok message)
    (elsewhere : message.recipient ≠ server_node_id) :
    route wire server_node_id frame guard setting = route_forwarded wire frame message guard setting := by
  rw [route, read]
  exact if_neg elsewhere

/-- A frame that fails a check of its identity is refused, and touches nothing. -/
theorem route_unidentified {error : VerifyError} (read : SignedMessage.parse_line wire frame = .ok message)
    (refused : check_identity wire message setting.keys = .error error) :
    route wire server_node_id frame guard setting = ⟨.error (.Refused error), guard, []⟩ := by
  by_cases here : message.recipient = server_node_id
  · rw [route_to_server read here, route_local, refused]
  · rw [route_elsewhere read here, route_forwarded, authenticate_forwarded, refused]

/-- A hello that is authentic is answered, whatever the record holds and the clock shows. -/
theorem route_opening (read : SignedMessage.parse_line wire frame = .ok message)
    (identified : check_identity wire message setting.keys = .ok ()) (opens : Opens server_node_id message) :
    route wire server_node_id frame guard setting =
      ⟨.ok (.Local message.sender message.recipient .Hello), guard, []⟩ := by
  rw [route_to_server read opens.1, route_local, identified]
  simp only [opens.2, if_true, of_eq_hello.mpr opens.2]

/-- Any other authentic frame is held against the record once, and goes no further where it is refused there. -/
theorem route_recorded (read : SignedMessage.parse_line wire frame = .ok message)
    (identified : check_identity wire message setting.keys = .ok ()) (other : ¬ Opens server_node_id message) :
    (route wire server_node_id frame guard setting).guard = guard.step (message.call wire setting.now) ∧
      ∀ error, (check_record wire message guard setting.now).1 = .error error →
        (route wire server_node_id frame guard setting).result = .error (.Refused error) ∧
          (route wire server_node_id frame guard setting).handed = [] := by
  have stepped : (check_record wire message guard setting.now).2 = guard.step (message.call wire setting.now) :=
    (check_record_step guard setting.now).1
  rw [← stepped]
  by_cases here : message.recipient = server_node_id
  · have plain : is_hello message.body ≠ true := fun greets => other ⟨here, greets⟩
    rw [route_to_server read here, route_local, identified]
    simp only [if_neg plain]
    rcases check_record wire message guard setting.now with ⟨_ | _, after⟩
    · refine ⟨rfl, ?_⟩
      rintro error ⟨⟩
      exact ⟨rfl, rfl⟩
    · refine ⟨rfl, ?_⟩
      rintro error ⟨⟩
  · rw [route_elsewhere read here, route_forwarded, authenticate_forwarded, identified]
    simp only
    rcases check_record wire message guard setting.now with ⟨_ | _, after⟩
    · refine ⟨rfl, ?_⟩
      rintro error ⟨⟩
      exact ⟨rfl, rfl⟩
    · simp only
      refine ⟨?_, ?_⟩
      · split_ifs
        · rfl
        · rcases forward_to setting.sessions setting.write_all message.recipient frame with ⟨_ | _, handed⟩ <;> rfl
      · rintro error ⟨⟩

end Route
end Riscdom.Net
