import Riscdom.Replay
import Riscdom.RunRecords
import Riscdom.Text

/-!
Signed messages and the checks on them, in their order: the sender is known,
one of its keys verifies the signature over the canonical text, the version is
spoken; then the window and the record.
-/
namespace Riscdom.Net
open Riscdom.Json Riscdom.Text

def PROTOCOL_VERSION : UInt32 := 1
def SIGNATURE_BYTES : Nat := 64

/-- One message as it travels; the wire calls its sender from and its recipient to. -/
structure SignedMessage where
  v : UInt32
  sender : String
  recipient : String
  ts : Int64
  body : Value
  sig : String

structure VerifyingKey where
  bytes : List UInt8
deriving DecidableEq

/-- The third-party functions of the wire: the reading of the members from a line, base64, and Ed25519. -/
structure Wire where
  crates : Audit.Crates
  from_str : String → Except String SignedMessage
  decode : String → Except String (List UInt8)
  verify_strict : VerifyingKey → String → List UInt8 → Bool

inductive MessageError
  | Signature (why : String)
  | Json (why : String)
deriving DecidableEq

def MessageError.display : MessageError → String
  | .Signature why => "the signature is not usable: " ++ why
  | .Json why => "the message is not a JSON object: " ++ why

namespace SignedMessage
variable (wire : Wire) (message : SignedMessage)

/-- The members the signature covers. -/
def preamble : Value :=
  json [("v", .integer message.v.toNat), ("from", .string message.sender), ("to", .string message.recipient),
    ("ts", .integer message.ts.toInt), ("body", message.body)]

def canonical_bytes : String := Audit.canonical_json wire.crates message.preamble

def signature : Except MessageError (List UInt8) :=
  match wire.decode message.sig with
  | .error error => .error (.Signature ("not base64url: " ++ error))
  | .ok bytes =>
    if bytes.length = SIGNATURE_BYTES then .ok bytes
    else .error (.Signature (toString bytes.length ++ " bytes, expected " ++ toString SIGNATURE_BYTES))

/-- A line read back; its signature has the right shape, and is not verified. -/
def parse_line (line : String) : Except MessageError SignedMessage :=
  match wire.from_str (trim line) with
  | .error error => .error (.Json error)
  | .ok message =>
    match message.signature wire with
    | .error error => .error error
    | .ok _ => .ok message

def verify_with (key : VerifyingKey) : Bool :=
  match message.signature wire with
  | .error _ => false
  | .ok signature => wire.verify_strict key (message.canonical_bytes wire) signature

/-- What the record of the receiver keeps of a message. -/
def call (now : Int64) : Call := ⟨message.sender, message.ts, Audit.fingerprint wire.crates message.body, now⟩
def triple : String × Int64 × String := (message.sender, message.ts, Audit.fingerprint wire.crates message.body)

@[simp] theorem call_triple (now : Int64) : (message.call wire now).triple = message.triple wire := rfl

end SignedMessage

inductive VerifyError
  | UnknownSender (sender : String)
  | BadSignature (sender : String)
  | UnsupportedVersion (found supported : UInt32)
  | NotAddressedToUs (recipient us : String)
  | Stale (ts now back_ms : Int64)
  | Future (ts now ahead_ms : Int64)
  | Replay (sender : String) (ts : Int64)
deriving DecidableEq

def VerifyError.of_replay : ReplayError → VerifyError
  | .Stale ts now back_ms => .Stale ts now back_ms
  | .Future ts now ahead_ms => .Future ts now ahead_ms
  | .Replay sender ts => .Replay sender ts

/-- The known peers, and the keys each carries. -/
structure PeerKeys where
  by_node : String → Option (List VerifyingKey)

namespace PeerKeys
variable (keys : PeerKeys)

def knows (node_id : String) : Bool := (keys.by_node node_id).isSome
def keys_of (node_id : String) : List VerifyingKey := (keys.by_node node_id).getD []

end PeerKeys

section Checks
variable (wire : Wire) (message : SignedMessage) (keys : PeerKeys)

/-- The sender is known, its signature verifies, and the version is spoken. -/
def check_identity : Except VerifyError Unit :=
  if ¬ keys.knows message.sender then .error (.UnknownSender message.sender)
  else if ¬ (keys.keys_of message.sender).any fun key => message.verify_with wire key then
    .error (.BadSignature message.sender)
  else if message.v ≠ PROTOCOL_VERSION then .error (.UnsupportedVersion message.v PROTOCOL_VERSION)
  else .ok ()

/-- The window and the record. -/
def check_record (guard : ReplayGuard) (now : Int64) : Except VerifyError Unit × ReplayGuard :=
  match guard.accept (message.call wire now) with
  | (.ok (), guard) => (.ok (), guard)
  | (.error error, guard) => (.error (.of_replay error), guard)

/-- The checks of a relay on a frame it hands on. -/
def authenticate_forwarded (guard : ReplayGuard) (now : Int64) : Except VerifyError Unit × ReplayGuard :=
  match check_identity wire message keys with
  | .error error => (.error error, guard)
  | .ok () => check_record wire message guard now

/-! ### What passes the checks -/

/-- The sender is known and one of its keys verifies the signature. -/
def ValidlySigned : Prop :=
  keys.knows message.sender = true ∧ ∃ key ∈ keys.keys_of message.sender, message.verify_with wire key = true

variable {wire message keys}

theorem check_identity_ok :
    check_identity wire message keys = .ok () ↔ ValidlySigned wire message keys ∧ message.v = PROTOCOL_VERSION := by
  rw [check_identity, ValidlySigned]
  by_cases known : keys.knows message.sender = true
  · simp only [known, not_true_eq_false, if_false, true_and]
    by_cases signed : ((keys.keys_of message.sender).any fun key => message.verify_with wire key) = true
    · have some_key : ∃ key ∈ keys.keys_of message.sender, message.verify_with wire key = true := by simpa using signed
      simp only [signed, not_true_eq_false, if_false, some_key, true_and]
      by_cases spoken : message.v = PROTOCOL_VERSION
      · simp [spoken]
      · simp [spoken]
    · have no_key : ¬ ∃ key ∈ keys.keys_of message.sender, message.verify_with wire key = true := by simpa using signed
      rw [if_pos signed]
      simp [no_key]
  · simp [known]

/-- The record is asked once, and nothing else is done to it. -/
theorem check_record_step (guard : ReplayGuard) (now : Int64) :
    (check_record wire message guard now).2 = guard.step (message.call wire now) ∧
      ((check_record wire message guard now).1 = .ok () ↔ (guard.accept (message.call wire now)).1.toBool = true) := by
  rw [check_record, ReplayGuard.step]
  rcases guard.accept (message.call wire now) with ⟨_ | _, after⟩
  · simp [Except.toBool]
  · simp [Except.toBool]

end Checks
end Riscdom.Net
