import Mathlib.Algebra.Group.Int.Defs
import Mathlib.Algebra.GroupWithZero.Nat
import Riscdom.Signing

/-!
The bodies a node sends to its server, and what the server reads them as. A
body is tried against one form after another, and the first that fits is taken.
-/
namespace Riscdom.Net
open Riscdom.Json

/-! ### Members -/

def as_u64 : Value → Option Nat
  | .integer n => if 0 ≤ n ∧ n < 2 ^ 64 then some n.toNat else none
  | _ => none

def as_i64 : Value → Option Int64
  | .integer n => if -2 ^ 63 ≤ n ∧ n < 2 ^ 63 then some (.ofInt n) else none
  | _ => none

/-- The texts of a list, if it holds nothing else. -/
def as_texts : Value → Option (List String)
  | .array items => items.mapM Value.as_str
  | _ => none

theorem u64_at {body : Value} {key : String} {n : Nat} (found : body.get key = some (.integer n)) (fits : n < 2 ^ 64) :
    (body.get key).bind as_u64 = some n := by
  have inside : (0 : Int) ≤ n ∧ (n : Int) < 2 ^ 64 := by omega
  rw [found, Option.bind_some, as_u64, if_pos inside, Int.toNat_natCast]

theorem i64_at {body : Value} {key : String} {n : Int} (found : body.get key = some (.integer n))
    (low : -9223372036854775808 ≤ n) (high : n < 9223372036854775808) :
    ∃ m : Int64, (body.get key).bind as_i64 = some m ∧ m.toInt = n := by
  refine ⟨.ofInt n, ?_, Int64.toInt_ofInt_of_le (by omega) (by omega)⟩
  rw [found, Option.bind_some, as_i64, if_pos (by omega)]

/-- A body carries the version this build speaks under a key. -/
def speaks (key : String) (body : Value) : Bool := (body.get key).bind as_u64 == some PROTOCOL_VERSION.toNat

theorem speaks_at {body : Value} {key : String} (found : body.get key = some (.integer PROTOCOL_VERSION.toNat)) :
    speaks key body = true := by
  rw [speaks, u64_at found (by decide), beq_self_eq_true]

/-! ### Forms -/

def is_hello (body : Value) : Bool := speaks "hello" body
def is_register (body : Value) : Bool := speaks "register" body
def is_heartbeat (body : Value) : Bool := speaks "heartbeat" body
def is_digest (body : Value) : Bool := speaks "digest" body
def is_key_event (body : Value) : Bool := speaks "key_event" body
def is_registry_request (body : Value) : Bool := speaks "registry" body

def hello_body : Value := json [("hello", .integer PROTOCOL_VERSION.toNat)]

/-- What a node claims of itself. -/
structure Registration where
  addresses : List String
  capabilities : List String
  rooms : List String
deriving DecidableEq

/-- The claims of a registration; a list it does not carry is empty. -/
def Registration.of (body : Value) : Option Registration :=
  let list (key : String) : List String := ((body.get key).bind as_texts).getD []
  if is_register body then some ⟨list "addresses", list "capabilities", list "rooms"⟩ else none

structure ChainDigest where
  chain : Option String
  length : Nat
deriving DecidableEq

def ChainDigest.of_body (body : Value) : Option ChainDigest :=
  if is_digest body then
    ((body.get "length").bind as_u64).map fun length => ⟨(body.get "chain").bind Value.as_str, length⟩
  else none

structure KeyEvent where
  at_ms : Int64
  action : String
  detail : Value

def KeyEvent.of_body (body : Value) : Option KeyEvent :=
  if is_key_event body then do
    let at_ms ← (body.get "at_ms").bind as_i64
    let action ← (body.get "action").bind Value.as_str
    let detail ← body.get "detail"
    return ⟨at_ms, action, detail⟩
  else none

/-- What a prober tells of one peer. -/
inductive Report
  | Unreachable (node_id : String)
  | Reachable (node_id : String)
deriving DecidableEq

def report_of (body : Value) : Option Report :=
  match (body.get "unreachable").bind Value.as_str with
  | some node_id => some (.Unreachable node_id)
  | none => ((body.get "reachable").bind Value.as_str).map .Reachable

def address_query (body : Value) : Option String := (body.get "query").bind Value.as_str

/-! ### The reading -/

/-- What a frame to the server itself is. -/
inductive Local
  | Hello
  | Register (claims : Registration)
  | Heartbeat
  | Digest (digest : ChainDigest)
  | KeyEvent (event : Net.KeyEvent)
  | UnreachableReport (node_id : String)
  | ReachableReport (node_id : String)
  | Addresses (node_id : String)
  | Registry
  | Unrecognised (body : Value)

def Local.of (body : Value) : Local :=
  if is_hello body then .Hello
  else
    match Registration.of body with
    | some claims => .Register claims
    | none =>
      if is_heartbeat body then .Heartbeat
      else
        match ChainDigest.of_body body with
        | some digest => .Digest digest
        | none =>
          match KeyEvent.of_body body with
          | some event => .KeyEvent event
          | none =>
            match report_of body with
            | some (.Unreachable node_id) => .UnreachableReport node_id
            | some (.Reachable node_id) => .ReachableReport node_id
            | none =>
              if is_registry_request body then .Registry
              else
                match address_query body with
                | some node_id => .Addresses node_id
                | none => .Unrecognised body

/-- Only a body that says hello is read as one. -/
theorem of_eq_hello {body : Value} : Local.of body = .Hello ↔ is_hello body = true := by
  constructor
  · intro read
    by_contra other
    rw [Local.of, if_neg other] at read
    split at read
    · cases read
    · split at read
      · cases read
      · split at read
        · cases read
        · split at read
          · cases read
          · split at read
            · cases read
            · cases read
            · split at read
              · cases read
              · split at read
                · cases read
                · cases read
  · intro greets
    rw [Local.of, if_pos greets]

end Riscdom.Net
