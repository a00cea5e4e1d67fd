import Mathlib.Data.List.Sort
import Riscdom.AuditHash

/-!
A closed segment on its way to the centre: the events of its stream, the frame
that ends it, and the two checks of what arrived. The envelope is checked against
the end frame, and the hashes that travel along must chain the events.
-/
namespace Riscdom.Net
open Riscdom.Json Riscdom.HashChain Riscdom.Audit

/-- One event of a closed segment. -/
structure SegmentEvent where
  segment_id : String
  centre : String
  index : Nat
  total : Nat
  ts : Int
  actor : String
  action : String
  agent_id : Option String
  detail : Value
  hash : Option String
  prev_hash : Option String

/-- The end of a segment's stream. -/
structure SegmentDone where
  segment_id : String
  centre : String
  total : Nat
  head_prev_chain : Option String
  anchor_length : Option UInt64
  anchor_hash : Option String
deriving DecidableEq

/-! ### The envelope -/

inductive DeliveryProblem
  | NotForThisNode (said this_node : String)
  | Count (said arrived : Nat)
  | Positions (expected : Nat) (found : List Nat)
deriving DecidableEq

/-- A list of numbers as it is written out for debugging. -/
def debug_positions (found : List Nat) : String := "[" ++ ", ".intercalate (found.map toString) ++ "]"

def DeliveryProblem.reason : DeliveryProblem → String
  | .NotForThisNode said this_node => "the stream was addressed to " ++ said ++ ", and this node is " ++ this_node
  | .Count said arrived => "the end frame says " ++ toString said ++ " event(s) and " ++ toString arrived ++ " arrived"
  | .Positions expected found =>
    "the events are not the positions 0.." ++ toString expected ++ ": " ++ debug_positions found

def verify_delivery (this_node : String) (done : SegmentDone) (events : List SegmentEvent) : Except DeliveryProblem Unit :=
  if done.centre ≠ this_node then .error (.NotForThisNode done.centre this_node) else
  if events.length ≠ done.total then .error (.Count done.total events.length) else
    let found := (events.map SegmentEvent.index).insertionSort (· ≤ ·)
    if found ≠ List.range done.total then .error (.Positions done.total found) else .ok ()

/-- The envelope is in order exactly when the stream is for this node and every position below the total arrived once. -/
theorem verify_delivery_ok_iff {this_node : String} {done : SegmentDone} {events : List SegmentEvent} :
    verify_delivery this_node done events = .ok () ↔
      done.centre = this_node ∧ (events.map SegmentEvent.index).Perm (List.range done.total) := by
  have sorted : (events.map SegmentEvent.index).insertionSort (· ≤ ·) = List.range done.total ↔
      (events.map SegmentEvent.index).Perm (List.range done.total) := by
    constructor
    · intro same
      rw [← same]
      exact (List.perm_insertionSort _ _).symm
    · intro perm
      refine List.Perm.eq_of_pairwise' (r := (· ≤ ·)) (List.pairwise_insertionSort _ _) ?_
        ((List.perm_insertionSort _ _).trans perm)
      exact List.pairwise_lt_range.imp fun below => Nat.le_of_lt below
  constructor
  · intro passed
    simp only [verify_delivery] at passed
    split_ifs at passed with centre total positions
    exact ⟨not_not.mp centre, sorted.mp (not_not.mp positions)⟩
  · rintro ⟨centre, perm⟩
    have total : events.length = done.total := by simpa using perm.length_eq
    simp only [verify_delivery]
    rw [if_neg (not_not.mpr centre), if_neg (not_not.mpr total), if_neg (not_not.mpr (sorted.mpr perm))]

/-! ### The hashes -/

inductive LinkageProblem
  | NoHash
  | Chain (place : Nat) (expected found : String)
  | Hash (place : Nat)
  | Detail (place : Nat) (reason : String)
deriving DecidableEq

def LinkageProblem.reason : LinkageProblem → String
  | .NoHash => "the events carried no hashes"
  | .Chain place expected found =>
    "event " ++ toString place ++ " continues from " ++ found ++ ", and the event before it ends at " ++ expected
  | .Hash place => "event " ++ toString place ++ " does not recompute to the hash it claims"
  | .Detail place reason => "event " ++ toString place ++ " could not be rendered as it was written: " ++ reason

namespace SegmentEvent

/-- The hashes an event carries, empty where it carries none. -/
def own_hash (event : SegmentEvent) : String := event.hash.getD ""
def own_prev_hash (event : SegmentEvent) : String := event.prev_hash.getD ""

variable (crates : Crates)

/-- The hash recomputed from an event as its sender computed it. -/
def recompute (event : SegmentEvent) : String :=
  compute_hash crates event.own_prev_hash
    { timestamp_ms := event.ts, actor := event.actor, action := event.action, detail := .null, agent_id := none }
    (crates.json.to_string event.detail)

/-- The event as the centre writes it into the segment's own store. -/
def audit_event (event : SegmentEvent) : AuditEvent :=
  { timestamp_ms := event.ts, actor := event.actor, action := event.action, detail := event.detail,
    agent_id := event.agent_id }

end SegmentEvent

variable (crates : Crates)

/-- The walk over the events from a place on, after an event that ends at a hash. Printing a detail does not fail. -/
def linkage_walk (place : Nat) (before : String) : List SegmentEvent → Except LinkageProblem Unit
  | [] => .ok ()
  | event :: rest =>
    if 0 < place ∧ event.own_prev_hash ≠ before then .error (.Chain place before event.own_prev_hash) else
    if event.recompute crates ≠ event.own_hash then .error (.Hash place) else
      linkage_walk (place + 1) event.own_hash rest

def verify_linkage (events : List SegmentEvent) : Except LinkageProblem Unit :=
  if events = [] ∨ ∃ event ∈ events, event.hash = none ∨ event.prev_hash = none then .error .NoHash
  else linkage_walk crates 0 "" events

end Riscdom.Net
