import Riscdom.Liveness
import Riscdom.Machine
import Riscdom.Route

/-!
The table of who is online, and the answers of the server to the frames that
are for itself: registrations, beats, reports, digests, key events and queries.
-/
namespace Riscdom.Net
open Riscdom.Json Riscdom.Machine

def ONLINE_WINDOW_MS : Int64 := 3 * 15000
def KEY_EVENT_LOG : Nat := 256

/-! ### The table -/

structure Row where
  addresses : List String
  capabilities : List String
  rooms : List String
  last_heartbeat_ms : Int64
  judged_at_ms : Option Int64
deriving DecidableEq

inductive OnlineState
  | Online
  | Offline
deriving DecidableEq

/-- A row as it reads at a moment. -/
structure OnlineEntry where
  node_id : String
  addresses : List String
  capabilities : List String
  rooms : List String
  last_heartbeat_ms : Int64
  judged_at_ms : Option Int64
  state : OnlineState
deriving DecidableEq

def state_of (last_heartbeat_ms now : Int64) : OnlineState :=
  if now - last_heartbeat_ms ≤ ONLINE_WINDOW_MS then .Online else .Offline

structure OnlineTable where
  rows : String → Option Row

namespace OnlineTable

def new : OnlineTable := ⟨fun _ => none⟩

variable (table : OnlineTable) (node_id : String)

/-- The table with the row of one node written. -/
def write (row : Row) : OnlineTable := ⟨Function.update table.rows node_id (some row)⟩

/-- A row is created, or the claims of one already there are replaced; says whether it is new. -/
def register (claims : Registration) (now : Int64) : Bool × OnlineTable :=
  match table.rows node_id with
  | some row =>
    (false, table.write node_id
      { row with
        addresses := claims.addresses, capabilities := claims.capabilities, rooms := claims.rooms
        last_heartbeat_ms := now })
  | none =>
    (true, table.write node_id
      { addresses := claims.addresses, capabilities := claims.capabilities, rooms := claims.rooms
        last_heartbeat_ms := now, judged_at_ms := none })

/-- A beat taken, if there is a row for it. -/
def beat (now : Int64) : Bool × OnlineTable :=
  match table.rows node_id with
  | some row => (true, table.write node_id { row with last_heartbeat_ms := now })
  | none => (false, table)

def row (now : Int64) : Option OnlineEntry :=
  (table.rows node_id).map fun row =>
    ⟨node_id, row.addresses, row.capabilities, row.rooms, row.last_heartbeat_ms, row.judged_at_ms,
      state_of row.last_heartbeat_ms now⟩

def is_online (now : Int64) : Bool := ((table.row node_id now).map fun entry => decide (entry.state = .Online)).getD false

/-- A judgement recorded, once; says whether this call recorded it. -/
def mark_judged (now : Int64) : Bool × OnlineTable :=
  match table.rows node_id with
  | some row =>
    if row.judged_at_ms.isNone then (true, table.write node_id { row with judged_at_ms := some now }) else (false, table)
  | none => (false, table)

/-- A judgement cleared, with the moment it had held. -/
def clear_judged : Option Int64 × OnlineTable :=
  match table.rows node_id with
  | some row => (row.judged_at_ms, table.write node_id { row with judged_at_ms := none })
  | none => (none, table)

def heard_from (now : Int64) : Bool × OnlineTable :=
  match table.rows node_id with
  | some row => (true, table.write node_id { row with last_heartbeat_ms := now })
  | none => (false, table)

/-- When the node was judged, if its judgement holds. -/
def judged_at : Option Int64 := (table.rows node_id).bind Row.judged_at_ms

variable {table node_id}

theorem write_rows (row : Row) (other : String) :
    (table.write node_id row).rows other = if other = node_id then some row else table.rows other := by
  by_cases same : other = node_id
  · simp [write, same]
  · simp [write, same]

theorem write_judged_at (row : Row) (other : String) :
    (table.write node_id row).judged_at other = if other = node_id then row.judged_at_ms else table.judged_at other := by
  rw [judged_at, write_rows]
  split_ifs <;> rfl

/-! ### What a step does to the judgements -/

theorem judged_at_of_rows {row : Row} (held : table.rows node_id = some row) : table.judged_at node_id = row.judged_at_ms := by
  rw [judged_at, held, Option.bind_some]

theorem write_keeps_judged_at {row : Row} (same : row.judged_at_ms = table.judged_at node_id) (other : String) :
    (table.write node_id row).judged_at other = table.judged_at other := by
  rw [write_judged_at]
  split_ifs with here
  · rw [here, same]
  · rfl

@[simp] theorem register_judged_at (claims : Registration) (now : Int64) (other : String) :
    (table.register node_id claims now).2.judged_at other = table.judged_at other := by
  rw [register]
  cases held : table.rows node_id with
  | none =>
    apply write_keeps_judged_at
    rw [judged_at, held, Option.bind_none]
  | some row =>
    apply write_keeps_judged_at
    rw [judged_at_of_rows held]

@[simp] theorem beat_judged_at (now : Int64) (other : String) :
    (table.beat node_id now).2.judged_at other = table.judged_at other := by
  rw [beat]
  cases held : table.rows node_id with
  | none => rfl
  | some row =>
    apply write_keeps_judged_at
    rw [judged_at_of_rows held]

@[simp] theorem heard_from_judged_at (now : Int64) (other : String) :
    (table.heard_from node_id now).2.judged_at other = table.judged_at other :=
  beat_judged_at now other

/-- A mark is set on a row that has none. -/
theorem mark_judged_cases (table : OnlineTable) (node_id : String) (now : Int64) :
    ((table.mark_judged node_id now).1 = true ∧ table.judged_at node_id = none ∧
      ∀ other, (table.mark_judged node_id now).2.judged_at other =
        if other = node_id then some now else table.judged_at other) ∨
      ((table.mark_judged node_id now).1 = false ∧ (table.mark_judged node_id now).2 = table) := by
  rw [mark_judged]
  cases held : table.rows node_id with
  | none => exact .inr ⟨rfl, rfl⟩
  | some row =>
    cases judged : row.judged_at_ms with
    | none =>
      refine .inl ⟨by simp only [judged, Option.isNone_none, if_true], by rw [judged_at_of_rows held, judged], ?_⟩
      intro other
      simp only [judged, Option.isNone_none, if_true, write_judged_at]
    | some moment =>
      exact .inr ⟨by simp only [judged, Option.isNone_some, Bool.false_eq_true, if_false],
        by simp only [judged, Option.isNone_some, Bool.false_eq_true, if_false]⟩

theorem clear_judged_fst : (table.clear_judged node_id).1 = table.judged_at node_id := by
  rw [clear_judged, judged_at]
  cases table.rows node_id <;> rfl

@[simp] theorem clear_judged_judged_at (other : String) :
    (table.clear_judged node_id).2.judged_at other = if other = node_id then none else table.judged_at other := by
  rw [clear_judged]
  cases held : table.rows node_id with
  | none =>
    split_ifs with same
    · rw [same, judged_at, held, Option.bind_none]
    · rfl
  | some row => rw [write_judged_at]

end OnlineTable

/-! ### The local roles -/

/-- What the local roles hold, and what they have handed to the sinks of the deployment. -/
structure Roles where
  online : OnlineTable
  witnesses : WitnessTable
  digests : String → Option ChainDigest
  key_events : String → List KeyEvent
  fired : List Transition
  fired_digests : List (String × ChainDigest)

/-- What an answer is drawn up from, and how the handing of it down a session ends. -/
structure Desk where
  sessions : Sessions
  peers : PeersFile
  generation : Int64
  registry_body : Value
  send_to : String → Value → Except RelayError Unit

inductive LocalReply
  | Silent
  | Registered (node_id : String) (fresh : Bool)
  | Beat (node_id : String)
  | DigestTaken (node_id : String) (length : Nat)
  | KeyEventTaken (node_id action : String)
  | Unplaced (node_id : String)
  | UnreachableReported (peer : String)
  | ReachableReported (peer : String)
  | Addresses (addresses : List String)
  | Registry (generation : Int64)
  | Unrecognised
deriving DecidableEq

def registered_body : Value := json [("registered", .integer PROTOCOL_VERSION.toNat)]

def address_answer_body (addresses : List String) : Value := json [("addresses", .array (addresses.map .string))]

/-- Where a node can be reached: where it dialled in from, then what its entry adds. -/
def Desk.addresses_for (desk : Desk) (node_id : String) : List String :=
  let live := ((desk.sessions node_id).map Live.addr).toList
  let written := ((desk.peers.entry node_id).map PeerEntry.addresses).getD []
  written.foldl (fun addresses address => if address ∈ addresses then addresses else addresses ++ [address]) live

/-- The newest events of a log, with one more unless its like is held. -/
def push_key_event (log : List KeyEvent) (event : KeyEvent) : List KeyEvent :=
  if log.any fun held => held.action == event.action && held.at_ms == event.at_ms then log
  else (log ++ [event]).drop ((log ++ [event]).length - KEY_EVENT_LOG)

namespace Roles

def start : Roles := ⟨.new, .new, fun _ => none, fun _ => [], [], []⟩

variable (roles : Roles)

def fire (transition : Transition) : Roles := { roles with fired := roles.fired ++ [transition] }

/-- The threshold read again for one subject; a new judgement is recorded and handed on. -/
def judge (subject : String) (now : Int64) : Roles :=
  match roles.witnesses.judge subject now (fun witness => roles.online.is_online witness now) with
  | none => roles
  | some judgement =>
    match roles.online.mark_judged judgement.peer now with
    | (true, online) => { roles with online }.fire (.Judged judgement)
    | (false, online) => { roles with online }

/-- A frame to the server itself answered. -/
def answer_local (desk : Desk) (sender : String) (action : Net.Local) (now : Int64) : Except RelayError LocalReply × Roles :=
  match action with
  | .Hello => (.ok .Silent, roles)
  | .Unrecognised _ => (.ok .Unrecognised, roles)
  | .Register claims =>
    let (fresh, online) := roles.online.register sender claims now
    ((desk.send_to sender registered_body).map fun _ => .Registered sender fresh, { roles with online })
  | .Heartbeat =>
    match roles.online.beat sender now with
    | (true, online) =>
      match online.clear_judged sender with
      | (some _, online) => (.ok (.Beat sender), { roles with online }.fire (.Recovered sender .Heartbeat))
      | (none, online) => (.ok (.Beat sender), { roles with online })
    | (false, online) => (.ok (.Unplaced sender), { roles with online })
  | .Digest digest =>
    (.ok (.DigestTaken sender digest.length),
      { roles with
        digests := Function.update roles.digests sender (some digest)
        fired_digests := roles.fired_digests ++ [(sender, digest)] })
  | .KeyEvent event =>
    (.ok (.KeyEventTaken sender event.action),
      { roles with key_events := Function.update roles.key_events sender (push_key_event (roles.key_events sender) event) })
  | .UnreachableReport node_id =>
    (.ok (.UnreachableReported node_id),
      { roles with witnesses := roles.witnesses.record node_id now sender false }.judge node_id now)
  | .ReachableReport node_id =>
    let roles := { roles with witnesses := roles.witnesses.record node_id now sender true }
    match roles.online.clear_judged node_id with
    | (some _, online) =>
      (.ok (.ReachableReported node_id),
        { roles with online := (online.heard_from node_id now).2 }.fire (.Recovered node_id .Probe))
    | (none, online) => (.ok (.ReachableReported node_id), { roles with online })
  | .Addresses node_id =>
    let addresses := desk.addresses_for node_id
    ((desk.send_to sender (address_answer_body addresses)).map fun _ => .Addresses addresses, roles)
  | .Registry => ((desk.send_to sender desk.registry_body).map fun _ => .Registry desk.generation, roles)

/-- One step of the server: a frame to itself answered, or a threshold read again. -/
inductive Act
  | answer (desk : Desk) (sender : String) (action : Net.Local) (now : Int64)
  | judge (subject : String) (now : Int64)

def Act.now : Act → Int64
  | .answer _ _ _ now => now
  | .judge _ now => now

def step (roles : Roles) : Act → Roles
  | .answer desk sender action now => (roles.answer_local desk sender action now).2
  | .judge subject now => roles.judge subject now

end Roles
end Riscdom.Net
