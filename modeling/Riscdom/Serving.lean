import Riscdom.Relaying
import Riscdom.SessionTable

/-!
The connections of the server, each served by its own thread: a frame is read
and routed, and the first that is answered or handed on binds the connection to
its sender. What the local roles answer after that touches no session.
-/
namespace Riscdom.Net
open Riscdom.Json Riscdom.Machine

/-! ### The machine -/

/-- The record, the sessions, and whom each connection is about to be bound to. -/
structure Server where
  guard : ReplayGuard
  traffic : Traffic
  pending : Nat → Option String

namespace Server

def start : Server := ⟨.new, .start, fun _ => none⟩

inductive Act
  | frame (connection : Nat) (arrival : Arrival)
  | mint (connection : Nat)
  | drop (connection : Nat)
  | insert (connection : Nat)
  | close (connection : Nat)

section Step
variable (wire : Wire) (server_node_id : String) (sockets : Nat → Socket)

/-- The frame against the sessions of this moment. -/
def seen (server : Server) (arrival : Arrival) : Arrival :=
  { arrival with setting := { arrival.setting with sessions := server.traffic.table.sessions } }

/-- The connection is between two frames. -/
def reading (server : Server) (connection : Nat) : Bool :=
  (server.pending connection).isNone && match server.traffic.held connection with
    | .Nothing => true
    | .Bound _ _ => true
    | _ => false

/-- One step of one connection; a step that is not its turn does nothing. -/
def step (server : Server) : Act → Server
  | .frame connection arrival =>
    if server.reading connection then
      let passage := (server.seen arrival).passage wire server_node_id server.guard
      { server with
        guard := passage.guard
        pending := match passage.result, server.traffic.held connection with
          | .ok routed, .Nothing => Function.update server.pending connection (some routed.sender)
          | _, _ => server.pending }
    else server
  | .mint connection =>
    match server.pending connection with
    | some node_id =>
      { server with
        traffic := server.traffic.step sockets (.mint connection node_id)
        pending := Function.update server.pending connection none }
    | none => server
  -- the socket could not be cloned
  | .drop connection => { server with pending := Function.update server.pending connection none }
  | .insert connection => { server with traffic := server.traffic.step sockets (.insert connection) }
  | .close connection =>
    if server.reading connection then { server with traffic := server.traffic.step sockets (.close connection) }
    else server

/-- The session of every node. -/
def sessions (server : Server) : Sessions := server.traffic.table.sessions

variable {wire server_node_id sockets} {server : Server} {message : SignedMessage} {arrival : Arrival}

/-! ### What the record has taken -/

theorem spent_step {triple : String × Int64 × String} (spent : server.guard.Spent triple) (act : Act) :
    (server.step wire server_node_id sockets act).guard.Spent triple := by
  cases act with
  | frame connection arrival =>
    rw [step]
    split_ifs
    · exact spent_relay spent (server.seen arrival)
    · exact spent
  | mint connection =>
    rw [step]
    split
    · exact spent
    · exact spent
  | drop connection => exact spent
  | insert connection => exact spent
  | close connection =>
    rw [step]
    split_ifs
    · exact spent
    · exact spent

theorem spent_run {triple : String × Int64 × String} (spent : server.guard.Spent triple) (acts : List Act) :
    (run (step wire server_node_id sockets) server acts).guard.Spent triple := by
  have keeps (server : Server) (act : Act) (spent : server.guard.Spent triple) :
      (server.step wire server_node_id sockets act).guard.Spent triple := spent_step spent act
  exact @run_invariant Server Act (step wire server_node_id sockets) (fun server => server.guard.Spent triple) keeps
    server spent acts

/-- A spent frame is refused, and leaves the record as it was. -/
theorem passage_of_spent {guard : ReplayGuard} (read : SignedMessage.parse_line wire arrival.frame = .ok message)
    (other : ¬ Opens server_node_id message) (spent : guard.Spent (message.triple wire)) :
    (∃ error, (arrival.passage wire server_node_id guard).result = .error error) ∧
      (arrival.passage wire server_node_id guard).guard = guard := by
  rw [Arrival.passage]
  cases identified : check_identity wire message arrival.setting.keys with
  | error error =>
    rw [route_unidentified read identified]
    exact ⟨⟨_, rfl⟩, rfl⟩
  | ok _ =>
    rw [← message.call_triple wire arrival.setting.now] at spent
    obtain ⟨still, refused⟩ := ReplayGuard.step_of_spent spent
    obtain ⟨stepped, nobody⟩ := route_recorded read identified other
    refine ⟨?_, stepped.trans still⟩
    cases recorded : (check_record wire message guard arrival.setting.now).1 with
    | error error => exact ⟨_, (nobody error recorded).1⟩
    | ok _ =>
      rw [(check_record_step guard arrival.setting.now).2.mp recorded] at refused
      cases refused

/-- A frame that was taken once changes nothing of the server when it comes again, on whatever connection. -/
theorem step_of_spent (read : SignedMessage.parse_line wire arrival.frame = .ok message)
    (other : ¬ Opens server_node_id message) (spent : server.guard.Spent (message.triple wire)) (connection : Nat) :
    server.step wire server_node_id sockets (.frame connection arrival) = server := by
  have read_here : SignedMessage.parse_line wire (server.seen arrival).frame = .ok message := read
  obtain ⟨⟨error, refused⟩, still⟩ := passage_of_spent read_here other spent
  rw [step]
  split_ifs
  · simp only [refused, still]
  · rfl

/-- Whatever the frame, a connection that is bound already is bound to nobody else by it. -/
theorem step_of_bound {connection id : Nat} {node_id : String}
    (bound : server.traffic.held connection = .Bound node_id id) (arrival : Arrival) :
    (server.step wire server_node_id sockets (.frame connection arrival)).traffic = server.traffic ∧
      (server.step wire server_node_id sockets (.frame connection arrival)).pending = server.pending := by
  rw [step]
  split_ifs
  · refine ⟨rfl, ?_⟩
    simp only [bound]
    split
    · next turn =>
      cases turn
    · rfl
  · exact ⟨rfl, rfl⟩

/-- The steps of a connection that opens a session. -/
def opening (connection : Nat) (arrival : Arrival) : List Act :=
  [.frame connection arrival, .mint connection, .insert connection]

/-- An authentic hello binds a connection that is bound to nobody, whether or not it came before. -/
theorem run_opening {connection : Nat} (read : SignedMessage.parse_line wire arrival.frame = .ok message)
    (identified : check_identity wire message arrival.setting.keys = .ok ()) (opens : Opens server_node_id message)
    (free : server.traffic.held connection = .Nothing) (idle : server.pending connection = none) :
    run (step wire server_node_id sockets) server (opening connection arrival) =
      { server with
        traffic := run (Traffic.step sockets) server.traffic [.mint connection message.sender, .insert connection] } := by
  have ready : server.reading connection = true := by simp [reading, free, idle]
  have routed : (server.seen arrival).passage wire server_node_id server.guard =
      ⟨.ok (.Local message.sender message.recipient .Hello), server.guard, []⟩ := route_opening read identified opens
  have asked : server.step wire server_node_id sockets (.frame connection arrival) =
      { server with pending := Function.update server.pending connection (some message.sender) } := by
    rw [step, if_pos ready, routed, free]
    rfl
  have cleared : Function.update (Function.update server.pending connection (some message.sender)) connection none =
      server.pending := by
    rw [Function.update_idem, Function.update_eq_self_iff.mpr idle.symm]
  rw [opening, run_cons, asked]
  simp [step, cleared]

theorem sessions_opening {connection : Nat} (read : SignedMessage.parse_line wire arrival.frame = .ok message)
    (identified : check_identity wire message arrival.setting.keys = .ok ()) (opens : Opens server_node_id message)
    (free : server.traffic.held connection = .Nothing) (idle : server.pending connection = none) :
    (run (step wire server_node_id sockets) server (opening connection arrival)).sessions message.sender =
      some ⟨server.traffic.table.next_id, (sockets connection).addr, (sockets connection).writer⟩ := by
  rw [run_opening read identified opens free idle]
  simp [sessions, Traffic.step, free, SessionTable.fetch_add, SessionTable.insert]

end Step

/-! ### Frames that come again -/

/-- A frame that the record has taken changes nothing when it comes again, on whatever connection and however late;
    no frame at all rebinds a connection that is bound; a hello that comes again binds a connection that is not. -/
theorem replayed_frame_still (wire : Wire) (server_node_id : String) (sockets : Nat → Socket) (server : Server)
    {connection : Nat} {arrival : Arrival} {message : SignedMessage}
    (read : SignedMessage.parse_line wire arrival.frame = .ok message) (ready : server.reading connection = true) :
    (Recorded wire server_node_id message server.guard (server.seen arrival).setting → ∀ acts other setting,
        (run (step wire server_node_id sockets) (server.step wire server_node_id sockets (.frame connection arrival)) acts).step
            wire server_node_id sockets (.frame other ⟨arrival.frame, setting⟩) =
          run (step wire server_node_id sockets) (server.step wire server_node_id sockets (.frame connection arrival)) acts) ∧
      (∀ node_id id, server.traffic.held connection = .Bound node_id id →
        (server.step wire server_node_id sockets (.frame connection arrival)).traffic = server.traffic ∧
          (server.step wire server_node_id sockets (.frame connection arrival)).pending = server.pending) ∧
      (check_identity wire message arrival.setting.keys = .ok () → Opens server_node_id message →
        server.traffic.held connection = .Nothing →
          (run (step wire server_node_id sockets) server (opening connection arrival)).sessions message.sender =
            some ⟨server.traffic.table.next_id, (sockets connection).addr, (sockets connection).writer⟩) := by
  refine ⟨?_, fun node_id id bound => step_of_bound bound arrival, ?_⟩
  · intro recorded acts other setting
    have taken : (server.step wire server_node_id sockets (.frame connection arrival)).guard.Spent (message.triple wire) := by
      rw [step, if_pos ready]
      have read_here : SignedMessage.parse_line wire (server.seen arrival).frame = .ok message := read
      exact spent_of_recorded read_here recorded
    have again : SignedMessage.parse_line wire (Arrival.mk arrival.frame setting).frame = .ok message := read
    exact step_of_spent again recorded.1 (spent_run taken acts) other
  · intro identified opens free
    have idle : server.pending connection = none := by
      rw [reading, Bool.and_eq_true] at ready
      exact Option.isNone_iff_eq_none.mp ready.1
    exact sessions_opening read identified opens free idle

/-- The takeover of one node, from its own connection and then from another. -/
theorem copied_takeover_still :
    (step takeover_wire "relay-1" Traffic.two_sockets
        (start.step takeover_wire "relay-1" Traffic.two_sockets (.frame 0 (told "dev-b" "1700000000000" 1700000000000)))
        (.frame 1 ⟨takeover_line "dev-b" "1700000000000" ++ "\n", two_peers 1700000060000⟩)) =
      start.step takeover_wire "relay-1" Traffic.two_sockets (.frame 0 (told "dev-b" "1700000000000" 1700000000000)) := by
  have read : SignedMessage.parse_line takeover_wire (told "dev-b" "1700000000000" 1700000000000).frame =
      .ok (takeover "dev-b" 1700000000000) := takeover_read ("dev-b", "1700000000000", 1700000000000) (by decide)
  have ready : start.reading 0 = true := rfl
  obtain ⟨recorded, -⟩ := replayed_frame_still takeover_wire "relay-1" Traffic.two_sockets start read ready
  exact recorded ⟨told_first_recorded.1, told_first_recorded.2⟩ [] 1 (two_peers 1700000060000)

def hello : SignedMessage := ⟨1, "dev-a", "relay-1", 1700000000000, hello_body, zero_signature⟩

def hello_line : String :=
  "\x7b" ++ ("\"v\":1,\"from\":\"dev-a\",\"to\":\"relay-1\",\"ts\":1700000000000,\"body\":\x7b\"hello\":1\x7d,\"sig\":\"" ++
    zero_signature ++ "\"") ++ "\x7d"

def hello_wire : Wire :=
  { takeover_wire with
    from_str := fun line => if line = hello_line then .ok hello else .error "expected value at line 1 column 1" }

theorem hello_read : SignedMessage.parse_line hello_wire (hello_line ++ "\n") = .ok hello := by
  have trimmed : Text.trim (hello_line ++ "\n") = hello_line := Text.trim_object _
  have parsed : hello_wire.from_str hello_line = .ok hello := by simp [hello_wire]
  have signature : hello.signature hello_wire = .ok (List.replicate 64 0) := by
    simp [SignedMessage.signature, hello_wire, takeover_wire, hello, SIGNATURE_BYTES]
  rw [SignedMessage.parse_line, trimmed, parsed]
  simp only [signature]

/-- A copy of a hello, five days later and from another connection, takes the session of its sender. -/
theorem copied_hello_rebinds : ¬ ∀ (wire : Wire) (server_node_id : String) (sockets : Nat → Socket) (acts : List Act)
    (first second : Nat) (frame : String) (before after : Setting), first ≠ second →
      .frame first ⟨frame, before⟩ ∈ acts → (run (step wire server_node_id sockets) start acts).reading second = true →
        (run (step wire server_node_id sockets) start (acts ++ opening second ⟨frame, after⟩)).sessions =
          (run (step wire server_node_id sockets) start acts).sessions := by
  intro law
  have opens : Opens "relay-1" hello := by decide
  have identified (now : Int64) : check_identity hello_wire hello (two_peers now).keys = .ok () := by
    refine check_identity_ok.mpr ⟨⟨rfl, ⟨[]⟩, List.mem_singleton.mpr rfl, ?_⟩, rfl⟩
    simp [SignedMessage.verify_with, SignedMessage.signature, hello_wire, takeover_wire, hello, SIGNATURE_BYTES]
  have first := @run_opening hello_wire "relay-1" Traffic.two_sockets start hello
    ⟨hello_line ++ "\n", two_peers 1700000000000⟩ 0 hello_read (identified _) opens rfl rfl
  have same := law hello_wire "relay-1" Traffic.two_sockets
    (opening 0 ⟨hello_line ++ "\n", two_peers 1700000000000⟩) 0 1 (hello_line ++ "\n") (two_peers 1700000000000)
    (two_peers 1700432000000) (by decide) List.mem_cons_self (by rw [first]; rfl)
  rw [run_append, first] at same
  have moved := @sessions_opening hello_wire "relay-1" Traffic.two_sockets
    { start with traffic := run (Traffic.step Traffic.two_sockets) start.traffic [.mint 0 hello.sender, .insert 0] } hello
    ⟨hello_line ++ "\n", two_peers 1700432000000⟩ 1 hello_read (identified _) opens rfl rfl
  rw [same] at moved
  exact absurd moved (by decide)

end Server
end Riscdom.Net
