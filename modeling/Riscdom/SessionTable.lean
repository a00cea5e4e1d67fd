import Riscdom.Route

/-!
The sessions of the server, and the connections that bind and retire them. A
bind is two steps, the minting of its number and the entry in the table, and
the steps of any number of connections may come in any order.
-/
namespace Riscdom.Net
open Riscdom.Machine

/-! ### The table -/

/-- The counter of the numbers is a 64-bit one, which no run of a server comes to the end of. -/
structure SessionTable where
  sessions : Sessions
  next_id : Nat

namespace SessionTable

def new : SessionTable := ⟨fun _ => none, 0⟩

variable (table : SessionTable) (node_id : String)

/-- The next number, and the counter after it. -/
def fetch_add : Nat × SessionTable := (table.next_id, { table with next_id := table.next_id + 1 })

def insert (live : Live) : SessionTable := { table with sessions := Function.update table.sessions node_id (some live) }

/-- A node bound to the socket it dialled in on, and the number of the binding. -/
def bind (writer : Nat) (addr : String) : Nat × SessionTable :=
  (table.fetch_add.1, table.fetch_add.2.insert node_id ⟨table.fetch_add.1, addr, writer⟩)

/-- The session of a node retired, if it is still the one of that number. -/
def unbind (id : Nat) : Bool × SessionTable :=
  match table.sessions node_id with
  | some live =>
    if live.id = id then (true, { table with sessions := Function.update table.sessions node_id none })
    else (false, table)
  | none => (false, table)

variable {table node_id}

theorem insert_sessions (live : Live) (other : String) :
    (table.insert node_id live).sessions other = if other = node_id then some live else table.sessions other := by
  by_cases same : other = node_id
  · simp [insert, same]
  · simp [insert, same]

/-- A retirement takes away the session of its number, and no other. -/
theorem unbind_sessions (id : Nat) (other : String) :
    (table.unbind node_id id).2.sessions other =
      if other = node_id ∧ ∃ live, table.sessions node_id = some live ∧ live.id = id then none
      else table.sessions other := by
  rw [unbind]
  cases held : table.sessions node_id with
  | none => simp
  | some live =>
    by_cases own : live.id = id
    · by_cases same : other = node_id
      · simp [own, same]
      · simp [own, same]
    · simp [own]

@[simp] theorem unbind_next_id (id : Nat) : (table.unbind node_id id).2.next_id = table.next_id := by
  rw [unbind]
  split
  · split_ifs <;> rfl
  · rfl

end SessionTable

/-! ### Connections -/

/-- Where a connection came in from, and the socket that is written to. -/
structure Socket where
  addr : String
  writer : Nat
deriving DecidableEq

/-- What a connection holds: nothing yet, a number, a session of a node, or nothing more. -/
inductive Hold
  | Nothing
  | Minted (node_id : String) (id : Nat)
  | Bound (node_id : String) (id : Nat)
  | Retired
deriving DecidableEq

/-- The number that a connection holds. -/
def Hold.id : Hold → Option Nat
  | .Minted _ id => some id
  | .Bound _ id => some id
  | _ => none

/-- The table, what every connection holds, and which connection was bound last for a node. -/
structure Traffic where
  table : SessionTable
  held : Nat → Hold
  newest : String → Option Nat

namespace Traffic

def start : Traffic := ⟨.new, fun _ => .Nothing, fun _ => none⟩

inductive Act
  | mint (connection : Nat) (node_id : String)
  | insert (connection : Nat)
  | close (connection : Nat)
deriving DecidableEq

variable (sockets : Nat → Socket) (traffic : Traffic)

/-- One step of one connection; a step that is not its turn does nothing. -/
def step (traffic : Traffic) : Act → Traffic
  | .mint connection node_id =>
    match traffic.held connection with
    | .Nothing =>
      { traffic with
        table := traffic.table.fetch_add.2
        held := Function.update traffic.held connection (.Minted node_id traffic.table.fetch_add.1) }
    | _ => traffic
  | .insert connection =>
    match traffic.held connection with
    | .Minted node_id id =>
      { table := traffic.table.insert node_id ⟨id, (sockets connection).addr, (sockets connection).writer⟩
        held := Function.update traffic.held connection (.Bound node_id id)
        newest := Function.update traffic.newest node_id (some connection) }
    | _ => traffic
  | .close connection =>
    match traffic.held connection with
    | .Bound node_id id =>
      { traffic with
        table := (traffic.table.unbind node_id id).2
        held := Function.update traffic.held connection .Retired }
    | .Nothing => { traffic with held := Function.update traffic.held connection .Retired }
    | _ => traffic

/-- The two steps of a bind taken together are the bind of the table. -/
theorem bind_steps {connection : Nat} (free : traffic.held connection = .Nothing) (node_id : String) :
    (run (step sockets) traffic [.mint connection node_id, .insert connection]).table =
      (traffic.table.bind node_id (sockets connection).writer (sockets connection).addr).2 := by
  simp [step, free, SessionTable.bind]

/-! ### The invariant -/

/-- Numbers are given out once, and a session is the one of the connection that was bound last. -/
structure Sound (traffic : Traffic) : Prop where
  minted : ∀ connection id, (traffic.held connection).id = some id → id < traffic.table.next_id
  distinct : ∀ first second id, (traffic.held first).id = some id → (traffic.held second).id = some id → first = second
  placed : ∀ node_id connection, traffic.newest node_id = some connection →
    (∃ id, traffic.held connection = .Bound node_id id) ∨ traffic.held connection = .Retired
  session : ∀ node_id live, traffic.table.sessions node_id = some live ↔ ∃ connection id,
    traffic.newest node_id = some connection ∧ traffic.held connection = .Bound node_id id ∧
      live = ⟨id, (sockets connection).addr, (sockets connection).writer⟩

theorem start_sound : Sound sockets start := by
  refine ⟨?_, ?_, ?_, ?_⟩ <;> simp [start, SessionTable.new, Hold.id]

variable {sockets} {traffic}

theorem mint_sound (sound : Sound sockets traffic) (connection : Nat) (node_id : String) :
    Sound sockets (step sockets traffic (.mint connection node_id)) := by
  cases free : traffic.held connection with
  | Nothing =>
    have kept (other : Nat) : (step sockets traffic (.mint connection node_id)).held other =
        if other = connection then .Minted node_id traffic.table.next_id else traffic.held other := by
      simp only [step, free, Function.update_apply, SessionTable.fetch_add]
    have table : (step sockets traffic (.mint connection node_id)).table =
        { traffic.table with next_id := traffic.table.next_id + 1 } := by
      simp only [step, free, SessionTable.fetch_add]
    have newest : (step sockets traffic (.mint connection node_id)).newest = traffic.newest := by
      simp only [step, free]
    have older (other : Nat) (id : Nat) (holds : (traffic.held other).id = some id) : id < traffic.table.next_id :=
      sound.minted other id holds
    refine ⟨?_, ?_, ?_, ?_⟩
    · intro other id holds
      rw [kept] at holds
      rw [table]
      split_ifs at holds with same
      · cases holds
        exact Nat.lt_succ_self _
      · exact Nat.lt_succ_of_lt (older other id holds)
    · intro first second id left right
      rw [kept] at left right
      split_ifs at left right with here there there
      · rw [here, there]
      · cases left
        exact absurd (older second _ right) (Nat.lt_irrefl _)
      · cases right
        exact absurd (older first _ left) (Nat.lt_irrefl _)
      · exact sound.distinct first second id left right
    · intro node last bound
      rw [newest] at bound
      rw [kept]
      rcases sound.placed node last bound with ⟨id, held⟩ | retired
      · have other : last ≠ connection := by
          rintro rfl
          simp [free] at held
        rw [if_neg other]
        exact .inl ⟨id, held⟩
      · have other : last ≠ connection := by
          rintro rfl
          simp [free] at retired
        rw [if_neg other]
        exact .inr retired
    · intro node live
      rw [table, newest, sound.session]
      constructor
      · rintro ⟨last, id, bound, held, socket⟩
        have other : last ≠ connection := by
          rintro rfl
          simp [free] at held
        exact ⟨last, id, bound, by rw [kept, if_neg other, held], socket⟩
      · rintro ⟨last, id, bound, held, socket⟩
        rw [kept] at held
        split_ifs at held
        exact ⟨last, id, bound, held, socket⟩
  | Minted other id => simpa only [step, free] using sound
  | Bound other id => simpa only [step, free] using sound
  | Retired => simpa only [step, free] using sound

theorem insert_sound (sound : Sound sockets traffic) (connection : Nat) :
    Sound sockets (step sockets traffic (.insert connection)) := by
  cases turn : traffic.held connection with
  | Minted node_id id =>
    have kept (other : Nat) : (step sockets traffic (.insert connection)).held other =
        if other = connection then .Bound node_id id else traffic.held other := by
      simp only [step, turn, Function.update_apply]
    have ids (other : Nat) : ((step sockets traffic (.insert connection)).held other).id = (traffic.held other).id := by
      rw [kept]
      split_ifs with same
      · rw [same, turn]
        rfl
      · rfl
    have next_id : (step sockets traffic (.insert connection)).table.next_id = traffic.table.next_id := by
      simp only [step, turn, SessionTable.insert]
    have sessions (node : String) : (step sockets traffic (.insert connection)).table.sessions node =
        if node = node_id then some ⟨id, (sockets connection).addr, (sockets connection).writer⟩
        else traffic.table.sessions node := by
      simp only [step, turn, SessionTable.insert_sessions]
    have newest (node : String) : (step sockets traffic (.insert connection)).newest node =
        if node = node_id then some connection else traffic.newest node := by
      simp only [step, turn, Function.update_apply]
    -- a connection that was bound before is not the one whose turn it is
    have other_last {node : String} {last : Nat} (bound : traffic.newest node = some last) : last ≠ connection := by
      rintro rfl
      rcases sound.placed node last bound with ⟨other, held⟩ | held
      · simp [turn] at held
      · simp [turn] at held
    refine ⟨?_, ?_, ?_, ?_⟩
    · intro other number holds
      rw [ids] at holds
      rw [next_id]
      exact sound.minted other number holds
    · intro first second number left right
      rw [ids] at left right
      exact sound.distinct first second number left right
    · intro node last bound
      rw [newest] at bound
      split_ifs at bound with same
      · cases bound
        exact .inl ⟨id, by rw [kept, if_pos rfl, same]⟩
      · rw [kept, if_neg (other_last bound)]
        exact sound.placed node last bound
    · intro node live
      rw [sessions, newest]
      by_cases same : node = node_id
      · rw [if_pos same, if_pos same]
        constructor
        · intro placed
          cases placed
          exact ⟨connection, id, rfl, by rw [kept, if_pos rfl, same], rfl⟩
        · rintro ⟨last, number, bound, held, socket⟩
          cases bound
          rw [kept, if_pos rfl] at held
          cases held
          rw [socket]
      · rw [if_neg same, if_neg same, sound.session]
        constructor
        · rintro ⟨last, number, bound, held, socket⟩
          exact ⟨last, number, bound, by rw [kept, if_neg (other_last bound), held], socket⟩
        · rintro ⟨last, number, bound, held, socket⟩
          rw [kept, if_neg (other_last bound)] at held
          exact ⟨last, number, bound, held, socket⟩
  | Nothing => simpa only [step, turn] using sound
  | Bound node_id id => simpa only [step, turn] using sound
  | Retired => simpa only [step, turn] using sound

/-- A session is retired by the connection that is bound to it, and by no other. -/
theorem unbind_of_bound (sound : Sound sockets traffic) {connection id : Nat} {node_id : String}
    (bound : traffic.held connection = .Bound node_id id) (node : String) :
    (traffic.table.unbind node_id id).2.sessions node =
      if node = node_id ∧ traffic.newest node_id = some connection then none else traffic.table.sessions node := by
  rw [SessionTable.unbind_sessions]
  have own : (∃ live, traffic.table.sessions node_id = some live ∧ live.id = id) ↔
      traffic.newest node_id = some connection := by
    constructor
    · rintro ⟨live, placed, rfl⟩
      obtain ⟨last, number, newest, held, rfl⟩ := (sound.session node_id live).mp placed
      have same : last = connection := sound.distinct last connection number (by rw [held]; rfl) (by rw [bound]; rfl)
      rw [newest, same]
    · intro newest
      exact ⟨_, (sound.session node_id _).mpr ⟨connection, id, newest, bound, rfl⟩, rfl⟩
  simp only [own]

theorem close_sound (sound : Sound sockets traffic) (connection : Nat) :
    Sound sockets (step sockets traffic (.close connection)) := by
  -- whatever it held, the connection holds nothing more, and what the others hold is as it was
  have retires (table : SessionTable) (next_id : table.next_id = traffic.table.next_id)
      (sessions : ∀ node, table.sessions node =
        if traffic.newest node = some connection then none else traffic.table.sessions node) :
      Sound sockets { traffic with table := table, held := Function.update traffic.held connection .Retired } := by
    have kept (other : Nat) (unlike : other ≠ connection) :
        Function.update traffic.held connection .Retired other = traffic.held other := Function.update_of_ne unlike _ _
    have gone : Function.update traffic.held connection .Retired connection = .Retired := Function.update_self _ _ _
    have holds {other id : Nat} (held : (Function.update traffic.held connection .Retired other).id = some id) :
        (traffic.held other).id = some id := by
      by_cases same : other = connection
      · rw [same, gone] at held
        cases held
      · rwa [kept other same] at held
    refine ⟨?_, ?_, ?_, ?_⟩
    · intro other id held
      simp only [next_id]
      exact sound.minted other id (holds held)
    · intro first second id left right
      exact sound.distinct first second id (holds left) (holds right)
    · intro node last bound
      by_cases same : last = connection
      · exact .inr (by rw [same]; exact gone)
      · simp only [kept last same]
        exact sound.placed node last bound
    · intro node live
      simp only [sessions]
      by_cases own : traffic.newest node = some connection
      · rw [if_pos own]
        constructor
        · intro none_held
          cases none_held
        · rintro ⟨last, id, bound, held, -⟩
          cases own.symm.trans bound
          rw [gone] at held
          cases held
      · rw [if_neg own, sound.session]
        have other_last {last : Nat} (bound : traffic.newest node = some last) : last ≠ connection := by
          rintro rfl
          exact own bound
        constructor
        · rintro ⟨last, id, bound, held, socket⟩
          exact ⟨last, id, bound, by rw [kept last (other_last bound), held], socket⟩
        · rintro ⟨last, id, bound, held, socket⟩
          rw [kept last (other_last bound)] at held
          exact ⟨last, id, bound, held, socket⟩
  cases turn : traffic.held connection with
  | Nothing =>
    simp only [step, turn]
    apply retires traffic.table rfl
    intro node
    rw [if_neg]
    intro bound
    rcases sound.placed node connection bound with ⟨id, held⟩ | held
    · simp [turn] at held
    · simp [turn] at held
  | Bound node_id id =>
    simp only [step, turn]
    apply retires _ (SessionTable.unbind_next_id id)
    intro node
    rw [unbind_of_bound sound turn]
    by_cases same : node = node_id
    · simp [same]
    · have elsewhere : traffic.newest node ≠ some connection := by
        intro bound
        rcases sound.placed node connection bound with ⟨number, held⟩ | held
        · rw [turn] at held
          cases held
          exact same rfl
        · simp [turn] at held
      simp [same, elsewhere]
  | Minted node_id id => simpa only [step, turn] using sound
  | Retired => simpa only [step, turn] using sound

theorem step_sound (sound : Sound sockets traffic) (act : Act) : Sound sockets (step sockets traffic act) := by
  cases act with
  | mint connection node_id => exact mint_sound sound connection node_id
  | insert connection => exact insert_sound sound connection
  | close connection => exact close_sound sound connection

theorem run_sound (sockets : Nat → Socket) (acts : List Act) : Sound sockets (run (step sockets) start acts) := by
  have keeps (traffic : Traffic) (act : Act) (sound : Sound sockets traffic) : Sound sockets (step sockets traffic act) :=
    step_sound sound act
  exact run_invariant keeps (start_sound sockets) acts

/-! ### The law of the table -/

/-- However the steps of any number of connections are interleaved, a node has the session of the connection bound
    last for it until that one is closed, and the close of an older connection takes no session away. -/
theorem sessions_newest (sockets : Nat → Socket) (acts : List Act) :
    (∀ node_id live, (run (step sockets) start acts).table.sessions node_id = some live ↔ ∃ connection id,
      (run (step sockets) start acts).newest node_id = some connection ∧
        (run (step sockets) start acts).held connection = .Bound node_id id ∧
          live = ⟨id, (sockets connection).addr, (sockets connection).writer⟩) ∧
      ∀ connection node_id id, (run (step sockets) start acts).held connection = .Bound node_id id →
        (run (step sockets) start acts).newest node_id ≠ some connection →
          (run (step sockets) start (acts ++ [.close connection])).table.sessions =
            (run (step sockets) start acts).table.sessions := by
  have sound := run_sound sockets acts
  refine ⟨sound.session, ?_⟩
  intro connection node_id id bound older
  rw [run_append, run_cons, run_nil]
  funext node
  simp only [step, bound]
  rw [unbind_of_bound sound bound]
  simp [older]

/-- A node that dialled in again before its first connection ended. -/
def reconnect : List Act := [.mint 0 "dev-a", .insert 0, .mint 1 "dev-a", .insert 1]

def two_sockets (connection : Nat) : Socket := ⟨"10.0.0.2:50000", connection⟩

theorem reconnect_kept : (run (step two_sockets) start (reconnect ++ [.close 0])).table.sessions "dev-a" =
    some ⟨1, "10.0.0.2:50000", 1⟩ := by
  rw [(sessions_newest two_sockets reconnect).2 0 "dev-a" 0 rfl (by decide)]
  rfl

end Traffic
end Riscdom.Net
