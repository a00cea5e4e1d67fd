import Mathlib.Data.List.Pairwise
import Mathlib.Logic.Function.Basic
import Mathlib.Tactic.SplitIfs
import Riscdom.AuditEvent
import Riscdom.Machine

/-!
Bridges from the audit chain to the host's events. Each run has one: it polls the
chain, which others append to all the while, announces what is new since its last
look, and looks once more when the run is over.
-/
namespace Riscdom.Core
open Riscdom.Json Riscdom.Machine Riscdom.Audit

def EV_AGENT_ITERATION : String := "agent:iteration"
def EV_AGENT_TOOL_CALL : String := "agent:tool_call"
def EV_AGENT_TOOL_RESULT : String := "agent:tool_result"
def EV_VM_STATE : String := "vm:state"

def vm_state_payload (state : String) (running : Bool) (since_ms : Option Int) (name : Option String) : Value :=
  json [("state", .string state), ("running", .bool running), ("since_ms", (since_ms.map Value.integer).getD .null),
    ("name", .ofOption name)]

/-- The host event that an action is announced as. -/
def host_event (action : String) : Option String :=
  if action = "agent.llm.request" then some EV_AGENT_ITERATION
  else if action = "agent.tool.call" then some EV_AGENT_TOOL_CALL
  else if action = "agent.tool.result" then some EV_AGENT_TOOL_RESULT
  else if action = "vm.start" ∨ action = "vm.stop" ∨ action = "vm.snapshot.save" then some EV_VM_STATE
  else none

/-- What an event carries, with the start time of the machine before it and after. -/
def event_payload (event : AuditEvent) (now : Int) (vm_started_at : Option Int) : Value × Option Int :=
  let field (key : String) := (key, (event.detail.get key).getD .null)
  let vm_payload (state : String) (since : Option Int) (name : Option String) :=
    (vm_state_payload state since.isSome since name, since)
  if event.action = "agent.llm.request" then (json [field "model", field "messages"], vm_started_at)
  else if event.action = "agent.tool.call" then (json [field "name", field "arguments"], vm_started_at)
  else if event.action = "agent.tool.result" then (json [field "ok", field "result"], vm_started_at)
  else if event.action = "vm.start" then vm_payload "running" (some now) none
  else if event.action = "vm.stop" then vm_payload "stopped" none none
  else if event.action = "vm.snapshot.save" then
    vm_payload "snapshot" vm_started_at ((event.detail.get "name").bind Value.as_str)
  else (.null, vm_started_at)

/-! ### One bridge -/

/-- What was emitted, and the chain event it was emitted for. -/
structure Announcement where
  id : Int
  name : String
  payload : Value

structure AuditBridge where
  last_id : Int
  emitted : List Announcement

namespace AuditBridge

def new : AuditBridge := ⟨0, []⟩

/-- One event of a look at the chain; the clock is what it shows at each event. -/
def announce (clock : Int → Int) (seen : List Announcement × Option Int) (stored : StoredEvent) :
    List Announcement × Option Int :=
  match host_event stored.event.action with
  | none => seen
  | some name =>
    let (payload, vm_started_at) := event_payload stored.event (clock stored.id) seen.2
    (seen.1 ++ [⟨stored.id, name, payload⟩], vm_started_at)

def tick (bridge : AuditBridge) (events : List StoredEvent) (clock : Int → Int) (vm_started_at : Option Int) :
    AuditBridge × Option Int :=
  let later := events.filter fun stored => bridge.last_id < stored.id
  let (emitted, vm_started_at) := later.foldl (announce clock) (bridge.emitted, vm_started_at)
  (⟨later.foldl (fun most stored => max most stored.id) bridge.last_id, emitted⟩, vm_started_at)

end AuditBridge

/-! ### The host -/

/-- The chain, with the sequence its ids are taken from. -/
structure AuditChain where
  events : List StoredEvent
  sequence : Int
  rising : events.Pairwise fun first second => first.id < second.id
  counted : ∀ stored ∈ events, stored.id ≤ sequence
  positive : ∀ stored ∈ events, 0 < stored.id
  started : 0 ≤ sequence

/-- An event at the end of the chain; ids may be left out. -/
def AuditChain.append (chain : AuditChain) (stored : StoredEvent) (gap : Nat) : AuditChain where
  events := chain.events ++ [{ stored with id := chain.sequence + 1 + gap }]
  sequence := chain.sequence + 1 + gap
  rising := by
    refine List.pairwise_append.mpr ⟨chain.rising, List.pairwise_singleton _ _, ?_⟩
    intro old inside last new
    obtain rfl := List.mem_singleton.mp new
    have below := chain.counted old inside
    simp only
    omega
  counted := by
    intro old inside
    rcases List.mem_append.mp inside with earlier | new
    · have below := chain.counted old earlier
      omega
    · obtain rfl := List.mem_singleton.mp new
      exact le_rfl
  positive := by
    intro old inside
    rcases List.mem_append.mp inside with earlier | new
    · exact chain.positive old earlier
    · obtain rfl := List.mem_singleton.mp new
      have started := chain.started
      simp only
      omega
  started := by
    have started := chain.started
    omega

@[simp] theorem AuditChain.append_events (chain : AuditChain) (stored : StoredEvent) (gap : Nat) :
    (chain.append stored gap).events = chain.events ++ [{ stored with id := chain.sequence + 1 + gap }] := rfl
@[simp] theorem AuditChain.append_sequence (chain : AuditChain) (stored : StoredEvent) (gap : Nat) :
    (chain.append stored gap).sequence = chain.sequence + 1 + gap := rfl

/-- A run's bridge: the machine it tells of, how long the chain was when the run began, and when it was over, with whether
    the last look could read it. -/
structure RunBridge where
  instance_id : Nat
  bridge : AuditBridge
  begun : Nat
  finished : Option (Nat × Bool)

structure BridgeHost where
  chain : AuditChain
  vm_started_at : Nat → Option Int
  bridges : Nat → Option RunBridge

inductive BridgeAct
  | Append (stored : StoredEvent) (gap : Nat)
  | MarkVm (instance_id : Nat) (since : Option Int)
  | Begin (run instance_id : Nat)
  | Tick (run : Nat) (readable : Bool) (clock : Int → Int)
  | Finish (run : Nat) (readable : Bool) (clock : Int → Int)

namespace BridgeHost

def start (chain : AuditChain) (vm_started_at : Nat → Option Int) : BridgeHost := ⟨chain, vm_started_at, fun _ => none⟩

variable (s : BridgeHost)

/-- One look of a run's bridge; a chain that cannot be read is an empty one. -/
def look (run : Nat) (b : RunBridge) (readable : Bool) (clock : Int → Int) (finished : Option (Nat × Bool)) : BridgeHost :=
  let (bridge, since) := b.bridge.tick (if readable then s.chain.events else []) clock (s.vm_started_at b.instance_id)
  { s with
    vm_started_at := Function.update s.vm_started_at b.instance_id since
    bridges := Function.update s.bridges run (some { b with bridge, finished }) }

def step (s : BridgeHost) : BridgeAct → BridgeHost
  | .Append stored gap => { s with chain := s.chain.append stored gap }
  | .MarkVm instance_id since => { s with vm_started_at := Function.update s.vm_started_at instance_id since }
  | .Begin run instance_id =>
    match s.bridges run with
    | none => { s with
        bridges := Function.update s.bridges run (some ⟨instance_id, .new, s.chain.events.length, none⟩) }
    | some _ => s
  | .Tick run readable clock =>
    match s.bridges run with
    | some b => if b.finished = none then s.look run b readable clock none else s
    | none => s
  | .Finish run readable clock =>
    match s.bridges run with
    | some b =>
      if b.finished = none then s.look run b readable clock (some (s.chain.events.length, readable)) else s
    | none => s

end BridgeHost

/-! ### A look at the chain -/

/-- The events of a chain that are announced, and as what. -/
def announced (events : List StoredEvent) : List (Int × String) :=
  events.filterMap fun stored => (host_event stored.event.action).map fun name => (stored.id, name)

def Announcement.source (announcement : Announcement) : Int × String := (announcement.id, announcement.name)

@[simp] theorem announced_append (first second : List StoredEvent) :
    announced (first ++ second) = announced first ++ announced second := List.filterMap_append

theorem announced_eq_nil {events : List StoredEvent} :
    announced events = [] ↔ ∀ stored ∈ events, host_event stored.event.action = none := by
  simp [announced, List.filterMap_eq_nil_iff]

/-- What is announced stands in the chain. -/
theorem mem_announced {events : List StoredEvent} {pair : Int × String} (inside : pair ∈ announced events) :
    ∃ stored ∈ events, stored.id = pair.1 := by
  obtain ⟨stored, member, shown⟩ := List.mem_filterMap.mp inside
  obtain ⟨name, -, rfl⟩ := Option.map_eq_some_iff.mp shown
  exact ⟨stored, member, rfl⟩

theorem announce_each (clock : Int → Int) (later : List StoredEvent) (seen : List Announcement × Option Int) :
    (later.foldl (AuditBridge.announce clock) seen).1.map Announcement.source =
      seen.1.map Announcement.source ++ announced later := by
  induction later generalizing seen with
  | nil => simp [announced]
  | cons stored later ih =>
    rw [List.foldl_cons, ih]
    cases shown : host_event stored.event.action with
    | none => simp [AuditBridge.announce, announced, shown]
    | some name => simp [AuditBridge.announce, announced, shown, Announcement.source]

theorem max_bounds (later : List StoredEvent) (last bound : Int) :
    let most := later.foldl (fun most stored => max most stored.id) last
    last ≤ most ∧ (∀ stored ∈ later, stored.id ≤ most) ∧
      (last ≤ bound → (∀ stored ∈ later, stored.id ≤ bound) → most ≤ bound) := by
  induction later generalizing last with
  | nil => exact ⟨le_rfl, nofun, fun low _ => low⟩
  | cons stored later ih =>
    obtain ⟨above, each, below⟩ := ih (max last stored.id)
    refine ⟨le_trans (le_max_left _ _) above, fun other inside => ?_, fun low all => ?_⟩
    · rcases List.mem_cons.mp inside with rfl | later
      · exact le_trans (le_max_right _ _) above
      · exact each other later
    · exact below (max_le low (all stored List.mem_cons_self)) fun other inside => all other (List.mem_cons_of_mem _ inside)

/-- The cursor of a bridge splits the chain: what it has read was announced, once, in the chain's order. -/
structure AuditBridge.Read (bridge : AuditBridge) (chain : AuditChain) (read unread : List StoredEvent) : Prop where
  split : chain.events = read ++ unread
  behind : ∀ stored ∈ read, stored.id ≤ bridge.last_id
  ahead : ∀ stored ∈ unread, bridge.last_id < stored.id
  below : bridge.last_id ≤ chain.sequence
  told : bridge.emitted.map Announcement.source = announced read

theorem AuditBridge.Read.append {bridge : AuditBridge} {chain : AuditChain} {read unread : List StoredEvent}
    (cursor : bridge.Read chain read unread) (stored : StoredEvent) (gap : Nat) :
    bridge.Read (chain.append stored gap) read (unread ++ [{ stored with id := chain.sequence + 1 + gap }]) := by
  have below := cursor.below
  refine ⟨?_, cursor.behind, fun other inside => ?_, ?_, cursor.told⟩
  · rw [AuditChain.append_events, cursor.split, List.append_assoc]
  · rcases List.mem_append.mp inside with earlier | new
    · exact cursor.ahead other earlier
    · obtain rfl := List.mem_singleton.mp new
      simp only
      omega
  · rw [AuditChain.append_sequence]
    omega

/-- A look that reads the chain announces all that was unread. -/
theorem AuditBridge.Read.tick {bridge : AuditBridge} {chain : AuditChain} {read unread : List StoredEvent}
    (cursor : bridge.Read chain read unread) (clock : Int → Int) (since : Option Int) :
    (bridge.tick chain.events clock since).1.Read chain chain.events [] := by
  have later : chain.events.filter (fun stored => bridge.last_id < stored.id) = unread := by
    rw [cursor.split, List.filter_append, List.filter_eq_nil_iff.mpr, List.nil_append, List.filter_eq_self.mpr]
    · intro stored inside
      simpa using cursor.ahead stored inside
    · intro stored inside
      simpa using cursor.behind stored inside
  have bounds := max_bounds unread bridge.last_id chain.sequence
  refine ⟨(List.append_nil _).symm, fun stored inside => ?_, nofun, ?_, ?_⟩
  · simp only [AuditBridge.tick, later]
    rw [cursor.split] at inside
    rcases List.mem_append.mp inside with old | new
    · exact le_trans (cursor.behind stored old) bounds.1
    · exact bounds.2.1 stored new
  · simp only [AuditBridge.tick, later]
    refine bounds.2.2 cursor.below fun stored inside => chain.counted stored ?_
    rw [cursor.split]
    exact List.mem_append_right _ inside
  · simp only [AuditBridge.tick, later]
    rw [announce_each, cursor.told, cursor.split, announced_append]

/-- A look that cannot read the chain changes nothing. -/
theorem AuditBridge.tick_unread (bridge : AuditBridge) (clock : Int → Int) (since : Option Int) :
    (bridge.tick [] clock since).1 = bridge := rfl

/-! ### Runs -/

/-- A run's bridge has announced a beginning of the chain, all that there was at the run's end if it could read it then. -/
structure RunBridge.Follows (b : RunBridge) (chain : AuditChain) : Prop where
  cursor : ∃ read unread, b.bridge.Read chain read unread ∧
    ∀ stop, b.finished = some (stop, true) → read.length = stop
  begun : b.begun ≤ chain.events.length
  finished : ∀ stop readable, b.finished = some (stop, readable) → b.begun ≤ stop ∧ stop ≤ chain.events.length

theorem RunBridge.Follows.append {b : RunBridge} {chain : AuditChain} (follows : b.Follows chain) (stored : StoredEvent)
    (gap : Nat) : b.Follows (chain.append stored gap) := by
  obtain ⟨read, unread, cursor, whole⟩ := follows.cursor
  have longer : (chain.append stored gap).events.length = chain.events.length + 1 := by simp
  refine ⟨⟨read, _, cursor.append stored gap, whole⟩, ?_, fun stop readable at_end => ?_⟩
  · have begun := follows.begun
    omega
  · obtain ⟨first, last⟩ := follows.finished stop readable at_end
    omega

/-- After a look the bridge follows the chain; the last one is at the chain's present end. -/
theorem RunBridge.Follows.look {b : RunBridge} {chain : AuditChain} (follows : b.Follows chain)
    (readable : Bool) (clock : Int → Int) (since : Option Int) {finished : Option (Nat × Bool)}
    (here : ∀ stop could, finished = some (stop, could) → stop = chain.events.length ∧ could = readable) :
    RunBridge.Follows { b with
      bridge := (b.bridge.tick (if readable then chain.events else []) clock since).1, finished } chain := by
  obtain ⟨read, unread, cursor, -⟩ := follows.cursor
  refine ⟨?_, follows.begun, fun stop could at_end => ?_⟩
  · cases readable with
    | true =>
      refine ⟨chain.events, [], cursor.tick clock since, fun stop at_end => ?_⟩
      exact (here stop true at_end).1.symm
    | false =>
      refine ⟨read, unread, ?_, fun stop at_end => ?_⟩
      · simp only [Bool.false_eq_true, if_false, AuditBridge.tick_unread]
        exact cursor
      · cases (here stop true at_end).2
  · obtain ⟨rfl, -⟩ := here stop could at_end
    exact ⟨follows.begun, le_rfl⟩

namespace BridgeHost
variable {s : BridgeHost}

def Follows (s : BridgeHost) : Prop := ∀ run b, s.bridges run = some b → b.Follows s.chain

theorem look_follows (follows : s.Follows) {run : Nat} {b : RunBridge} (at_work : s.bridges run = some b)
    (readable : Bool) (clock : Int → Int) {finished : Option (Nat × Bool)}
    (here : ∀ stop could, finished = some (stop, could) → stop = s.chain.events.length ∧ could = readable) :
    (s.look run b readable clock finished).Follows := by
  intro other c found
  by_cases same : other = run
  · subst same
    simp only [look, Function.update_self] at found
    cases found
    exact (follows other b at_work).look readable clock _ here
  · simp only [look, Function.update_of_ne same] at found
    exact follows other c found

theorem step_follows (follows : s.Follows) (act : BridgeAct) : (s.step act).Follows := by
  cases act with
  | Append stored gap =>
    intro run b found
    exact (follows run b found).append stored gap
  | MarkVm instance_id since =>
    intro run b found
    exact follows run b found
  | Begin run instance_id =>
    simp only [step]
    split
    · intro other b found
      by_cases same : other = run
      · subst same
        simp only [Function.update_self] at found
        cases found
        refine ⟨⟨[], s.chain.events, ⟨rfl, nofun, s.chain.positive, s.chain.started, rfl⟩, nofun⟩, le_rfl, nofun⟩
      · simp only [Function.update_of_ne same] at found
        exact follows other b found
    · exact follows
  | Tick run readable clock =>
    simp only [step]
    split
    · next b at_work =>
      split_ifs with going
      · exact look_follows follows at_work readable clock nofun
      · exact follows
    · exact follows
  | Finish run readable clock =>
    simp only [step]
    split
    · next b at_work =>
      split_ifs with going
      · refine look_follows follows at_work readable clock ?_
        rintro stop could ⟨⟩
        exact ⟨rfl, rfl⟩
      · exact follows
    · exact follows

/-- The bridge announced exactly what the chain took in from the run's beginning to its end. -/
def Exact (s : BridgeHost) (b : RunBridge) (stop : Nat) : Prop :=
  b.bridge.emitted.map Announcement.source = announced ((s.chain.events.take stop).drop b.begun)

/-- A bridge whose last look read the chain has announced all of the chain up to the run's end. -/
theorem Follows.told (follows : s.Follows) {run : Nat} {b : RunBridge} {stop : Nat} (at_work : s.bridges run = some b)
    (at_end : b.finished = some (stop, true)) :
    b.bridge.emitted.map Announcement.source = announced (s.chain.events.take stop) := by
  obtain ⟨read, unread, cursor, whole⟩ := (follows run b at_work).cursor
  rw [cursor.told, cursor.split, ← whole stop at_end, List.take_left]

/-- So it is exact just when no event before the run is one that is announced. -/
theorem Follows.exact_iff (follows : s.Follows) {run : Nat} {b : RunBridge} {stop : Nat} (at_work : s.bridges run = some b)
    (at_end : b.finished = some (stop, true)) :
    s.Exact b stop ↔ ∀ stored ∈ s.chain.events.take b.begun, host_event stored.event.action = none := by
  have within := ((follows run b at_work).finished stop true at_end).1
  have halves : announced (s.chain.events.take stop) =
      announced (s.chain.events.take b.begun) ++ announced ((s.chain.events.take stop).drop b.begun) := by
    rw [← announced_append]
    congr 1
    have shorter : (s.chain.events.take stop).take b.begun = s.chain.events.take b.begun := by
      rw [List.take_take, Nat.min_eq_left within]
    rw [← shorter, List.take_append_drop]
  rw [Exact, follows.told at_work at_end, halves, ← announced_eq_nil]
  constructor
  · intro same
    have sizes := congrArg List.length same
    rw [List.length_append] at sizes
    exact List.eq_nil_of_length_eq_zero (by omega)
  · intro nothing
    rw [nothing, List.nil_append]

/-- Runs that follow one another announce nothing twice where both are exact. -/
theorem exact_apart {b c : RunBridge} {stop until_then : Nat} (first : s.Exact b stop) (second : s.Exact c until_then)
    (after : stop ≤ c.begun) : ∀ one ∈ b.bridge.emitted, ∀ two ∈ c.bridge.emitted, one.id ≠ two.id := by
  intro one inside two other same
  have told_one : one.source ∈ announced ((s.chain.events.take stop).drop b.begun) :=
    first ▸ List.mem_map_of_mem inside
  have told_two : two.source ∈ announced ((s.chain.events.take until_then).drop c.begun) :=
    second ▸ List.mem_map_of_mem other
  obtain ⟨early, early_in, early_id⟩ := mem_announced told_one
  obtain ⟨late, late_in, late_id⟩ := mem_announced told_two
  have before : early ∈ s.chain.events.take c.begun :=
    (List.take_sublist_take_left after).subset (List.mem_of_mem_drop early_in)
  have behind : late ∈ s.chain.events.drop c.begun := by
    rw [List.drop_take] at late_in
    exact List.mem_of_mem_take late_in
  have rising := s.chain.rising
  rw [← List.take_append_drop c.begun s.chain.events, List.pairwise_append] at rising
  have less := rising.2.2 early before late behind
  rw [early_id, late_id] at less
  exact absurd same (ne_of_lt less)

end BridgeHost

/-- For every chain that runs begin on, and however appends and looks interleave: the bridge of a run that is over, its last
    look read, is exact if and only if no event older than the run is one that is announced; and between runs that follow
    one another, both exact, nothing is announced twice. -/
theorem bridge_exact_iff (chain : AuditChain) (vm_started_at : Nat → Option Int) (acts : List BridgeAct) :
    let s := run BridgeHost.step (BridgeHost.start chain vm_started_at) acts
    (∀ run b stop, s.bridges run = some b → b.finished = some (stop, true) →
      (s.Exact b stop ↔ ∀ stored ∈ s.chain.events.take b.begun, host_event stored.event.action = none)) ∧
    ∀ run b stop next c until_then, s.bridges run = some b → b.finished = some (stop, true) → s.bridges next = some c →
      c.finished = some (until_then, true) → s.Exact b stop → s.Exact c until_then → stop ≤ c.begun →
      ∀ one ∈ b.bridge.emitted, ∀ two ∈ c.bridge.emitted, one.id ≠ two.id := by
  intro s
  have starts : (BridgeHost.start chain vm_started_at).Follows := nofun
  have keeps (s : BridgeHost) (act : BridgeAct) (follows : s.Follows) : (s.step act).Follows :=
    BridgeHost.step_follows follows act
  have follows : s.Follows := run_invariant keeps starts acts
  refine ⟨fun run b stop at_work at_end => follows.exact_iff at_work at_end, ?_⟩
  intro run b stop next c until_then _ _ _ _ first second after
  exact BridgeHost.exact_apart first second after

/-- A chain nothing was appended to. -/
def new_chain : AuditChain := ⟨[], 0, .nil, nofun, nofun, le_rfl⟩

def llm_request : StoredEvent :=
  ⟨0, ⟨0, "agent", "agent.llm.request", json [("model", .string "m"), ("messages", .integer 1)], none⟩, "", ""⟩

/-- A run that asks its model once, and a second run in which nothing happens: the second announces the first one's event. -/
theorem older_announced_again :
    let s := run BridgeHost.step (BridgeHost.start new_chain fun _ => none) [.Begin 1 0, .Append llm_request 0,
      .Finish 1 true id, .Begin 2 0, .Finish 2 true id]
    (s.bridges 1).map (fun b => (b.finished, b.bridge.emitted.map Announcement.source)) =
        some (some (1, true), [(1, EV_AGENT_ITERATION)]) ∧
      (s.bridges 2).map (fun b => (b.begun, b.finished, b.bridge.emitted.map Announcement.source)) =
        some (1, some (1, true), [(1, EV_AGENT_ITERATION)]) ∧
      ∃ b, s.bridges 2 = some b ∧ ¬ s.Exact b 1 := by
  intro s
  have second : (s.bridges 2).map (fun b => (b.begun, b.finished, b.bridge.emitted.map Announcement.source)) =
      some (1, some (1, true), [(1, EV_AGENT_ITERATION)]) := by decide +kernel
  refine ⟨by decide +kernel, second, ?_⟩
  obtain ⟨b, found, same⟩ := Option.map_eq_some_iff.mp second
  obtain ⟨begun, rest⟩ := Prod.mk.inj same
  obtain ⟨-, told⟩ := Prod.mk.inj rest
  refine ⟨b, found, fun exact => ?_⟩
  rw [BridgeHost.Exact, told, begun, List.drop_eq_nil_of_le (List.length_take_le 1 s.chain.events)] at exact
  cases exact

end Riscdom.Core
