import Mathlib.Logic.Function.Basic
import Mathlib.Tactic.SplitIfs
import Riscdom.Json
import Riscdom.Machine

/-!
Model streams of the runs of one host. Every run subscribes to its agent's stream
and leaves the receiver in a slot that all runs of the host share; a thread of the
run takes what it finds there and emits what comes. Calls of any number are at
work, a step at a time.
-/
namespace Riscdom.Core
open Riscdom.Json Riscdom.Machine

inductive StreamEvent
  | Delta (text : String)
  | ToolCallDelta (index : Nat) (id name : Option String) (args_delta : String)
  | Done
deriving DecidableEq

def EV_AGENT_STREAM_DELTA : String := "agent:stream:delta"
def EV_AGENT_STREAM_DONE : String := "agent:stream:done"

/-- The host event of a stream event; tool calls have host events of their own. -/
def forward : StreamEvent → Option (String × Value)
  | .Delta text => some (EV_AGENT_STREAM_DELTA, json [("text", .string text)])
  | .ToolCallDelta _ _ _ _ => none
  | .Done => some (EV_AGENT_STREAM_DONE, json [])

/-! ### Runs and their forwarders -/

/-- Where the call is: before it subscribes, in the agent's run, stopping its threads, or returned. -/
inductive CallStage
  | Preparing
  | Running
  | Stopping
  | Returned
deriving DecidableEq

/-- Where the thread of a call is: before the slot, in its loop or its grace drain with a receiver, or ended. -/
inductive Forwarder
  | Spawned
  | Listening (channel : Nat)
  | Draining (channel idle : Nat)
  | Ended
deriving DecidableEq

/-- A call, with what its model streamed, what of that waits in its channel, and whether the channel has a receiver. -/
structure StreamRun where
  stage : CallStage
  forwarder : Forwarder
  streamed : List StreamEvent
  queue : List StreamEvent
  connected : Bool

/-- What was emitted: on behalf of which run, off whose stream, and the host event. -/
structure Emitted where
  run : Nat
  channel : Nat
  event : String × Value

structure RunStreams where
  stream_receiver : Option Nat
  runs : Nat → StreamRun
  emitted : List Emitted

inductive StreamAct
  | Subscribe (run : Nat)
  | Take (run : Nat)
  | Stream (run : Nat) (event : StreamEvent)
  | Forward (run : Nat)
  | Stop (run : Nat)
  | Return (run : Nat)

/-- How many looks at an empty channel end the grace drain. -/
def IDLE_LOOKS : Nat := 10

namespace RunStreams

def start : RunStreams := ⟨none, fun _ => ⟨.Preparing, .Spawned, [], [], false⟩, []⟩

variable (s : RunStreams)

def put (run : Nat) (r : StreamRun) : RunStreams := { s with runs := Function.update s.runs run r }

/-- A receiver is dropped: what is sent from now on is lost. -/
def disconnect : Option Nat → RunStreams
  | none => s
  | some channel => s.put channel { s.runs channel with queue := [], connected := false }

/-- The first event of a channel, taken and emitted on behalf of a run. -/
def emit (run channel : Nat) (event : StreamEvent) (later : List StreamEvent) : RunStreams :=
  { s.put channel { s.runs channel with queue := later } with
    emitted := s.emitted ++ ((forward event).map fun shown => ⟨run, channel, shown⟩).toList }

def now_at (run : Nat) (forwarder : Forwarder) : RunStreams := s.put run { s.runs run with forwarder }

/-- One turn of the forwarder's loops. -/
def forward_turn (run : Nat) : RunStreams :=
  match (s.runs run).forwarder with
  | .Listening channel =>
    if (s.runs run).stage ≠ .Running then s.now_at run (.Draining channel 0)
    else match (s.runs channel).queue with
      | event :: later => s.emit run channel event later
      -- The agent of a call that returned is gone, and its sender with it.
      | [] => if (s.runs channel).stage = .Returned then s.now_at run (.Draining channel 0) else s
  | .Draining channel idle =>
    match (s.runs channel).queue with
    | event :: later => (s.emit run channel event later).now_at run (.Draining channel 0)
    | [] =>
      if idle + 1 < IDLE_LOOKS then s.now_at run (.Draining channel (idle + 1))
      else (s.disconnect (some channel)).now_at run .Ended
  | _ => s

def step (s : RunStreams) : StreamAct → RunStreams
  | .Subscribe run =>
    if (s.runs run).stage = .Preparing then
      let cleared := s.disconnect s.stream_receiver
      { cleared.put run { cleared.runs run with stage := .Running, connected := true } with stream_receiver := some run }
    else s
  | .Take run =>
    if (s.runs run).stage ≠ .Preparing ∧ (s.runs run).forwarder = .Spawned then
      match s.stream_receiver with
      | none => s.now_at run .Ended
      | some channel => { s.now_at run (.Listening channel) with stream_receiver := none }
    else s
  | .Stream run event =>
    let r := s.runs run
    if r.stage = .Running then
      s.put run { r with streamed := r.streamed ++ [event], queue := if r.connected then r.queue ++ [event] else r.queue }
    else s
  | .Forward run => s.forward_turn run
  | .Stop run => if (s.runs run).stage = .Running then s.put run { s.runs run with stage := .Stopping } else s
  | .Return run =>
    if (s.runs run).stage = .Stopping ∧ (s.runs run).forwarder = .Ended then
      s.put run { s.runs run with stage := .Returned }
    else s

/-- What was emitted on behalf of a run. -/
def emitted_for (run : Nat) : List Emitted := s.emitted.filter fun e => e.run = run

end RunStreams

/-! ### The invariant -/

/-- A forwarder that takes a receiver finds its own call's. -/
def TakesOwn (s : RunStreams) : StreamAct → Prop
  | .Take run => s.stream_receiver = some run
  | _ => True

/-- How far a call and its forwarder are with the call's own stream: nothing is shown while the receiver waits for them,
    the shown and the queued make up the stream while the forwarder has it, and all is shown in the end. -/
inductive RunFits (run : Nat) (waits : Prop) : StreamRun → List (String × Value) → Prop
  | preparing {shown : List (String × Value)} (away : ¬waits) (nothing : shown = []) :
      RunFits run waits ⟨.Preparing, .Spawned, [], [], false⟩ shown
  | spawned {stage : CallStage} {streamed queue : List StreamEvent} {connected : Bool}
      {shown : List (String × Value)} (going : stage = .Running ∨ stage = .Stopping)
      (here : waits → connected = true ∧ queue = streamed) (nothing : shown = []) :
      RunFits run waits ⟨stage, .Spawned, streamed, queue, connected⟩ shown
  | listening {stage : CallStage} {streamed queue : List StreamEvent} {shown : List (String × Value)}
      (going : stage = .Running ∨ stage = .Stopping) (away : ¬waits)
      (all : shown ++ queue.filterMap forward = streamed.filterMap forward) :
      RunFits run waits ⟨stage, .Listening run, streamed, queue, true⟩ shown
  | draining {idle : Nat} {streamed queue : List StreamEvent} {shown : List (String × Value)} (away : ¬waits)
      (all : shown ++ queue.filterMap forward = streamed.filterMap forward) :
      RunFits run waits ⟨.Stopping, .Draining run idle, streamed, queue, true⟩ shown
  | ended {stage : CallStage} {streamed queue : List StreamEvent} {connected : Bool} {shown : List (String × Value)}
      (at_end : stage = .Stopping ∨ stage = .Returned) (away : ¬waits) (all : shown = streamed.filterMap forward) :
      RunFits run waits ⟨stage, .Ended, streamed, queue, connected⟩ shown

theorem RunFits.mono {run : Nat} {waits fewer : Prop} {r : StreamRun} {shown : List (String × Value)}
    (fits : RunFits run waits r shown) (less : fewer → waits) : RunFits run fewer r shown := by
  cases fits with
  | preparing away nothing => exact .preparing (fun here => away (less here)) nothing
  | spawned going here nothing => exact .spawned going (fun waits => here (less waits)) nothing
  | listening going away all => exact .listening going (fun here => away (less here)) all
  | draining away all => exact .draining (fun here => away (less here)) all
  | ended at_end away all => exact .ended at_end (fun here => away (less here)) all

namespace RunStreams

def shown (s : RunStreams) (run : Nat) : List (String × Value) := (s.emitted_for run).map Emitted.event

structure Apart (s : RunStreams) : Prop where
  own : ∀ e ∈ s.emitted, e.channel = e.run
  fits : ∀ run, RunFits run (s.stream_receiver = some run) (s.runs run) (s.shown run)

variable {s t : RunStreams} {run other : Nat}

@[simp] theorem put_runs_self (r : StreamRun) : (s.put run r).runs run = r := Function.update_self ..
theorem put_runs_other (r : StreamRun) (apart : other ≠ run) : (s.put run r).runs other = s.runs other :=
  Function.update_of_ne apart ..

/-- A step that leaves the other runs alone keeps what it keeps of its own. -/
theorem Apart.of_run (apart : s.Apart) (run : Nat) (emitted : ∀ e ∈ t.emitted, e ∈ s.emitted ∨ e.channel = e.run)
    (others : ∀ other, other ≠ run → t.runs other = s.runs other ∧ t.shown other = s.shown other ∧
      (t.stream_receiver = some other → s.stream_receiver = some other))
    (fits : RunFits run (t.stream_receiver = some run) (t.runs run) (t.shown run)) : t.Apart := by
  constructor
  · intro e inside
    exact (emitted e inside).elim (apart.own e) id
  · intro other
    by_cases same : other = run
    · rw [same]
      exact fits
    · obtain ⟨runs, shown, slot⟩ := others other same
      rw [runs, shown]
      exact (apart.fits other).mono slot

/-- A step that changes one run only. -/
theorem Apart.put (apart : s.Apart) {r : StreamRun} (fits : RunFits run (s.stream_receiver = some run) r (s.shown run)) :
    (s.put run r).Apart := by
  refine apart.of_run run (fun _ inside => .inl inside) (fun _ differs => ⟨put_runs_other r differs, rfl, id⟩) ?_
  rw [put_runs_self]
  exact fits

/-- A receiver waits for a forwarder that has not come for it. -/
theorem Apart.waiting (apart : s.Apart) (waits : s.stream_receiver = some run) :
    ∃ stage streamed, (stage = CallStage.Running ∨ stage = .Stopping) ∧
      s.runs run = ⟨stage, .Spawned, streamed, streamed, true⟩ ∧ s.shown run = [] := by
  have fits := apart.fits run
  generalize s.runs run = r at fits
  cases fits with
  | preparing away => exact absurd waits away
  | @spawned stage streamed queue connected _ going here nothing =>
    obtain ⟨rfl, rfl⟩ := here waits
    exact ⟨stage, queue, going, rfl, nothing⟩
  | listening going away all => exact absurd waits away
  | draining away all => exact absurd waits away
  | ended at_end away all => exact absurd waits away

/-- A call that prepares has no thread at work, and nothing streamed. -/
theorem Apart.preparing (apart : s.Apart) (prepares : (s.runs run).stage = .Preparing) :
    s.runs run = ⟨.Preparing, .Spawned, [], [], false⟩ ∧ s.stream_receiver ≠ some run ∧ s.shown run = [] := by
  have fits := apart.fits run
  generalize s.runs run = r at fits prepares
  cases fits with
  | preparing away nothing => exact ⟨rfl, away, nothing⟩
  | spawned going here nothing => rcases going with rfl | rfl <;> cases prepares
  | listening going away all => rcases going with rfl | rfl <;> cases prepares
  | draining away all => cases prepares
  | ended at_end away all => rcases at_end with rfl | rfl <;> cases prepares

@[simp] theorem disconnect_emitted (channel : Option Nat) : (s.disconnect channel).emitted = s.emitted := by
  cases channel <;> rfl

theorem disconnect_other {channel : Option Nat} (apart : channel ≠ some run) :
    (s.disconnect channel).runs run = s.runs run := by
  cases channel with
  | none => rfl
  | some channel => exact put_runs_other _ fun same => apart (congrArg some same.symm)

theorem shown_of_emitted (same : t.emitted = s.emitted) (run : Nat) : t.shown run = s.shown run := by
  rw [shown, shown, emitted_for, emitted_for, same]

/-- A call subscribes: it drops the receiver that waited, which was another call's, and leaves its own. -/
theorem subscribe_apart (apart : s.Apart) (run : Nat) : (s.step (.Subscribe run)).Apart := by
  simp only [step]
  split_ifs with prepares
  · obtain ⟨fresh, away, nothing⟩ := apart.preparing prepares
    have kept : (s.disconnect s.stream_receiver).runs run = s.runs run := disconnect_other away
    refine ⟨fun e inside => ?_, fun other => ?_⟩
    · have emitted : e ∈ (s.disconnect s.stream_receiver).emitted := inside
      rw [disconnect_emitted] at emitted
      exact apart.own e emitted
    · change RunFits other (some run = some other) (((s.disconnect s.stream_receiver).put run _).runs other)
        ((s.disconnect s.stream_receiver).shown other)
      rw [shown_of_emitted (disconnect_emitted s.stream_receiver) other]
      by_cases same : other = run
      · subst same
        rw [put_runs_self, kept, fresh]
        exact .spawned (.inl rfl) (fun _ => ⟨rfl, rfl⟩) nothing
      · have elsewhere : some run ≠ some other := fun here => same (Option.some.inj here).symm
        rw [put_runs_other _ same]
        by_cases waits : s.stream_receiver = some other
        · obtain ⟨stage, streamed, going, found, silent⟩ := apart.waiting waits
          rw [waits, disconnect, put_runs_self, found]
          exact .spawned going (fun here => absurd here elsewhere) silent
        · rw [disconnect_other waits]
          exact (apart.fits other).mono fun here => absurd here elsewhere
  · exact apart

/-- A forwarder comes for the receiver of its call. -/
theorem take_apart (apart : s.Apart) (waits : s.stream_receiver = some run) : (s.step (.Take run)).Apart := by
  obtain ⟨stage, streamed, going, found, nothing⟩ := apart.waiting waits
  have begun : (s.runs run).stage ≠ .Preparing ∧ (s.runs run).forwarder = .Spawned := by
    rw [found]
    rcases going with rfl | rfl <;> exact ⟨nofun, rfl⟩
  simp only [step]
  rw [if_pos begun, waits]
  refine apart.of_run run (fun _ inside => .inl inside) ?_ ?_
  · intro other differs
    exact ⟨put_runs_other _ differs, rfl, nofun⟩
  · have nothing_yet : s.shown run = [] := nothing
    change RunFits run (none = some run) ((s.put run _).runs run) (s.shown run)
    rw [put_runs_self, found, nothing_yet]
    exact .listening going nofun rfl

theorem stream_apart (apart : s.Apart) (run : Nat) (event : StreamEvent) : (s.step (.Stream run event)).Apart := by
  simp only [step]
  split
  · next running =>
    refine apart.put ?_
    have fits := apart.fits run
    generalize s.runs run = r at fits running ⊢
    cases fits with
    | preparing away nothing => cases running
    | spawned going here nothing =>
      refine .spawned going (fun waits => ?_) nothing
      obtain ⟨rfl, rfl⟩ := here waits
      exact ⟨rfl, rfl⟩
    | listening going away all =>
      refine .listening going away ?_
      simp only [if_true, List.filterMap_append, ← List.append_assoc, all]
    | draining away all => cases running
    | ended at_end away all => rcases at_end with rfl | rfl <;> cases running
  · exact apart

/-- The first event of the call's own channel, emitted. -/
theorem emit_apart (apart : s.Apart) {event : StreamEvent} {later : List StreamEvent} {forwarder : Forwarder}
    (fits : RunFits run (s.stream_receiver = some run) { s.runs run with queue := later, forwarder }
      (s.shown run ++ (forward event).toList)) : ((s.emit run run event later).now_at run forwarder).Apart := by
  have grown (other : Nat) : ((s.emit run run event later).now_at run forwarder).shown other =
      s.shown other ++ if run = other then (forward event).toList else [] := by
    change List.map _ (List.filter _ (s.emitted ++ _)) = _
    rw [List.filter_append, List.map_append]
    congr 1
    cases forward event with
    | none => split_ifs <;> rfl
    | some shown => by_cases same : run = other <;> simp [same]
  refine apart.of_run run ?_ ?_ ?_
  · intro e inside
    rcases List.mem_append.mp inside with old | new
    · exact .inl old
    · refine .inr ?_
      cases shown : forward event with
      | none => simp [shown] at new
      | some event =>
        rw [shown] at new
        rw [List.mem_singleton.mp new]
  · intro other differs
    refine ⟨(put_runs_other _ differs).trans (put_runs_other _ differs), ?_, id⟩
    rw [grown, if_neg (Ne.symm differs), List.append_nil]
  · rw [grown, if_pos rfl]
    change RunFits run (s.stream_receiver = some run) (((s.emit run run event later).put run _).runs run) _
    have taken : (s.emit run run event later).runs run = { s.runs run with queue := later } := put_runs_self _
    rw [put_runs_self, taken]
    exact fits

theorem now_at_same {forwarder : Forwarder} (there : (s.runs run).forwarder = forwarder) : s.now_at run forwarder = s := by
  subst there
  have same : Function.update s.runs run (s.runs run) = s.runs := Function.update_eq_self run s.runs
  simp only [now_at, put, same]

/-- What is emitted next belongs behind what was shown. -/
theorem shown_next {event : StreamEvent} {later streamed : List StreamEvent} {shown : List (String × Value)}
    (all : shown ++ (event :: later).filterMap forward = streamed.filterMap forward) :
    (shown ++ (forward event).toList) ++ later.filterMap forward = streamed.filterMap forward := by
  rw [← all, List.append_assoc]
  cases found : forward event <;> simp [found]

/-- A turn of the loops of a forwarder that took the receiver of its call. -/
theorem forward_apart (apart : s.Apart) (run : Nat) : (s.step (.Forward run)).Apart := by
  simp only [step, forward_turn]
  have fits := apart.fits run
  generalize at_work : s.runs run = r at fits
  cases fits with
  | preparing away nothing => exact apart
  | spawned going here nothing => exact apart
  | @listening stage streamed queue _ going away all =>
    simp only
    by_cases stopped : stage ≠ .Running
    · rw [if_pos stopped]
      refine apart.put ?_
      rw [at_work]
      obtain rfl := going.resolve_left stopped
      exact .draining away all
    · rw [if_neg stopped, at_work]
      cases queue with
      | nil =>
        have here : stage ≠ .Returned := by rcases going with rfl | rfl <;> nofun
        simp only [if_neg here]
        exact apart
      | cons event later =>
        have found : (s.emit run run event later).runs run = { s.runs run with queue := later } := put_runs_self _
        have listens : ((s.emit run run event later).runs run).forwarder = .Listening run := by rw [found, at_work]
        change (s.emit run run event later).Apart
        rw [← now_at_same listens]
        refine emit_apart apart ?_
        rw [at_work]
        exact .listening going away (shown_next all)
  | @draining idle streamed queue _ away all =>
    simp only
    rw [at_work]
    cases queue with
    | nil =>
      simp only
      split_ifs with looks
      · refine apart.put ?_
        rw [at_work]
        exact .draining away all
      · have found : (s.disconnect (some run)).runs run = { s.runs run with queue := [], connected := false } := put_runs_self _
        have twice : (s.disconnect (some run)).now_at run .Ended =
            s.put run { s.runs run with queue := [], connected := false, forwarder := .Ended } := by
          simp only [now_at, found]
          simp only [disconnect, put, Function.update_idem]
        rw [twice]
        refine apart.put ?_
        rw [at_work]
        exact .ended (.inl rfl) away (by simpa using all)
    | cons event later =>
      refine emit_apart apart ?_
      rw [at_work]
      exact .draining away (shown_next all)
  | ended at_end away all => exact apart

theorem step_apart (apart : s.Apart) {act : StreamAct} (own : TakesOwn s act) : (s.step act).Apart := by
  cases act with
  | Subscribe run => exact subscribe_apart apart run
  | Take run => exact take_apart apart own
  | Stream run event => exact stream_apart apart run event
  | Forward run => exact forward_apart apart run
  | Stop run =>
    simp only [step]
    split_ifs with running
    · refine apart.put ?_
      have fits := apart.fits run
      generalize s.runs run = r at fits running ⊢
      cases fits with
      | preparing away nothing => cases running
      | spawned going here nothing => exact .spawned (.inr rfl) here nothing
      | listening going away all => exact .listening (.inr rfl) away all
      | draining away all => cases running
      | ended at_end away all => exact .ended (.inl rfl) away all
    · exact apart
  | Return run =>
    simp only [step]
    split_ifs with ended
    · refine apart.put ?_
      have fits := apart.fits run
      generalize s.runs run = r at fits ended ⊢
      cases fits with
      | preparing away nothing => cases ended.1
      | spawned going here nothing => cases ended.2
      | listening going away all => cases ended.2
      | draining away all => cases ended.2
      | ended at_end away all => exact .ended (.inr rfl) away all
    · exact apart

end RunStreams

/-- Where every forwarder that looks into the slot finds its own call's receiver: however the calls subscribe, stream, forward
    and finish, what is emitted on behalf of a run comes off its own stream, in the order of the stream and never twice, and
    once the call has returned nothing of the stream is missing. -/
theorem streams_apart (acts : List StreamAct) (allowed : Allowed RunStreams.step TakesOwn RunStreams.start acts) :
    let s := run RunStreams.step RunStreams.start acts
    (∀ e ∈ s.emitted, e.channel = e.run) ∧
      ∀ run, s.shown run <+: (s.runs run).streamed.filterMap forward ∧
        ((s.runs run).stage = .Returned → s.shown run = (s.runs run).streamed.filterMap forward) := by
  intro s
  have starts : RunStreams.start.Apart := ⟨nofun, fun _ => .preparing nofun rfl⟩
  have keeps (s : RunStreams) (act : StreamAct) (apart : s.Apart) (own : TakesOwn s act) : (s.step act).Apart :=
    RunStreams.step_apart apart own
  have apart : s.Apart := run_keeps keeps starts allowed
  refine ⟨apart.own, fun run => ?_⟩
  have fits := apart.fits run
  generalize s.runs run = r at fits
  cases fits with
  | preparing away nothing =>
    rw [nothing]
    exact ⟨List.nil_prefix, nofun⟩
  | spawned going here nothing =>
    rw [nothing]
    refine ⟨List.nil_prefix, fun returned => ?_⟩
    rcases going with rfl | rfl <;> cases returned
  | listening going away all =>
    refine ⟨⟨_, all⟩, fun returned => ?_⟩
    rcases going with rfl | rfl <;> cases returned
  | draining away all => exact ⟨⟨_, all⟩, nofun⟩
  | ended at_end away all =>
    rw [all]
    exact ⟨List.prefix_rfl, fun _ => rfl⟩

/-- Two calls at once, the second begun when the first has its receiver: each is given its own stream. -/
theorem two_streams_apart :
    let s := run RunStreams.step RunStreams.start (([.Subscribe 1, .Take 1, .Subscribe 2, .Stream 2 (.Delta "two"),
      .Stream 1 (.Delta "one"), .Take 2, .Forward 2, .Forward 1, .Stop 1, .Stream 2 .Done] : List StreamAct) ++
      (List.replicate 11 (.Forward 1) : List StreamAct) ++ ([.Return 1] : List StreamAct))
    (∀ e ∈ s.emitted, e.channel = e.run) ∧
      ∀ run, s.shown run <+: (s.runs run).streamed.filterMap forward ∧
        ((s.runs run).stage = .Returned → s.shown run = (s.runs run).streamed.filterMap forward) := by
  refine streams_apart _ ?_
  simp only [List.replicate, List.cons_append, List.nil_append]
  exact ⟨trivial, rfl, trivial, trivial, trivial, rfl, trivial, trivial, trivial, trivial, trivial, trivial, trivial, trivial,
    trivial, trivial, trivial, trivial, trivial, trivial, trivial, trivial, trivial⟩

/-- The second call subscribes before the first has come for its receiver: the first is given the second's stream, and its own
    is lost. -/
theorem streams_crossed :
    let s := run RunStreams.step RunStreams.start (([.Subscribe 1, .Subscribe 2, .Take 1, .Take 2, .Stream 1 (.Delta "one"),
      .Stream 2 (.Delta "two"), .Forward 1, .Stop 1] : List StreamAct) ++ (List.replicate 11 (.Forward 1) : List StreamAct) ++
      ([.Return 1] : List StreamAct))
    s.emitted.map (fun e => (e.run, e.channel)) = [(1, 2)] ∧ (s.runs 1).stage = .Returned ∧
      (s.runs 1).streamed = [.Delta "one"] ∧ (∃ e ∈ s.emitted, e.channel ≠ e.run) ∧
      (s.shown 1).map (fun shown => (shown.2.get "text").bind Value.as_str) = [some "two"] ∧ s.shown 2 = [] := by
  intro s
  have crossed : s.emitted.map (fun e => (e.run, e.channel)) = [(1, 2)] := by decide +kernel
  refine ⟨crossed, by decide +kernel, by decide +kernel, ?_, by decide +kernel, ?_⟩
  · have emitted : (1, 2) ∈ s.emitted.map fun e => (e.run, e.channel) := by rw [crossed]; exact List.mem_singleton.mpr rfl
    obtain ⟨e, inside, same⟩ := List.mem_map.mp emitted
    obtain ⟨run, channel⟩ := Prod.mk.inj same
    refine ⟨e, inside, ?_⟩
    rw [run, channel]
    nofun
  · have none_shown : (s.shown 2).length = 0 := by decide +kernel
    exact List.eq_nil_of_length_eq_zero none_shown

end Riscdom.Core
