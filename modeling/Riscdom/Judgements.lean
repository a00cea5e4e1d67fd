import Mathlib.Data.List.Chain
import Riscdom.Online

/-!
Judgements and recoveries. A frame answered is a few steps on the table of who
is online, each taken under its lock; the transitions that a row takes alternate,
however the steps of several frames are interleaved. A transition is handed on
after the lock is let go of, so that those of one row may be handed on in another
order than the row took them in.
-/
namespace Riscdom.Net
open Riscdom.Json Riscdom.Machine

/-! ### Steps on the table -/

/-- One step on the table, with the transition it takes a row through. -/
inductive Op
  | register (node_id : String) (claims : Registration) (now : Int64)
  | beat (node_id : String) (now : Int64)
  | mark (judgement : Judgement) (now : Int64)
  | clear (node_id : String) (method : RecoverMethod)
  | hear (node_id : String) (now : Int64)

/-- The table, and the transitions its rows took so far. -/
structure Board where
  online : OnlineTable
  taken : List Transition

namespace Board

def apply (board : Board) : Op → Board
  | .register node_id claims now => { board with online := (board.online.register node_id claims now).2 }
  | .beat node_id now => { board with online := (board.online.beat node_id now).2 }
  | .mark judgement now =>
    { online := (board.online.mark_judged judgement.peer now).2
      taken := if (board.online.mark_judged judgement.peer now).1 then board.taken ++ [.Judged judgement] else board.taken }
  | .clear node_id method =>
    { online := (board.online.clear_judged node_id).2
      taken := if (board.online.clear_judged node_id).1.isSome then board.taken ++ [.Recovered node_id method]
        else board.taken }
  | .hear node_id now => { board with online := (board.online.heard_from node_id now).2 }

end Board

namespace Roles

def board (roles : Roles) : Board := ⟨roles.online, roles.fired⟩

def judge_ops (roles : Roles) (subject : String) (now : Int64) : List Op :=
  match roles.witnesses.judge subject now (fun witness => roles.online.is_online witness now) with
  | some judgement => [.mark judgement now]
  | none => []

/-- The steps on the table that a step of the server comes to. -/
def ops (roles : Roles) : Act → List Op
  | .answer _ sender (.Register claims) now => [.register sender claims now]
  | .answer _ sender .Heartbeat now =>
    if (roles.online.rows sender).isSome then [.beat sender now, .clear sender .Heartbeat] else []
  | .answer _ sender (.UnreachableReport node_id) now =>
    { roles with witnesses := roles.witnesses.record node_id now sender false }.judge_ops node_id now
  | .answer _ _ (.ReachableReport node_id) now =>
    if (roles.online.judged_at node_id).isSome then [.clear node_id .Probe, .hear node_id now] else [.clear node_id .Probe]
  | .answer _ _ _ _ => []
  | .judge subject now => roles.judge_ops subject now

theorem judge_board (roles : Roles) (subject : String) (now : Int64) :
    (roles.judge subject now).board = run Board.apply roles.board (roles.judge_ops subject now) := by
  rw [judge, judge_ops]
  cases roles.witnesses.judge subject now (fun witness => roles.online.is_online witness now) with
  | none => rfl
  | some judgement =>
    simp only [run_cons, run_nil, Board.apply, board]
    rcases roles.online.mark_judged judgement.peer now with ⟨_ | _, online⟩
    · rfl
    · rfl

theorem step_board (roles : Roles) (act : Act) :
    (roles.step act).board = run Board.apply roles.board (roles.ops act) := by
  cases act with
  | judge subject now => exact judge_board roles subject now
  | answer desk sender action now =>
    cases action with
    | UnreachableReport node_id => exact judge_board _ node_id now
    | ReachableReport node_id =>
      simp only [step, answer_local, ops, board]
      rw [← OnlineTable.clear_judged_fst]
      rcases cleared : roles.online.clear_judged node_id with ⟨_ | moment, online⟩
      · simp [Board.apply, cleared]
      · simp [Board.apply, cleared, fire]
    | Heartbeat =>
      simp only [step, answer_local, ops, board]
      cases held : roles.online.rows sender with
      | none => simp [OnlineTable.beat, held]
      | some row =>
        have landed : (roles.online.beat sender now).1 = true := by simp [OnlineTable.beat, held]
        rcases beaten : roles.online.beat sender now with ⟨_ | _, online⟩
        · simp [beaten] at landed
        · rcases cleared : online.clear_judged sender with ⟨_ | moment, after⟩
          · simp [Board.apply, beaten, cleared]
          · simp [Board.apply, beaten, cleared, fire]
    | Register claims => rfl
    | Hello => rfl
    | Digest digest => rfl
    | KeyEvent event => rfl
    | Addresses node_id => rfl
    | Registry => rfl
    | Unrecognised body => rfl

end Roles

/-! ### Judged and recovered in turn -/

inductive Turn
  | Judged
  | Recovered
deriving DecidableEq

def Transition.turn : Transition → Turn
  | .Judged _ => .Judged
  | .Recovered _ _ => .Recovered

/-- The turns among some transitions that are one peer's. -/
def turns (peer : String) (taken : List Transition) : List Turn :=
  (taken.filter fun transition => transition.peer = peer).map Transition.turn

/-- A judgement comes first, and no two neighbours are alike. -/
structure Alternating (turns : List Turn) : Prop where
  starts : turns.head? ≠ some .Recovered
  swaps : turns.IsChain (· ≠ ·)

theorem turns_append (peer : String) (first second : List Transition) :
    turns peer (first ++ second) = turns peer first ++ turns peer second := by
  rw [turns, List.filter_append, List.map_append, turns, turns]

theorem turns_concat (peer : String) (taken : List Transition) (transition : Transition) :
    turns peer (taken ++ [transition]) =
      if transition.peer = peer then turns peer taken ++ [transition.turn] else turns peer taken := by
  by_cases own : transition.peer = peer
  · simp [turns, own]
  · simp [turns, own]

/-- Transitions of other peers are none of its turns. -/
theorem turns_elsewhere {peer : String} {owed : List (Nat × Transition)} (apart : ∀ entry ∈ owed, entry.2.peer ≠ peer) :
    turns peer (owed.map Prod.snd) = [] := by
  rw [turns, List.map_eq_nil_iff, List.filter_eq_nil_iff]
  rintro other inside same
  obtain ⟨entry, among, rfl⟩ := List.mem_map.mp inside
  exact apart entry among (of_decide_eq_true same)

theorem alternating_judged {turns : List Turn} (alternating : Alternating turns) (last : turns.getLast? ≠ some .Judged) :
    Alternating (turns ++ [.Judged]) := by
  constructor
  · cases turns with
    | nil => simp
    | cons turn rest => exact alternating.starts
  · apply alternating.swaps.append (List.isChain_singleton _)
    rintro turn inside next ⟨⟩
    intro same
    exact last (same ▸ inside)

theorem alternating_recovered {turns : List Turn} (alternating : Alternating turns) (last : turns.getLast? = some .Judged) :
    Alternating (turns ++ [.Recovered]) := by
  constructor
  · cases turns with
    | nil => cases last
    | cons turn rest => exact alternating.starts
  · apply alternating.swaps.append (List.isChain_singleton _)
    rintro turn inside next ⟨⟩
    cases last.symm.trans inside
    simp

/-- The turns of every peer alternate, and it is judged while the last of them is a judgement. -/
def Board.Paired (board : Board) : Prop :=
  ∀ peer, Alternating (turns peer board.taken) ∧
    ((board.online.judged_at peer).isSome = true ↔ (turns peer board.taken).getLast? = some .Judged)

theorem mark_paired {board : Board} (paired : board.Paired) (judgement : Judgement) (now : Int64) :
    (board.apply (.mark judgement now)).Paired := by
  intro peer
  rcases OnlineTable.mark_judged_cases board.online judgement.peer now with ⟨marked, free, judged⟩ | ⟨still, same⟩
  · simp only [Board.apply, marked, if_true, turns_concat, judged]
    obtain ⟨alternating, last⟩ := paired peer
    by_cases own : peer = judgement.peer
    · have open_turn : (turns peer board.taken).getLast? ≠ some .Judged := by
        intro judged
        rw [← last, own, free] at judged
        cases judged
      rw [if_pos own, if_pos (show (Transition.Judged judgement).peer = peer from own.symm)]
      exact ⟨alternating_judged alternating open_turn, by simp [Transition.turn]⟩
    · rw [if_neg own, if_neg (show ¬ (Transition.Judged judgement).peer = peer from fun same => own same.symm)]
      exact ⟨alternating, last⟩
  · simp only [Board.apply, still, same, Bool.false_eq_true, if_false]
    exact paired peer

theorem clear_paired {board : Board} (paired : board.Paired) (node_id : String) (method : RecoverMethod) :
    (board.apply (.clear node_id method)).Paired := by
  intro peer
  obtain ⟨alternating, last⟩ := paired peer
  simp only [Board.apply, OnlineTable.clear_judged_fst, OnlineTable.clear_judged_judged_at]
  by_cases own : peer = node_id
  · subst own
    rw [if_pos rfl]
    by_cases judged : (board.online.judged_at peer).isSome = true
    · rw [if_pos judged, turns_concat, if_pos (show (Transition.Recovered peer method).peer = peer from rfl)]
      exact ⟨alternating_recovered alternating (last.mp judged), by simp [Transition.turn]⟩
    · rw [if_neg judged]
      exact ⟨alternating, by simpa using fun ends => judged (last.mpr ends)⟩
  · rw [if_neg own]
    have elsewhere : ¬ (Transition.Recovered node_id method).peer = peer := fun same => own same.symm
    split_ifs
    · rw [turns_concat, if_neg elsewhere]
      exact ⟨alternating, last⟩
    · exact ⟨alternating, last⟩

theorem apply_paired {board : Board} (paired : board.Paired) (op : Op) : (board.apply op).Paired := by
  cases op with
  | mark judgement now => exact mark_paired paired judgement now
  | clear node_id method => exact clear_paired paired node_id method
  | register node_id claims now =>
    intro peer
    simpa only [Board.apply, OnlineTable.register_judged_at] using paired peer
  | beat node_id now =>
    intro peer
    simpa only [Board.apply, OnlineTable.beat_judged_at] using paired peer
  | hear node_id now =>
    intro peer
    simpa only [Board.apply, OnlineTable.heard_from_judged_at] using paired peer

theorem start_paired : Roles.start.board.Paired := by
  intro peer
  exact ⟨⟨by simp [Roles.board, Roles.start, turns], .nil⟩,
    by simp [Roles.board, Roles.start, turns, OnlineTable.judged_at, OnlineTable.new]⟩

/-! ### Threads -/

/-- What a thread has yet to do of the step it is at. -/
inductive Stage
  | Idle
  | Judging (subject : String) (now : Int64)
  | Marking (judgement : Judgement) (now : Int64)
  | Beaten (sender : String)
  | Clearing (node_id : String) (now : Int64)
  | Cleared (node_id : String) (now : Int64)
  | Firing (transition : Transition)

/-- The roles, how far each thread is that answers a frame or judges, and the transitions that rows took and that are yet to
    be handed on, each with its thread, in the order in which the rows took them. -/
structure Threads where
  roles : Roles
  stages : Nat → Stage
  owed : List (Nat × Transition)

namespace Threads

def start : Threads := ⟨.start, fun _ => .Idle, []⟩

/-- A thread takes up a step of the server, or goes on with the one it is at. -/
inductive Act
  | take_up (thread : Nat) (act : Roles.Act)
  | go_on (thread : Nat) (seen : String → Bool)

variable (s : Threads)

def reach (thread : Nat) (stage : Stage) : Threads := { s with stages := Function.update s.stages thread stage }

/-- A row took a transition, which its thread has to hand on. -/
def owe (thread : Nat) (transition : Transition) (online : OnlineTable) (stage : Stage) : Threads :=
  { roles := { s.roles with online }, stages := s.stages, owed := s.owed ++ [(thread, transition)] : Threads }.reach thread stage

/-- A thread takes up a step, up to the first lock that it lets go of. -/
def take_up (thread : Nat) : Roles.Act → Threads
  | .judge subject now => s.reach thread (.Judging subject now)
  | .answer _ sender .Heartbeat now =>
    match s.roles.online.beat sender now with
    | (true, online) => { s with roles := { s.roles with online } }.reach thread (.Beaten sender)
    | (false, online) => { s with roles := { s.roles with online } }
  | .answer _ sender (.UnreachableReport node_id) now =>
    { s with roles := { s.roles with witnesses := s.roles.witnesses.record node_id now sender false } }.reach thread
      (.Judging node_id now)
  | .answer _ sender (.ReachableReport node_id) now =>
    { s with roles := { s.roles with witnesses := s.roles.witnesses.record node_id now sender true } }.reach thread
      (.Clearing node_id now)
  | .answer desk sender action now => { s with roles := (s.roles.answer_local desk sender action now).2 }

/-- A thread goes on, up to the next lock that it lets go of. The rows of the witnesses are read one by one, so each may be
    seen as it is at a moment of its own. -/
def go_on (thread : Nat) (seen : String → Bool) : Threads :=
  match s.stages thread with
  | .Idle => s
  | .Judging subject now =>
    match s.roles.witnesses.judge subject now seen with
    | some judgement => s.reach thread (.Marking judgement now)
    | none => s.reach thread .Idle
  | .Marking judgement now =>
    match s.roles.online.mark_judged judgement.peer now with
    | (true, online) => s.owe thread (.Judged judgement) online (.Firing (.Judged judgement))
    | (false, online) => { s with roles := { s.roles with online } }.reach thread .Idle
  | .Beaten sender =>
    match s.roles.online.clear_judged sender with
    | (some _, online) => s.owe thread (.Recovered sender .Heartbeat) online (.Firing (.Recovered sender .Heartbeat))
    | (none, online) => { s with roles := { s.roles with online } }.reach thread .Idle
  | .Clearing node_id now =>
    match s.roles.online.clear_judged node_id with
    | (some _, online) => s.owe thread (.Recovered node_id .Probe) online (.Cleared node_id now)
    | (none, online) => { s with roles := { s.roles with online } }.reach thread .Idle
  | .Cleared node_id now =>
    { s with roles := { s.roles with online := (s.roles.online.heard_from node_id now).2 } }.reach thread
      (.Firing (.Recovered node_id .Probe))
  | .Firing transition =>
    { s with roles := s.roles.fire transition, owed := s.owed.erase (thread, transition) }.reach thread .Idle

def step : Act → Threads
  | .take_up thread act =>
    match s.stages thread with
    | .Idle => s.take_up thread act
    | _ => s
  | .go_on thread seen => s.go_on thread seen

/-- A thread that hands on a transition of a row hands on the oldest of that row's that are owed. -/
def InOrder : Act → Prop
  | .take_up _ _ => True
  | .go_on thread _ =>
    match s.stages thread with
    | .Firing transition => s.owed.find? (fun entry => entry.2.peer = transition.peer) = some (thread, transition)
    | _ => True

/-- The table, with the transitions handed on and those owed. -/
def board : Board := ⟨s.roles.online, s.roles.fired ++ s.owed.map Prod.snd⟩

variable {s} {thread : Nat}

section
variable (stage : Stage)
@[simp] theorem reach_roles : (s.reach thread stage).roles = s.roles := rfl
@[simp] theorem reach_owed : (s.reach thread stage).owed = s.owed := rfl
@[simp] theorem reach_stages : (s.reach thread stage).stages thread = stage := Function.update_self ..
@[simp] theorem reach_board : (s.reach thread stage).board = s.board := rfl
@[simp] theorem reach_reach (next : Stage) : (s.reach thread stage).reach thread next = s.reach thread next := by
  simp [reach]
end

theorem owe_board (transition : Transition) (online : OnlineTable) (stage : Stage) :
    (s.owe thread transition online stage).board = ⟨online, s.board.taken ++ [transition]⟩ := by
  simp [owe, board, reach]

/-! ### A step alone -/

section Alone
variable (idle : s.stages thread = .Idle) (settled : ∀ entry ∈ s.owed, entry.1 ≠ thread)

include idle in
theorem idle_again : Function.update s.stages thread .Idle = s.stages := by rw [← idle, Function.update_eq_self]

include settled in
theorem settled_again (transition : Transition) : (s.owed ++ [(thread, transition)]).erase (thread, transition) = s.owed := by
  rw [List.erase_append_right _ fun inside => settled _ inside rfl]
  simp

include idle settled

/-- A judgement from the reading of the threshold on, for roles that the thread has written before. -/
theorem judging_alone (roles : Roles) (subject : String) (now : Int64) :
    run step ({ s with roles }.reach thread (.Judging subject now))
        (List.replicate 3 (.go_on thread fun witness => roles.online.is_online witness now)) =
      { s with roles := roles.judge subject now } := by
  have back := idle_again idle
  have erased := settled_again settled
  simp only [List.replicate, run_cons, run_nil, step]
  rw [Roles.judge]
  cases judged : roles.witnesses.judge subject now (fun witness => roles.online.is_online witness now) with
  | none => simp [go_on, reach, judged, back, idle]
  | some judgement =>
    rcases marked : roles.online.mark_judged judgement.peer now with ⟨_ | _, online⟩
    · simp [go_on, reach, judged, marked, back, idle]
    · simp [go_on, reach, owe, judged, marked, back, erased, Roles.fire]

/-- A step whose locks are taken with no other thread's between is the whole step. -/
theorem step_alone (act : Roles.Act) :
    run step s (.take_up thread act :: List.replicate 3 (.go_on thread fun witness => s.roles.online.is_online witness act.now)) =
      { s with roles := s.roles.step act } := by
  have back := idle_again idle
  have erased := settled_again settled
  have through (roles : Roles) (seen : String → Bool) : run step { s with roles } (List.replicate 3 (.go_on thread seen)) =
      { s with roles } := by
    simp [List.replicate, step, go_on, idle]
  rw [run_cons, step, idle]
  simp only
  cases act with
  | judge subject now => exact judging_alone idle settled s.roles subject now
  | answer desk sender action now =>
    cases action with
    | UnreachableReport node_id => exact judging_alone idle settled _ node_id now
    | ReachableReport node_id =>
      simp only [take_up, Roles.step, Roles.answer_local, List.replicate, run_cons, run_nil, step]
      rcases cleared : s.roles.online.clear_judged node_id with ⟨_ | moment, online⟩
      · simp [go_on, reach, cleared, back, idle]
      · simp [go_on, reach, owe, cleared, back, erased, Roles.fire]
    | Heartbeat =>
      simp only [take_up, Roles.step, Roles.answer_local]
      rcases s.roles.online.beat sender now with ⟨_ | _, online⟩
      · exact through _ _
      · simp only [List.replicate, run_cons, run_nil, step]
        rcases cleared : online.clear_judged sender with ⟨_ | moment, after⟩
        · simp [go_on, reach, cleared, back, idle]
        · simp [go_on, reach, owe, cleared, back, erased, idle, Roles.fire]
    | _ => exact through _ _

end Alone

/-! ### In the order of the rows -/

/-- Up to the first lock a thread takes no row through a transition. -/
theorem take_up_paired (paired : s.board.Paired) (act : Roles.Act) : (s.take_up thread act).board.Paired := by
  cases act with
  | judge subject now => exact paired
  | answer desk sender action now =>
    cases action with
    | Heartbeat =>
      have beaten := apply_paired paired (.beat sender now)
      rw [take_up]
      simp only [Board.apply, board] at beaten
      generalize s.roles.online.beat sender now = answer at beaten ⊢
      obtain ⟨_ | _, online⟩ := answer
      · exact beaten
      · exact beaten
    | Register claims => exact apply_paired paired (.register sender claims now)
    | _ => exact paired

/-- What is handed on in the order of the rows leaves the turns of every peer. -/
theorem fire_turns {transition : Transition}
    (oldest : s.owed.find? (fun entry => entry.2.peer = transition.peer) = some (thread, transition)) (peer : String) :
    turns peer ((s.roles.fired ++ [transition]) ++ (s.owed.erase (thread, transition)).map Prod.snd) =
      turns peer (s.roles.fired ++ s.owed.map Prod.snd) := by
  obtain ⟨-, before, after, split, others⟩ := List.find?_eq_some_iff_append.mp oldest
  have apart (entry : Nat × Transition) (inside : entry ∈ before) : entry.2.peer ≠ transition.peer := by
    simpa using others entry inside
  have absent : (thread, transition) ∉ before := fun inside => apart _ inside rfl
  rw [split, List.erase_append_right _ absent, List.erase_cons_head, List.map_append, List.map_append, List.map_cons]
  have cons (rest : List Transition) : turns peer (transition :: rest) = turns peer [transition] ++ turns peer rest :=
    turns_append peer [transition] rest
  simp only [turns_append]
  rw [cons (after.map Prod.snd)]
  by_cases own : transition.peer = peer
  · have none_before : turns peer (before.map Prod.snd) = [] :=
      turns_elsewhere fun entry among same => apart entry among (same.trans own.symm)
    rw [none_before, List.nil_append, List.nil_append, List.append_assoc]
  · have elsewhere : turns peer [transition] = [] := by simp [turns, own]
    rw [elsewhere, List.append_nil, List.nil_append]

/-- A mark is cleared, and its transition owed if there was one. -/
theorem clear_stage_paired (paired : s.board.Paired) (node_id : String) (method : RecoverMethod) (next : Stage) :
    (match s.roles.online.clear_judged node_id with
      | (some _, online) => s.owe thread (.Recovered node_id method) online next
      | (none, online) => { s with roles := { s.roles with online } }.reach thread .Idle).board.Paired := by
  have cleared := apply_paired paired (.clear node_id method)
  simp only [Board.apply] at cleared
  rw [show s.board.online = s.roles.online from rfl] at cleared
  generalize s.roles.online.clear_judged node_id = answer at cleared ⊢
  obtain ⟨_ | moment, online⟩ := answer
  · exact cleared
  · simp only [owe_board]
    exact cleared

theorem go_on_paired (paired : s.board.Paired) (seen : String → Bool) (ordered : s.InOrder (.go_on thread seen)) :
    (s.go_on thread seen).board.Paired := by
  rw [InOrder] at ordered
  rw [go_on]
  cases stage : s.stages thread with
  | Idle => exact paired
  | Judging subject now =>
    simp only
    cases s.roles.witnesses.judge subject now seen with
    | none => exact paired
    | some judgement => exact paired
  | Marking judgement now =>
    have marked := apply_paired paired (.mark judgement now)
    simp only [Board.apply] at marked
    rw [show s.board.online = s.roles.online from rfl] at marked
    simp only
    generalize s.roles.online.mark_judged judgement.peer now = answer at marked ⊢
    obtain ⟨_ | _, online⟩ := answer
    · exact marked
    · simp only [owe_board]
      exact marked
  | Beaten sender => exact clear_stage_paired paired sender .Heartbeat _
  | Clearing node_id now => exact clear_stage_paired paired node_id .Probe _
  | Cleared node_id now => exact apply_paired paired (.hear node_id now)
  | Firing transition =>
    rw [stage] at ordered
    intro peer
    have same := fire_turns ordered peer
    obtain ⟨alternating, judged⟩ := paired peer
    simp only [board] at alternating judged
    rw [← same] at alternating judged
    exact ⟨alternating, judged⟩

theorem step_paired (s : Threads) (act : Act) (paired : s.board.Paired) (ordered : s.InOrder act) :
    (s.step act).board.Paired := by
  cases act with
  | go_on thread seen => exact go_on_paired paired seen ordered
  | take_up thread act =>
    rw [step]
    cases s.stages thread with
    | Idle => exact take_up_paired paired act
    | _ => exact paired

end Threads

theorem Alternating.of_append {first second : List Turn} (alternating : Alternating (first ++ second)) : Alternating first where
  starts := by
    cases first with
    | nil => simp
    | cons turn rest => exact alternating.starts
  swaps := alternating.swaps.left_of_append

/-- However the threads run, as long as the transitions of each row are handed on in the order in which the row took them:
    those handed on for a peer are judgement and recovery in turn, and where none of it is owed the peer is judged exactly
    while the last of them is a judgement. -/
theorem transitions_alternate (acts : List Threads.Act) (ordered : Allowed Threads.step Threads.InOrder .start acts)
    (peer : String) :
    Alternating (turns peer (run Threads.step .start acts).roles.fired) ∧
      ((∀ entry ∈ (run Threads.step .start acts).owed, entry.2.peer ≠ peer) →
        (((run Threads.step .start acts).roles.online.judged_at peer).isSome = true ↔
          (turns peer (run Threads.step .start acts).roles.fired).getLast? = some .Judged)) := by
  have paired : (run Threads.step .start acts).board.Paired := run_keeps Threads.step_paired start_paired ordered
  generalize run Threads.step .start acts = s at paired
  obtain ⟨alternating, judged⟩ := paired peer
  rw [Threads.board, turns_append] at alternating judged
  refine ⟨alternating.of_append, fun settled => ?_⟩
  rw [turns_elsewhere settled, List.append_nil] at judged
  exact judged

/-- A server with no sessions, whose answers go out. -/
def quiet_desk : Desk := ⟨fun _ => none, ⟨1, []⟩, 1, json [], fun _ _ => .ok ()⟩

def registering (sender : String) (now : Int64) : Roles.Act :=
  .answer quiet_desk sender (.Register ⟨[], [], ["home"]⟩) now

/-- Two nodes register; the thread of the one has its report that the other is gone marked. -/
def marked_gone : List Threads.Act :=
  [.take_up 1 (registering "dev-a" 1700000000000), .take_up 2 (registering "dev-b" 1700000000000),
    .take_up 1 (.answer quiet_desk "dev-a" (.UnreachableReport "dev-b") 1700000001000),
    .go_on 1 fun _ => true, .go_on 1 fun _ => true]

/-- The thread of the other takes its beat, and has the mark cleared. -/
def cleared_again : List Threads.Act :=
  [.take_up 2 (.answer quiet_desk "dev-b" .Heartbeat 1700000002000), .go_on 2 fun _ => true]

def hands_on (thread : Nat) : Threads.Act := .go_on thread fun _ => true

theorem judged_then_recovered :
    Alternating (turns "dev-b"
      (run Threads.step .start (marked_gone ++ [hands_on 1] ++ cleared_again ++ [hands_on 2])).roles.fired) :=
  (transitions_alternate (marked_gone ++ [hands_on 1] ++ cleared_again ++ [hands_on 2])
    ⟨trivial, trivial, trivial, trivial, trivial, rfl, trivial, trivial, rfl, trivial⟩ "dev-b").1

/-- The recovery is handed on before the judgement it ends. -/
theorem recovered_before_judged : ¬ ∀ (acts : List Threads.Act) (peer : String),
    Alternating (turns peer (run Threads.step .start acts).roles.fired) ∧
      ((∀ entry ∈ (run Threads.step .start acts).owed, entry.2.peer ≠ peer) →
        (((run Threads.step .start acts).roles.online.judged_at peer).isSome = true ↔
          (turns peer (run Threads.step .start acts).roles.fired).getLast? = some .Judged)) := by
  intro law
  have starts := (law (marked_gone ++ cleared_again ++ [hands_on 2, hands_on 1]) "dev-b").1.starts
  exact starts (by decide)

/-! ### Judged and heard -/

/-- The peer that a step of the server hears from. -/
def Roles.Act.hears : Roles.Act → Option String
  | .answer _ sender (.Register _) _ => some sender
  | .answer _ sender .Heartbeat _ => some sender
  | .answer _ _ (.ReachableReport node_id) _ => some node_id
  | _ => none

/-- The roles, and when each peer was heard from. -/
structure Watched where
  roles : Roles
  heard : String → List Int64

namespace Watched

def start : Watched := ⟨.start, fun _ => []⟩

def step (watched : Watched) (act : Roles.Act) : Watched where
  roles := watched.roles.step act
  heard := match act.hears with
    | some peer => Function.update watched.heard peer (act.now :: watched.heard peer)
    | none => watched.heard

/-- No peer that is judged was heard from later than it was judged. -/
def Unheard (watched : Watched) : Prop :=
  ∀ peer moment, watched.roles.online.judged_at peer = some moment → ∀ time ∈ watched.heard peer, time ≤ moment

/-- A peer registers that was judged at an earlier time. -/
def Reregisters (watched : Watched) : Roles.Act → Prop
  | .answer _ sender (.Register _) now => ∃ moment, watched.roles.online.judged_at sender = some moment ∧ moment < now
  | _ => False

variable {watched : Watched}

theorem judge_judged_at (roles : Roles) (subject peer : String) (now : Int64) :
    (roles.judge subject now).online.judged_at peer = roles.online.judged_at peer ∨
      (roles.judge subject now).online.judged_at peer = some now := by
  have table : (roles.judge subject now).online = (run Board.apply roles.board (roles.judge_ops subject now)).online :=
    congrArg Board.online (Roles.judge_board roles subject now)
  rw [table, Roles.judge_ops]
  split
  · next judgement _ =>
    simp only [run_cons, run_nil, Board.apply, Roles.board]
    rcases OnlineTable.mark_judged_cases roles.online judgement.peer now with ⟨-, -, judged⟩ | ⟨-, same⟩
    · rw [judged]
      split_ifs
      · exact .inr rfl
      · exact .inl rfl
    · exact .inl (by rw [same])
  · exact .inl rfl

/-- A judgement is of now, or stood before; and a peer heard from by a beat or a report of life has none. -/
theorem step_judged_at (roles : Roles) (act : Roles.Act) (peer : String) {moment : Int64}
    (judged : (roles.step act).online.judged_at peer = some moment) :
    (moment = act.now ∧ act.hears = none) ∨ (roles.online.judged_at peer = some moment ∧
      (act.hears = some peer → ∃ desk claims, act = .answer desk peer (.Register claims) act.now)) := by
  have table : (roles.step act).online = (run Board.apply roles.board (roles.ops act)).online :=
    congrArg Board.online (Roles.step_board roles act)
  cases act with
  | judge subject now =>
    rcases judge_judged_at roles subject peer now with stood | fresh
    · exact .inr ⟨stood.symm.trans judged, by rintro ⟨⟩⟩
    · exact .inl ⟨by cases fresh.symm.trans judged; rfl, rfl⟩
  | answer desk sender action now =>
    cases action with
    | UnreachableReport node_id =>
      rcases judge_judged_at { roles with witnesses := roles.witnesses.record node_id now sender false } node_id peer now with
        stood | fresh
      · exact .inr ⟨stood.symm.trans judged, by rintro ⟨⟩⟩
      · exact .inl ⟨by cases fresh.symm.trans judged; rfl, rfl⟩
    | ReachableReport node_id =>
      rw [table] at judged
      have cleared : (if peer = node_id then none else roles.online.judged_at peer) = some moment := by
        simp only [Roles.ops] at judged
        split_ifs at judged
        all_goals simpa only [run_cons, run_nil, Board.apply, OnlineTable.heard_from_judged_at,
          OnlineTable.clear_judged_judged_at, Roles.board] using judged
      split_ifs at cleared with own
      refine .inr ⟨cleared, ?_⟩
      rintro ⟨⟩
      exact absurd rfl own
    | Heartbeat =>
      rw [table] at judged
      simp only [Roles.ops] at judged
      split_ifs at judged with held
      · simp only [run_cons, run_nil, Board.apply, OnlineTable.clear_judged_judged_at, OnlineTable.beat_judged_at,
          Roles.board] at judged
        split_ifs at judged with own
        refine .inr ⟨judged, ?_⟩
        rintro ⟨⟩
        exact absurd rfl own
      · refine .inr ⟨judged, ?_⟩
        rintro ⟨⟩
        have absent : roles.online.rows peer = none := by simpa using held
        have judged_here : roles.online.judged_at peer = some moment := judged
        rw [OnlineTable.judged_at, absent] at judged_here
        cases judged_here
    | Register claims =>
      rw [table] at judged
      simp only [Roles.ops, run_cons, run_nil, Board.apply, OnlineTable.register_judged_at] at judged
      refine .inr ⟨judged, ?_⟩
      rintro ⟨⟩
      exact ⟨desk, claims, rfl⟩
    | Hello => exact .inr ⟨judged, by rintro ⟨⟩⟩
    | Digest digest => exact .inr ⟨judged, by rintro ⟨⟩⟩
    | KeyEvent event => exact .inr ⟨judged, by rintro ⟨⟩⟩
    | Addresses node_id => exact .inr ⟨judged, by rintro ⟨⟩⟩
    | Registry => exact .inr ⟨judged, by rintro ⟨⟩⟩
    | Unrecognised body => exact .inr ⟨judged, by rintro ⟨⟩⟩

theorem mem_step_heard {act : Roles.Act} {peer : String} {time : Int64} :
    time ∈ (watched.step act).heard peer ↔ (act.hears = some peer ∧ time = act.now) ∨ time ∈ watched.heard peer := by
  simp only [step]
  cases heard : act.hears with
  | none => simp
  | some other =>
    by_cases own : other = peer
    · subst own
      simp
    · simp [own, Function.update_of_ne (Ne.symm own)]

/-- One step leaves no judged peer heard from later, unless a judged peer registers. -/
theorem unheard_step_iff {act : Roles.Act} (unheard : watched.Unheard)
    (past : ∀ peer, ∀ time ∈ watched.heard peer, time ≤ act.now) :
    (watched.step act).Unheard ↔ ¬ watched.Reregisters act := by
  constructor
  · rintro after again
    cases act with
    | judge subject now => exact again
    | answer desk sender action now =>
      cases action with
      | Register claims =>
        obtain ⟨moment, judged, before⟩ := again
        have still : (watched.step (.answer desk sender (.Register claims) now)).roles.online.judged_at sender = some moment := by
          rw [← judged]
          exact OnlineTable.register_judged_at claims now sender
        have heard : now ∈ (watched.step (.answer desk sender (.Register claims) now)).heard sender :=
          mem_step_heard.mpr (.inl ⟨rfl, rfl⟩)
        exact Int64.not_le.mpr before (after sender moment still now heard)
      | _ => exact again
  · intro other peer moment judged time inside
    rcases step_judged_at watched.roles act peer judged with ⟨rfl, nobody⟩ | ⟨stood, registers⟩
    · rcases mem_step_heard.mp inside with ⟨heard, -⟩ | before
      · rw [nobody] at heard
        cases heard
      · exact past peer time before
    · rcases mem_step_heard.mp inside with ⟨heard, rfl⟩ | before
      · obtain ⟨desk, claims, registered⟩ := registers heard
        by_contra later
        rw [registered] at other
        exact other ⟨moment, stood, Int64.not_le.mp later⟩
      · exact unheard peer moment stood time before

theorem step_past {act : Roles.Act} {next : Int64} (later : act.now ≤ next)
    (past : ∀ peer, ∀ time ∈ watched.heard peer, time ≤ act.now) (peer : String) :
    ∀ time ∈ (watched.step act).heard peer, time ≤ next := by
  intro time inside
  rcases mem_step_heard.mp inside with ⟨-, rfl⟩ | before
  · exact later
  · exact Int64.le_trans (past peer time before) later

/-- Along a run whose clock does not fall, no judged peer was heard from later, exactly if no peer registers while it
    is judged at an earlier time. -/
theorem unheard_run_iff (acts : List Roles.Act) (clock : (acts.map Roles.Act.now).Pairwise (· ≤ ·)) :
    Allowed step (fun watched act => (watched.step act).Unheard) start acts ↔
      Allowed step (fun watched act => ¬ watched.Reregisters act) start acts := by
  have along (watched : Watched) (unheard : watched.Unheard)
      (past : ∀ act ∈ acts, ∀ peer, ∀ time ∈ watched.heard peer, time ≤ act.now) :
      Allowed step (fun watched act => (watched.step act).Unheard) watched acts ↔
        Allowed step (fun watched act => ¬ watched.Reregisters act) watched acts := by
    induction acts generalizing watched with
    | nil => exact Iff.rfl
    | cons act acts ih =>
      rw [List.map_cons, List.pairwise_cons] at clock
      have here := past act List.mem_cons_self
      have later (unheard : (watched.step act).Unheard) := ih clock.2 (watched.step act) unheard fun next inside =>
        step_past (clock.1 next.now (List.mem_map_of_mem inside)) here
      rw [allowed_cons, allowed_cons]
      constructor
      · rintro ⟨now, rest⟩
        exact ⟨(unheard_step_iff unheard here).mp now, (later now).mp rest⟩
      · rintro ⟨now, rest⟩
        have unheard := (unheard_step_iff unheard here).mpr now
        exact ⟨unheard, (later unheard).mpr rest⟩
  apply along start
  · intro peer moment judged time inside
    cases inside
  · intro act _ peer time inside
    cases inside

/-- Two nodes register, and one tells that the other is gone. -/
def told_gone : List Roles.Act :=
  [registering "dev-a" 1700000000000, registering "dev-b" 1700000000000,
    .answer quiet_desk "dev-a" (.UnreachableReport "dev-b") 1700000001000]

theorem beat_clears_judgement : Allowed step (fun watched act => (watched.step act).Unheard) start
    (told_gone ++ [.answer quiet_desk "dev-b" .Heartbeat 1700000002000]) := by
  apply (unheard_run_iff _ (by decide)).mpr
  refine ⟨?_, ?_, nofun, nofun, trivial⟩
  · rintro ⟨moment, judged, -⟩
    cases judged
  · rintro ⟨moment, judged, -⟩
    cases judged

/-- A node that was judged gone registers anew, and stays judged. -/
theorem registered_still_judged : ¬ ∀ acts : List Roles.Act, (acts.map Roles.Act.now).Pairwise (· ≤ ·) →
    Allowed step (fun watched act => (watched.step act).Unheard) start acts := by
  intro law
  obtain ⟨-, -, -, unheard, -⟩ := law (told_gone ++ [registering "dev-b" 1700000002000]) (by decide)
  exact absurd (unheard "dev-b" 1700000001000 (by decide) 1700000002000 (by decide)) (by decide)

end Watched
end Riscdom.Net
