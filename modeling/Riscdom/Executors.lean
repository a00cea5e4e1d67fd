import Riscdom.Dispatching
import Riscdom.Text

/-!
Executors in other processes: each run of a handle starts a child, sends it a task
line and waits for its answer line. What the children write beside their answers
is drained into one buffer of the handle, where each run looks for the identity
that its child announced.
-/
namespace Riscdom.Core
open Riscdom.Json Riscdom.Machine

/-- What a run fails with before its child is waited for. -/
inductive NotSent
  | Unserialisable (error : String)
  | CannotStart (error : String)
  | NoStdin
  | CannotSend (error : String)
  | NoStdout
deriving DecidableEq

/-- What comes from a child's output: its end, one line, an error, or nothing in time. -/
inductive ChildAnswer
  | Eof
  | Line (text : String)
  | Unreadable (error : String)
  | TimedOut

/-- An answer that was taken, while the child is waited for. -/
inductive ChildEnd
  | Eof
  | Parsed (outcome : TaskOutcome)
  | Unreadable (error : String)
  | TimedOut
deriving DecidableEq

inductive Stage
  | Begun
  | Running
  | Answered (taken : ChildEnd)
  | Returned (result : Except DispatchError TaskOutcome)

/-- One run: its task, the length of the buffer when it began, how far it has come,
and whether its child's event lines are still read. -/
structure ChildRun where
  task : Task
  seen : Nat
  stage : Stage
  reading : Bool

def ChildRun.in_flight (child : ChildRun) : Bool :=
  match child.stage with
  | .Returned _ => false
  | _ => true

/-- A line of the buffer, with the run whose child wrote it, which the code does not keep. -/
structure EventLine where
  writer : Nat
  text : String

structure StdioExecutorHandle where
  agent_id : String
  program : String
  timeout : String
  events : List EventLine
  runs : List ChildRun

/-- The readers of a document and of an outcome. -/
structure LineReaders where
  from_str : String → Option Value
  read_outcome : String → Except String TaskOutcome

/-- The run after an answer came: an answer that cannot be read ends it at once, and
its child's lines are read on. -/
def ChildRun.take (readers : LineReaders) (child : ChildRun) : ChildAnswer → ChildRun
  | .Eof => { child with stage := .Answered .Eof }
  | .Unreadable e => { child with stage := .Answered (.Unreadable e) }
  | .TimedOut => { child with stage := .Answered .TimedOut }
  | .Line text =>
    match readers.read_outcome (Text.trim text) with
    | .ok parsed => { child with stage := .Answered (.Parsed parsed) }
    | .error e => { child with stage := .Returned (.error (.Failed ("the executor answered with something else: " ++ e))) }

/-- The identity an outcome was returned under. -/
def ChildRun.identity (child : ChildRun) : Option String :=
  match child.stage with
  | .Returned (.ok outcome) => some outcome.agent_id
  | _ => none

namespace StdioExecutorHandle

def new (agent_id program timeout : String) : StdioExecutorHandle := ⟨agent_id, program, timeout, [], []⟩

section
variable (readers : LineReaders)

/-- The identity that a line announces, if it is an announcement. -/
def announces (text : String) : Option String :=
  (readers.from_str text).bind fun parsed =>
    if (parsed.get "event").bind Value.as_str ≠ some "worker:ready" then none
    else (parsed.get "agent_id").bind Value.as_str

/-- The first identity announced in the buffer from a position on. -/
def announced_identity (handle : StdioExecutorHandle) (since : Nat) : Option String :=
  (handle.events.drop since).findSome? fun line => announces readers line.text

/-- What the run of a child that has ended, its event lines drained, comes to. -/
def result (handle : StdioExecutorHandle) (child : ChildRun) (status : String) :
    ChildEnd → Except DispatchError TaskOutcome
  | .Eof => .error (.Failed ("the executor closed stdout without an outcome (" ++ status ++ ")"))
  | .Unreadable e => .error (.Failed ("cannot read the executor's answer (" ++ status ++ "): " ++ e))
  | .TimedOut => .error (.Failed ("the executor did not answer within " ++ handle.timeout ++ " (" ++ status ++ ")"))
  | .Parsed parsed =>
    if parsed.task_id ≠ child.task.id then
      .error (.Failed ("the executor answered task " ++ parsed.task_id ++ " but " ++ child.task.id ++
        " was sent (" ++ status ++ ")"))
    else
      match handle.announced_identity readers child.seen with
      | none => .error (.Failed ("the executor never announced its identity (no worker:ready event; " ++ status ++ ")"))
      | some executor => .ok { parsed with agent_id := executor }

def not_sent (handle : StdioExecutorHandle) : NotSent → String
  | .Unserialisable e => "the task is not serialisable: " ++ e
  | .CannotStart e => "cannot start " ++ handle.program ++ ": " ++ e
  | .NoStdin => "the child has no stdin pipe"
  | .CannotSend e => "cannot send the task: " ++ e
  | .NoStdout => "the child has no stdout pipe"

end

/-- What happens to a handle: its runs are numbered in the order they begin. -/
inductive Act
  /-- A run looks how long the buffer is. -/
  | Begin (task : Task)
  | Fail (r : Nat) (why : NotSent)
  /-- The child is started, and has its task line. -/
  | Sent (r : Nat)
  /-- The reader of a child's event lines gets one. -/
  | Line (r : Nat) (text : String)
  | Closed (r : Nat)
  | Answer (r : Nat) (answer : ChildAnswer)
  /-- The child has ended and the reader of its event lines too. -/
  | Return (r : Nat) (status : String)

variable (readers : LineReaders)

/-- One run moved on, the others left as they are. -/
def move (handle : StdioExecutorHandle) (r : Nat) (change : ChildRun → ChildRun) : StdioExecutorHandle :=
  { handle with runs := handle.runs.modify r change }

/-- An act that does not fit the stage of its run does nothing. -/
def step (handle : StdioExecutorHandle) : Act → StdioExecutorHandle
  | .Begin task => { handle with runs := handle.runs ++ [⟨task, handle.events.length, .Begun, false⟩] }
  | .Fail r why =>
    handle.move r fun child =>
      match child.stage with
      | .Begun => { child with stage := .Returned (.error (.Failed (handle.not_sent why))), reading := why = .NoStdout }
      | _ => child
  | .Sent r =>
    handle.move r fun child =>
      match child.stage with
      | .Begun => { child with stage := .Running, reading := true }
      | _ => child
  | .Line r text =>
    match handle.runs[r]? with
    | none => handle
    | some child =>
      if child.reading && Text.trim text != "" then { handle with events := handle.events ++ [⟨r, text⟩] } else handle
  | .Closed r => handle.move r fun child => { child with reading := false }
  | .Answer r answer =>
    handle.move r fun child =>
      match child.stage with
      | .Running => ChildRun.take readers child answer
      | _ => child
  | .Return r status =>
    handle.move r fun child =>
      match child.stage with
      | .Answered taken =>
        if child.reading then child else { child with stage := .Returned (handle.result readers child status taken) }
      | _ => child

/-! ### Whose identity a run returns -/

/-- The first identity that a run's own child announced. -/
def own_identity (handle : StdioExecutorHandle) (r : Nat) : Option String :=
  (handle.events.filter fun line => line.writer = r).findSome? fun line => announces readers line.text

/-- Every outcome that was returned carries the identity its own child announced. -/
def Own (handle : StdioExecutorHandle) : Prop :=
  ∀ r child outcome, handle.runs[r]? = some child → child.stage = .Returned (.ok outcome) →
    handle.own_identity readers r = some outcome.agent_id

/-- An announcement is drained when every other run in flight has that of its own child. -/
def Announced (handle : StdioExecutorHandle) : Act → Prop
  | .Line r text => announces readers text ≠ none → ∀ other child, other ≠ r → handle.runs[other]? = some child →
      child.in_flight → handle.own_identity readers other ≠ none
  | _ => True

/-- While a run is in flight, what it would find is what its own child announced. -/
structure Kept (handle : StdioExecutorHandle) : Prop where
  written : ∀ line ∈ handle.events, line.writer < handle.runs.length
  seen : ∀ (r : Nat) child, handle.runs[r]? = some child → child.seen ≤ handle.events.length
  announced : ∀ (r : Nat) child, handle.runs[r]? = some child → child.in_flight →
    handle.announced_identity readers child.seen = handle.own_identity readers r
  returned : handle.Own readers

variable {readers} {handle : StdioExecutorHandle}

/-- A run that is moved on keeps its place in the buffer, and returns no identity but its own. -/
theorem Kept.move (kept : handle.Kept readers) (r : Nat) {change : ChildRun → ChildRun}
    (place : ∀ child, (change child).seen = child.seen) (flight : ∀ child, (change child).in_flight → child.in_flight)
    (returns : ∀ child outcome, handle.runs[r]? = some child → (change child).stage = .Returned (.ok outcome) →
      child.stage = .Returned (.ok outcome) ∨ handle.own_identity readers r = some outcome.agent_id) :
    (handle.move r change).Kept readers := by
  have before {n : Nat} {child : ChildRun} (found : (handle.move r change).runs[n]? = some child) :
      ∃ old, handle.runs[n]? = some old ∧ child = if r = n then change old else old := by
    simp only [StdioExecutorHandle.move, List.getElem?_modify] at found
    obtain ⟨old, there, rfl⟩ := Option.map_eq_some_iff.mp found
    exact ⟨old, there, rfl⟩
  refine ⟨?_, ?_, ?_, ?_⟩
  · intro line inside
    simpa [StdioExecutorHandle.move] using kept.written line inside
  · intro n child found
    obtain ⟨old, there, rfl⟩ := before found
    have same : (if r = n then change old else old).seen = old.seen := by split_ifs <;> simp [place]
    rw [same]
    exact kept.seen n old there
  · intro n child found flying
    obtain ⟨old, there, rfl⟩ := before found
    have same : (if r = n then change old else old).seen = old.seen := by split_ifs <;> simp [place]
    have flew : old.in_flight := by
      by_cases here : r = n
      · exact flight old (by simpa [here] using flying)
      · simpa [here] using flying
    rw [same]
    exact kept.announced n old there flew
  · intro n child outcome found stage
    obtain ⟨old, there, rfl⟩ := before found
    by_cases here : r = n
    · subst here
      rw [if_pos rfl] at stage
      rcases returns old outcome there stage with already | now
      · exact kept.returned r old outcome there already
      · exact now
    · rw [if_neg here] at stage
      exact kept.returned n old outcome there stage

/-- A run that begins finds nothing yet, and its child has written nothing. -/
theorem Kept.begin (kept : handle.Kept readers) (task : Task) : (handle.step readers (.Begin task)).Kept readers := by
  have before {n : Nat} {child : ChildRun} (found : (handle.step readers (.Begin task)).runs[n]? = some child) :
      handle.runs[n]? = some child ∨ n = handle.runs.length ∧ child = ⟨task, handle.events.length, .Begun, false⟩ := by
    simp only [step, List.getElem?_append] at found
    by_cases old : n < handle.runs.length
    · exact .inl (by simpa [old] using found)
    · rw [if_neg old, List.getElem?_singleton] at found
      split_ifs at found with first
      exact .inr ⟨by omega, (Option.some.inj found).symm⟩
  refine ⟨?_, ?_, ?_, ?_⟩
  · intro line inside
    have old := kept.written line inside
    simp only [step, List.length_append, List.length_singleton]
    omega
  · intro n child found
    rcases before found with old | ⟨_, rfl⟩
    · exact kept.seen n child old
    · exact Nat.le_refl _
  · intro n child found flying
    rcases before found with old | ⟨rfl, rfl⟩
    · exact kept.announced n child old flying
    · have unwritten : handle.events.filter (fun line => line.writer = handle.runs.length) = [] := by
        rw [List.filter_eq_nil_iff]
        intro line inside
        have old := kept.written line inside
        simp
        omega
      simp [announced_identity, own_identity, step, unwritten]
  · intro n child outcome found stage
    rcases before found with old | ⟨_, rfl⟩
    · exact kept.returned n child outcome old stage
    · cases stage

/-- A line that is drained is the writer's own; to the other runs in flight it is new
only when it announces nothing. -/
theorem Kept.push (kept : handle.Kept readers) {r : Nat} {text : String} (there : r < handle.runs.length)
    (announced : handle.Announced readers (.Line r text)) :
    ({ handle with events := handle.events ++ [⟨r, text⟩] } : StdioExecutorHandle).Kept readers := by
  have own (n : Nat) : ({ handle with events := handle.events ++ [⟨r, text⟩] } : StdioExecutorHandle).own_identity readers n =
      (handle.own_identity readers n).or (if r = n then announces readers text else none) := by
    unfold own_identity
    rw [List.filter_append, List.findSome?_append]
    by_cases here : r = n <;> simp [here]
  have found (since : Nat) (inside : since ≤ handle.events.length) :
      ({ handle with events := handle.events ++ [⟨r, text⟩] } : StdioExecutorHandle).announced_identity readers since =
        (handle.announced_identity readers since).or (announces readers text) := by
    unfold announced_identity
    rw [List.drop_append_of_le_length inside, List.findSome?_append]
    simp
  refine ⟨?_, ?_, ?_, ?_⟩
  · intro line inside
    rcases List.mem_append.mp inside with old | new
    · exact kept.written line old
    · rw [List.mem_singleton.mp new]
      exact there
  · intro n child running
    have before := kept.seen n child running
    simp only [List.length_append, List.length_singleton]
    omega
  · intro n child running flying
    rw [own, found _ (kept.seen n child running), kept.announced n child running flying]
    by_cases here : r = n
    · rw [if_pos here]
    · rw [if_neg here]
      cases line : announces readers text with
      | none => rfl
      | some identity =>
        -- another run's announcement: this run has found its own already
        have already := announced (by simp [line]) n child (Ne.symm here) running flying
        obtain ⟨first, has⟩ := Option.ne_none_iff_exists'.mp already
        simp [has]
  · intro n child outcome running stage
    rw [own, kept.returned n child outcome running stage]
    rfl

/-- An outcome goes out under the first identity that is found. -/
theorem result_ok {child : ChildRun} {status : String} {taken : ChildEnd} {outcome : TaskOutcome}
    (ok : handle.result readers child status taken = .ok outcome) :
    handle.announced_identity readers child.seen = some outcome.agent_id := by
  cases taken with
  | Eof | Unreadable | TimedOut => cases ok
  | Parsed parsed =>
    simp only [result] at ok
    split_ifs at ok with other
    cases found : handle.announced_identity readers child.seen with
    | none => simp [found] at ok
    | some executor =>
      simp only [found, Except.ok.injEq] at ok
      rw [← ok]

/-- Every act whose announcement comes alone keeps what each run would find. -/
theorem step_keeps (kept : handle.Kept readers) (act : Act) (announced : handle.Announced readers act) :
    (handle.step readers act).Kept readers := by
  cases act with
  | Begin task => exact kept.begin task
  | Fail r why =>
    refine kept.move r (fun child => ?_) (fun child flying => ?_) (fun child outcome _ stage => ?_)
    · split <;> rfl
    · split at flying
      · cases flying
      · exact flying
    · split at stage
      · cases stage
      · exact .inl stage
  | Sent r =>
    refine kept.move r (fun child => ?_) (fun child flying => ?_) (fun child outcome _ stage => ?_)
    · split <;> rfl
    · split at flying
      · rename_i begun
        simp [ChildRun.in_flight, begun]
      · exact flying
    · split at stage
      · cases stage
      · exact .inl stage
  | Line r text =>
    simp only [step]
    cases running : handle.runs[r]? with
    | none => exact kept
    | some child =>
      obtain ⟨inside, _⟩ := List.getElem?_eq_some_iff.mp running
      simp only
      split_ifs
      · exact kept.push inside announced
      · exact kept
  | Closed r => exact kept.move r (fun _ => rfl) (fun _ flying => flying) (fun _ _ _ stage => .inl stage)
  | Answer r answer =>
    refine kept.move r (fun child => ?_) (fun child flying => ?_) (fun child outcome _ stage => ?_)
    · split
      · cases answer with
        | Line text => simp only [ChildRun.take]; split <;> rfl
        | Eof | Unreadable | TimedOut => rfl
      · rfl
    · split at flying
      · rename_i running
        simp [ChildRun.in_flight, running]
      · exact flying
    · split at stage
      · cases answer with
        | Line text =>
          simp only [ChildRun.take] at stage
          split at stage <;> cases stage
        | Eof | Unreadable | TimedOut => cases stage
      · exact .inl stage
  | Return r status =>
    refine kept.move r (fun child => ?_) (fun child flying => ?_) (fun child outcome running stage => ?_)
    · split
      · split_ifs <;> rfl
      · rfl
    · split at flying
      · rename_i answered
        simp [ChildRun.in_flight, answered]
      · exact flying
    · split at stage
      · rename_i taken answered
        split_ifs at stage
        · exact .inl stage
        · have flying : child.in_flight := by simp [ChildRun.in_flight, answered]
          refine .inr ?_
          rw [← kept.announced r child running flying]
          exact result_ok (Stage.Returned.inj stage)
      · exact .inl stage

variable (readers)

/-- Whatever runs overlap and however their children's lines and answers interleave:
as long as each announcement is drained when every other run in flight has its own,
an outcome carries the identity that the child of its own run announced. -/
theorem own_child_announced (agent_id program timeout : String) (acts : List Act)
    (announced : Allowed (step readers) (Announced readers) (new agent_id program timeout) acts) :
    (run (step readers) (new agent_id program timeout) acts).Own readers := by
  have start : (new agent_id program timeout).Kept readers :=
    ⟨by simp [new], by simp [new], by simp [new], fun r child outcome found => by simp [new] at found⟩
  have keeps (handle : StdioExecutorHandle) (act : Act) (kept : handle.Kept readers)
      (alone : handle.Announced readers act) : (handle.step readers act).Kept readers := step_keeps kept act alone
  exact (run_keeps keeps start announced).returned

/-! ### Two runs that overlap -/

def json_readers : LineReaders where
  from_str text := (parse text).toOption
  read_outcome text := (parse text).bind read_final

/-- The announcement of a worker, and its answer. -/
def ready_line (agent_id task_id : String) : String :=
  "\x7b\"version\":1,\"kind\":\"event\",\"event\":\"worker:ready\",\"agent_id\":\"" ++ agent_id ++
    "\",\"task_id\":\"" ++ task_id ++ "\",\"ts\":1750000000000,\"payload\":\x7b\"task_id\":\"" ++ task_id ++ "\"\x7d\x7d"

def final_line (agent_id task_id : String) : String :=
  "\x7b\"task_id\":\"" ++ task_id ++ "\",\"agent_id\":\"" ++ agent_id ++
    "\",\"outcome\":\x7b\"Final\":\x7b\"content\":\"done\",\"iterations\":1\x7d\x7d\x7d\n"

def worker_handle : StdioExecutorHandle := new "dev-a-worker" "worker" "3600s"

/-- A run of one child, from its start to its outcome. -/
def alone : List Act :=
  [.Begin ⟨"task-1", "dev-a-worker", "hello", none, none⟩, .Sent 0, .Line 0 (ready_line "local-41-1" "task-1"),
    .Answer 0 (.Line (final_line "local-41-1" "task-1")), .Closed 0, .Return 0 "status exit status: 0"]

/-- Two runs begin, and the first one's child announces itself before the second one's. -/
def overlapping : List Act :=
  [.Begin ⟨"task-1", "dev-a-worker", "hello", none, none⟩, .Begin ⟨"task-2", "dev-a-worker", "hello", none, none⟩,
    .Sent 0, .Sent 1, .Line 0 (ready_line "local-41-1" "task-1"), .Line 1 (ready_line "local-42-1" "task-2"),
    .Answer 1 (.Line (final_line "local-42-1" "task-2")), .Closed 1, .Return 1 "status exit status: 0"]

theorem stage_of_identity {child : ChildRun} {identity : String} (same : child.identity = some identity) :
    ∃ outcome, child.stage = .Returned (.ok outcome) ∧ outcome.agent_id = identity := by
  unfold ChildRun.identity at same
  split at same
  · rename_i outcome stage
    exact ⟨outcome, stage, Option.some.inj same⟩
  · cases same

/-- One run after the other: the outcome carries its own child's identity. -/
theorem alone_own :
    ((run (step json_readers) worker_handle alone).runs[0]?.bind ChildRun.identity) = some "local-41-1" ∧
      (run (step json_readers) worker_handle alone).Own json_readers := by
  constructor
  · decide +kernel
  · refine own_child_announced json_readers "dev-a-worker" "worker" "3600s" alone ?_
    refine ⟨trivial, trivial, fun _ other child differs found => ?_, trivial, trivial, trivial, trivial⟩
    cases other with
    | zero => exact absurd rfl differs
    | succ n => cases found

/-- The second run returns the identity of the first one's child. -/
theorem other_child_returned : ¬ ∀ (readers : LineReaders) (agent_id program timeout : String) (acts : List Act),
    (run (step readers) (new agent_id program timeout) acts).Own readers := by
  intro law
  have own := law json_readers "dev-a-worker" "worker" "3600s" overlapping
  obtain ⟨returned, announced⟩ : (run (step json_readers) worker_handle overlapping).runs[1]?.bind ChildRun.identity =
        some "local-41-1" ∧
      (run (step json_readers) worker_handle overlapping).own_identity json_readers 1 = some "local-42-1" := by decide +kernel
  obtain ⟨child, found, identity⟩ := Option.bind_eq_some_iff.mp returned
  obtain ⟨outcome, stage, same⟩ := stage_of_identity identity
  have claimed : some "local-42-1" = some "local-41-1" := by
    rw [← announced, ← same]
    exact own 1 child outcome found stage
  exact absurd claimed (by decide)

end StdioExecutorHandle
end Riscdom.Core
