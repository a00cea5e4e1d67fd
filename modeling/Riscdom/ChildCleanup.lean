import Riscdom.Executors
import Riscdom.Fallible

/-!
What one run of an executor leaves behind. Between the spawn of the child and the
wait for it the run can return early, and then neither is the child waited for
nor the thread joined that drains its events.
-/
namespace Riscdom.Core
open Fallible Fallible.Act

/-- How the child behaves in one run, and the system with it. -/
structure Behaviour where
  to_string : Except String String
  spawn : Except String Unit
  has_stdin : Bool
  write_line : Except String Unit
  write_newline : Except String Unit
  flush : Except String Unit
  has_stderr : Bool
  has_stdout : Bool
  /-- The lines of its events, until it has closed them. -/
  events : List String
  answer : ChildAnswer
  wait : Except String String

inductive StderrReader
  | NotStarted
  | Running
  | Joined
deriving DecidableEq

/-- The child and the thread of a run. -/
structure ChildState where
  spawned : Bool
  killed : Bool
  waited : Bool
  stderr_reader : StderrReader
  events : List String
deriving DecidableEq

abbrev ChildAct (T : Type) : Type := Act ChildState DispatchError T

def no_child : ChildState := ⟨false, false, false, .NotStarted, []⟩

/-- The task's line and its end, each only where what came before it was written. -/
def Behaviour.sent (child : Behaviour) : Except String Unit := do
  child.write_line
  child.write_newline
  child.flush

def drain_stderr (child : Behaviour) : ChildAct Unit :=
  modify fun s => if child.has_stderr then { s with stderr_reader := .Running } else s

def kill : ChildAct Unit := modify fun s => { s with killed := true }

def wait_for (child : Behaviour) : ChildAct String := do
  modify fun s => { s with waited := true }
  pure (match child.wait with
    | .ok status => "status " ++ status
    | .error e => "cannot wait for the child: " ++ e)

/-- The reader has drained every event when it is joined. -/
def join (child : Behaviour) : ChildAct Unit :=
  modify fun s =>
    match s.stderr_reader with
    | .Running => { s with stderr_reader := .Joined, events := child.events }
    | _ => s

namespace StdioExecutorHandle
variable (readers : LineReaders) (handle : StdioExecutorHandle)

/-- What was drained is in the handle's buffer, and the result looked for there. -/
def conclude (task : Task) (status : String) (taken : ChildEnd) : ChildAct TaskOutcome := do
  let events ← get (·.events)
  let drained := { handle with
    events := handle.events ++
      (events.filter fun line => Text.trim line ≠ "").map fun line => (⟨handle.runs.length, line⟩ : EventLine) }
  ofExcept (drained.result readers ⟨task, handle.events.length, .Answered taken, false⟩ status taken)

/-- What is done with the child's answer. -/
def answered (task : Task) (child : Behaviour) : ChildAct TaskOutcome :=
  match child.answer with
  | .Eof => do
    let status ← wait_for child
    join child
    conclude readers handle task status .Eof
  | .Line text => do
    let parsed ← ofExcept ((readers.read_outcome (Text.trim text)).mapError fun e =>
      .Failed ("the executor answered with something else: " ++ e))
    let status ← wait_for child
    join child
    conclude readers handle task status (.Parsed parsed)
  | .Unreadable e => do
    kill
    let status ← wait_for child
    join child
    conclude readers handle task status (.Unreadable e)
  | .TimedOut => do
    kill
    let status ← wait_for child
    join child
    conclude readers handle task status .TimedOut

def run (task : Task) (child : Behaviour) : ChildAct TaskOutcome := do
  let failed (why : NotSent) : DispatchError := .Failed (handle.not_sent why)
  let _ ← ofExcept (child.to_string.mapError fun e => failed (.Unserialisable e))
  ofExcept (child.spawn.mapError fun e => failed (.CannotStart e))
  modify fun s => { s with spawned := true }
  if ¬ child.has_stdin then fail (failed .NoStdin)
  else do
    ofExcept (child.sent.mapError fun e => failed (.CannotSend e))
    drain_stderr child
    if ¬ child.has_stdout then fail (failed .NoStdout)
    else answered readers handle task child

variable {readers handle} {task : Task} {child : Behaviour} {s : ChildState}

/-- A child that was spawned has been waited for, and no thread reads its events. -/
def CleanedUp (s : ChildState) : Prop := s.spawned = true → s.waited = true ∧ s.stderr_reader ≠ .Running

/-- The child is spawned, and then the task cannot be sent to it, or its answer is something else. -/
def LeavesEarly (readers : LineReaders) (child : Behaviour) : Prop :=
  child.to_string.isOk ∧ child.spawn.isOk ∧
    (child.has_stdin = false ∨ child.sent.isOk = false ∨ child.has_stdout = false ∨
      ∃ text, child.answer = .Line text ∧ (readers.read_outcome (Text.trim text)).isOk = false)

theorem conclude_state (status : String) (taken : ChildEnd) : (conclude readers handle task status taken s).2 = s := rfl

/-- The clean-up at the end of every other way through the run. -/
theorem reaped_cleans (taken : ChildEnd) :
    CleanedUp ((do
      let status ← wait_for child
      join child
      conclude readers handle task status taken : ChildAct TaskOutcome) s).2 := by
  rw [bind_of_ok (show wait_for child s = (.ok _, { s with waited := true }) from rfl),
    bind_of_ok (show join child { s with waited := true } = (.ok ⟨⟩, _) from rfl), conclude_state]
  intro _
  cases s.stderr_reader <;> simp

/-- A child that is running has not been waited for. -/
theorem unwaited_left (spawned : s.spawned = true) (unwaited : s.waited = false) : ¬ CleanedUp s := by
  intro cleaned
  have waited := (cleaned spawned).1
  rw [unwaited] at waited
  cases waited

theorem answered_cleans_iff (spawned : s.spawned = true) (unwaited : s.waited = false) :
    CleanedUp (answered readers handle task child s).2 ↔
      ¬ ∃ text, child.answer = .Line text ∧ (readers.read_outcome (Text.trim text)).isOk = false := by
  unfold answered
  cases answer : child.answer with
  | Eof => exact ⟨fun _ ⟨_, same, _⟩ => (nomatch same), fun _ => reaped_cleans _⟩
  | Unreadable e =>
    refine ⟨fun _ ⟨_, same, _⟩ => (nomatch same), fun _ => ?_⟩
    dsimp only
    rw [bind_of_ok (show kill s = (.ok ⟨⟩, { s with killed := true }) from rfl)]
    exact reaped_cleans _
  | TimedOut =>
    refine ⟨fun _ ⟨_, same, _⟩ => (nomatch same), fun _ => ?_⟩
    dsimp only
    rw [bind_of_ok (show kill s = (.ok ⟨⟩, { s with killed := true }) from rfl)]
    exact reaped_cleans _
  | Line text =>
    dsimp only
    cases read : readers.read_outcome (Text.trim text) with
    | ok parsed =>
      refine ⟨fun _ ⟨other, same, garbled⟩ => ?_, fun _ => ?_⟩
      · cases same
        rw [read] at garbled
        cases garbled
      · rw [Except.mapError, bind_of_ok (ofExcept_run _ s)]
        exact reaped_cleans _
    | error e =>
      rw [Except.mapError, bind_of_error (ofExcept_run _ s)]
      exact ⟨fun cleaned => absurd cleaned (unwaited_left spawned unwaited), fun told => absurd ⟨text, rfl, by rw [read]; rfl⟩ told⟩

/-- A run from the spawn on. -/
theorem spawned_cleans_iff (spawned : s.spawned = true) (unwaited : s.waited = false) (no_stdin no_stdout : DispatchError)
    (cannot_send : String → DispatchError) :
    CleanedUp ((if ¬ child.has_stdin then fail no_stdin
      else do
        ofExcept (child.sent.mapError cannot_send)
        drain_stderr child
        if ¬ child.has_stdout then fail no_stdout
        else answered readers handle task child : ChildAct TaskOutcome) s).2 ↔
      ¬ (child.has_stdin = false ∨ child.sent.isOk = false ∨ child.has_stdout = false ∨
        ∃ text, child.answer = .Line text ∧ (readers.read_outcome (Text.trim text)).isOk = false) := by
  have left := unwaited_left spawned unwaited
  cases stdin : child.has_stdin with
  | false => exact ⟨fun cleaned => absurd cleaned left, fun none => absurd (.inl rfl) none⟩
  | true =>
    rw [if_neg (by simp)]
    cases sent : child.sent with
    | error e =>
      rw [Except.mapError, bind_of_error (ofExcept_run _ s)]
      exact ⟨fun cleaned => absurd cleaned left, fun none => absurd (.inr (.inl rfl)) none⟩
    | ok _ =>
      have drained : ∃ t, drain_stderr child s = (.ok ⟨⟩, t) ∧ t.spawned = true ∧ t.waited = false := by
        refine ⟨_, rfl, ?_⟩
        dsimp only
        split_ifs <;> exact ⟨spawned, unwaited⟩
      obtain ⟨t, drained, spawned, unwaited⟩ := drained
      rw [Except.mapError, bind_of_ok (ofExcept_run _ s), bind_of_ok drained]
      cases stdout : child.has_stdout with
      | false =>
        exact ⟨fun cleaned => absurd cleaned (unwaited_left spawned unwaited), fun none => absurd (.inr (.inr (.inl rfl))) none⟩
      | true =>
        rw [if_neg (by simp), answered_cleans_iff spawned unwaited]
        simp [Except.isOk, Except.toBool]

/-- A run leaves no child and no thread behind exactly where it does not leave between the spawn and the wait. -/
theorem run_cleans_up_iff (readers : LineReaders) (handle : StdioExecutorHandle) (task : Task) (child : Behaviour) :
    CleanedUp (run readers handle task child no_child).2 ↔ ¬ LeavesEarly readers child := by
  unfold run LeavesEarly
  cases serialised : child.to_string with
  | error e =>
    rw [Except.mapError, bind_of_error (ofExcept_run _ no_child)]
    simp [CleanedUp, no_child, Except.isOk, Except.toBool]
  | ok line =>
    rw [Except.mapError, bind_of_ok (ofExcept_run _ no_child)]
    cases spawn : child.spawn with
    | error e =>
      rw [Except.mapError, bind_of_error (ofExcept_run _ no_child)]
      simp [CleanedUp, no_child, Except.isOk, Except.toBool]
    | ok _ =>
      rw [Except.mapError, bind_of_ok (ofExcept_run _ no_child), bind_of_ok (modify_run _ no_child),
        spawned_cleans_iff rfl rfl]
      exact not_congr ⟨fun early => ⟨rfl, rfl, early⟩, fun early => early.2.2⟩

/-- A child that answers the first task of an executor with something else, and goes on. -/
def garbling : Behaviour :=
  ⟨.ok "line", .ok (), true, .ok (), .ok (), .ok (), true, true, [], .Line "hello", .ok "0"⟩

/-- No line is an outcome. -/
def deaf : LineReaders := ⟨fun _ => none, fun _ => .error "expected value"⟩

theorem garbled_answer_leaves_child :
    (run deaf (new "a" "worker" "30s") ⟨"t", "a", "", none, none⟩ garbling no_child).1 =
      .error (.Failed ("the executor answered with something else: " ++ "expected value")) ∧
    (run deaf (new "a" "worker" "30s") ⟨"t", "a", "", none, none⟩ garbling no_child).2 =
      ⟨true, false, false, .Running, []⟩ ∧
    ¬ CleanedUp (run deaf (new "a" "worker" "30s") ⟨"t", "a", "", none, none⟩ garbling no_child).2 := by
  have left : (run deaf (new "a" "worker" "30s") ⟨"t", "a", "", none, none⟩ garbling no_child).2 =
      ⟨true, false, false, .Running, []⟩ := rfl
  refine ⟨rfl, left, ?_⟩
  rw [left]
  exact unwaited_left rfl rfl

end StdioExecutorHandle

end Riscdom.Core
