import Riscdom.AgentLoop
import Riscdom.Local

/-!
A task handed to another node. One frame goes out; the answer, whenever it comes
and from whomever, lands in one map by the task's id, and the dispatch that waits
takes what it finds there.
-/
namespace Riscdom.Net
open Riscdom.Json

/-! ### Bodies -/

structure TaskFrame where
  task_id : String
  target : String
  input : String
  sandbox : Option String
  instance_id : Option String
deriving DecidableEq

def task_body (task : TaskFrame) : Value :=
  json [("task", .integer PROTOCOL_VERSION.toNat), ("task_id", .string task.task_id), ("target", .string task.target),
    ("input", .string task.input), ("sandbox", .ofOption task.sandbox), ("instance", .ofOption task.instance_id)]

def is_task (body : Value) : Bool := speaks "task" body

def task_from_body (body : Value) : Option TaskFrame :=
  if is_task body then do
    let task_id ← (body.get "task_id").bind Value.as_str
    let target ← (body.get "target").bind Value.as_str
    let input ← (body.get "input").bind Value.as_str
    return { task_id, target, input
             sandbox := (body.get "sandbox").bind Value.as_str
             instance_id := (body.get "instance").bind Value.as_str }
  else none

/-- A peer's answer to a task: what it produced, or why it did not run. -/
structure TaskReply where
  task_id : String
  agent_id : Option String
  outcome : Option Value
  error : Option String

def task_reply_body (reply : TaskReply) : Value :=
  json [("task_reply", .integer PROTOCOL_VERSION.toNat), ("task_id", .string reply.task_id),
    ("agent_id", .ofOption reply.agent_id), ("outcome", reply.outcome.getD .null), ("error", .ofOption reply.error)]

def is_task_reply (body : Value) : Bool := speaks "task_reply" body

/-- An outcome that is null is none. -/
def outcome_of (body : Value) : Option Value :=
  match body.get "outcome" with
  | some .null => none
  | found => found

def task_reply_from_body (body : Value) : Option TaskReply :=
  if is_task_reply body then do
    let task_id ← (body.get "task_id").bind Value.as_str
    return { task_id
             agent_id := (body.get "agent_id").bind Value.as_str
             outcome := outcome_of body
             error := (body.get "error").bind Value.as_str }
  else none

/-- A reply is read as it was written, but for an outcome of null. -/
theorem task_reply_round_trip (reply : TaskReply) (present : reply.outcome ≠ some .null) :
    task_reply_from_body (task_reply_body reply) = some reply := by
  have get (key : String) : (task_reply_body reply).get key = _ := get_json key _
  have spoken : is_task_reply (task_reply_body reply) = true := speaks_at (get "task_reply")
  have task_id : (task_reply_body reply).get "task_id" = some (.string reply.task_id) := get _
  have agent_id : (task_reply_body reply).get "agent_id" = some (.ofOption reply.agent_id) := get _
  have error : (task_reply_body reply).get "error" = some (.ofOption reply.error) := get _
  have outcome : outcome_of (task_reply_body reply) = reply.outcome := by
    have found : (task_reply_body reply).get "outcome" = some (reply.outcome.getD .null) := get _
    rw [outcome_of, found]
    rcases given : reply.outcome with _ | value
    · rfl
    · rw [given] at present
      cases value with
      | null => exact absurd rfl present
      | _ => rfl
  simp only [task_reply_from_body, spoken, if_true, task_id, agent_id, error, outcome, Option.bind_some, as_str_string,
    as_str_ofOption, Option.bind_eq_bind]
  rfl

end Riscdom.Net

namespace Riscdom.Core
open Riscdom.Json Riscdom.Net Riscdom.Agent Riscdom.Machine

structure Task where
  id : String
  target : String
  input : String
  sandbox : Option String
  instance_id : Option String

def Task.frame (task : Task) : TaskFrame := ⟨task.id, task.target, task.input, task.sandbox, task.instance_id⟩

structure TaskOutcome where
  task_id : String
  agent_id : String
  outcome : AgentOutcome
deriving DecidableEq

inductive DispatchError
  | NoSuchAgent (agent : String)
  | Failed (message : String)
deriving DecidableEq

/-- Where the replies land, by the id of their task. -/
abbrev TaskReplies := String → Option (Except String TaskOutcome)

/-- A reply as it is put into the map; `read` is what the serialization crate makes of an outcome. -/
def answer_of (read : Value → Except String TaskOutcome) (reply : TaskReply) : Except String TaskOutcome :=
  match reply.outcome, reply.error with
  | some value, _ => (read value).mapError fun error => "the peer's answer could not be read: " ++ error
  | none, some error => .error error
  | none, none => .error "the peer sent neither an outcome nor an error"

/-- What the reader of a node does to the map with a body, whoever sent it. -/
def receive_reply (read : Value → Except String TaskOutcome) (replies : TaskReplies) (body : Value) : TaskReplies :=
  match task_reply_from_body body with
  | some reply => Function.update replies reply.task_id (some (answer_of read reply))
  | none => replies

structure RemoteAgentHandle where
  agent_id : String
  peer : String
  timeout_secs : Nat

/-- What a dispatch came to: the guard, the frame that could not leave, a reply taken from the map, or none in time. -/
inductive Came
  | no_such_agent
  | unreachable (error : String)
  | answered (answer : Except String TaskOutcome)
  | timed_out

/-- What a dispatch of a task returns. -/
def RemoteAgentHandle.returned (handle : RemoteAgentHandle) (task : Task) : Came → Except DispatchError TaskOutcome
  | .no_such_agent => .error (.NoSuchAgent task.target)
  | .unreachable error => .error (.Failed ("the peer is unreachable: " ++ error))
  | .answered (.ok outcome) => .ok outcome
  | .answered (.error text) => .error (.Failed text)
  | .timed_out => .error (.Failed ("the peer did not answer in " ++ toString handle.timeout_secs ++ " s"))

/-- A dispatch: its handle and task, how many frames peers had sent when its own left, and what it came to. -/
structure Dispatch where
  handle : RemoteAgentHandle
  task : Task
  begun : Nat
  came : Option Came

/-- A verified frame of a peer. -/
structure Posted where
  sender : String
  body : Value

/-- A node that hands out tasks: the map of replies, the frames that peers have sent to it, and its dispatches. -/
structure Dispatcher where
  replies : TaskReplies
  posted : List Posted
  dispatches : List Dispatch

inductive DispatchAct
  /-- A peer sends a frame, which may come later, or never. -/
  | post (frame : Posted)
  /-- The reader reads one of the frames that were sent, in whatever order. -/
  | arrive (k : Nat)
  /-- A dispatch starts: its frame leaves, or does not. -/
  | run (handle : RemoteAgentHandle) (task : Task) (sent : Except String Unit)
  /-- One of the dispatches that wait looks for its reply, before its deadline or after it. -/
  | look (n : Nat) (expired : Bool)

/-- The look of a dispatch into the map: what it comes to, if it is over, and the map after. -/
def take_reply (replies : TaskReplies) (task_id : String) (expired : Bool) : Option Came × TaskReplies :=
  match replies task_id with
  | some answer => (some (.answered answer), Function.update replies task_id none)
  | none => (if expired then some .timed_out else none, replies)

/-- How a dispatch starts: the guard of its identity, then the frame. -/
def RemoteAgentHandle.start (handle : RemoteAgentHandle) (task : Task) (begun : Nat) (sent : Except String Unit) : Dispatch :=
  if task.target ≠ handle.agent_id then ⟨handle, task, begun, some .no_such_agent⟩ else
    match sent with
    | .error error => ⟨handle, task, begun, some (.unreachable error)⟩
    | .ok () => ⟨handle, task, begun, none⟩

def Dispatcher.step (read : Value → Except String TaskOutcome) (node : Dispatcher) : DispatchAct → Dispatcher
  | .post frame => { node with posted := node.posted ++ [frame] }
  | .arrive k =>
    match node.posted[k]? with
    | some frame => { node with replies := receive_reply read node.replies frame.body }
    | none => node
  | .run handle task sent => { node with dispatches := node.dispatches ++ [handle.start task node.posted.length sent] }
  | .look n expired =>
    match node.dispatches[n]? with
    | some dispatch =>
      if dispatch.came.isSome then node else
        let (came, replies) := take_reply node.replies dispatch.task.id expired
        { node with replies, dispatches := node.dispatches.set n { dispatch with came } }
    | none => node

def Dispatcher.start : Dispatcher := ⟨fun _ => none, [], []⟩

/-! ### Whose reply a dispatch takes -/

/-- The answer is in a reply to the dispatch's task that its own peer sent after the dispatch's frame had left. -/
def Owed (read : Value → Except String TaskOutcome) (posted : List Posted) (dispatch : Dispatch)
    (answer : Except String TaskOutcome) : Prop :=
  ∃ k frame reply, posted[k]? = some frame ∧ dispatch.begun ≤ k ∧ frame.sender = dispatch.handle.peer ∧
    task_reply_from_body frame.body = some reply ∧ reply.task_id = dispatch.task.id ∧ answer_of read reply = answer

/-- A reply that is read while dispatches of its task wait comes from the peer of each, and was sent after each began; a
    dispatch begins while no reply to its task is kept. -/
def Punctual (node : Dispatcher) : DispatchAct → Prop
  | .arrive k => ∀ frame reply, node.posted[k]? = some frame → task_reply_from_body frame.body = some reply →
    ∀ dispatch ∈ node.dispatches, dispatch.came = none → dispatch.task.id = reply.task_id →
      frame.sender = dispatch.handle.peer ∧ dispatch.begun ≤ k
  | .run _ task _ => node.replies task.id = none
  | _ => True

/-- What is kept for a dispatch that waits, and what a dispatch took, is owed to it. -/
structure Settled (read : Value → Except String TaskOutcome) (node : Dispatcher) : Prop where
  kept : ∀ dispatch ∈ node.dispatches, dispatch.came = none → ∀ answer, node.replies dispatch.task.id = some answer →
    Owed read node.posted dispatch answer
  taken : ∀ dispatch ∈ node.dispatches, ∀ answer, dispatch.came = some (.answered answer) → Owed read node.posted dispatch answer

section Settled
variable {read : Value → Except String TaskOutcome} {node : Dispatcher}

theorem Owed.later {posted : List Posted} {dispatch : Dispatch} {answer : Except String TaskOutcome}
    (owed : Owed read posted dispatch answer) (frame : Posted) : Owed read (posted ++ [frame]) dispatch answer := by
  obtain ⟨k, sent, reply, found, after, sender, body, task, same⟩ := owed
  refine ⟨k, sent, reply, ?_, after, sender, body, task, same⟩
  rw [List.getElem?_append_left (List.getElem?_eq_some_iff.mp found).choose]
  exact found

/-- Who a dispatch is owed an answer by does not hang on what it came to. -/
theorem Owed.came {posted : List Posted} {dispatch : Dispatch} {answer : Except String TaskOutcome}
    (owed : Owed read posted dispatch answer) (came : Option Came) : Owed read posted { dispatch with came } answer := owed

theorem arrive_settled (settled : Settled read node) {k : Nat} (punctual : Punctual node (.arrive k)) :
    Settled read (node.step read (.arrive k)) := by
  obtain ⟨kept, taken⟩ := settled
  rw [Dispatcher.step]
  cases found : node.posted[k]? with
  | none => exact ⟨kept, taken⟩
  | some frame =>
    simp only [receive_reply]
    cases body : task_reply_from_body frame.body with
    | none => exact ⟨kept, taken⟩
    | some reply =>
      refine ⟨fun dispatch inside waits answer held => ?_, taken⟩
      by_cases task : dispatch.task.id = reply.task_id
      · obtain ⟨sender, after⟩ := punctual frame reply found body dispatch inside waits task
        simp only [task, Function.update_self, Option.some.injEq] at held
        exact ⟨k, frame, reply, found, after, sender, body, task.symm, held⟩
      · simp only [Function.update_of_ne task] at held
        exact kept dispatch inside waits answer held

theorem run_settled (settled : Settled read node) {handle : RemoteAgentHandle} {task : Task} {sent : Except String Unit}
    (punctual : Punctual node (.run handle task sent)) : Settled read (node.step read (.run handle task sent)) := by
  obtain ⟨kept, taken⟩ := settled
  have fresh : (handle.start task node.posted.length sent).task = task := by
    unfold RemoteAgentHandle.start
    split_ifs
    · rfl
    · cases sent <;> rfl
  have untaken (answer : Except String TaskOutcome) :
      (handle.start task node.posted.length sent).came ≠ some (.answered answer) := by
    unfold RemoteAgentHandle.start
    split_ifs
    · nofun
    · cases sent <;> nofun
  rw [Dispatcher.step]
  constructor
  · intro dispatch inside waits answer held
    rcases List.mem_append.mp inside with before | last
    · exact kept dispatch before waits answer held
    · rw [List.mem_singleton.mp last, fresh] at held
      cases held.symm.trans punctual
  · intro dispatch inside answer came
    rcases List.mem_append.mp inside with before | last
    · exact taken dispatch before answer came
    · rw [List.mem_singleton.mp last] at came
      exact absurd came (untaken answer)

theorem look_settled (settled : Settled read node) (n : Nat) (expired : Bool) :
    Settled read (node.step read (.look n expired)) := by
  rw [Dispatcher.step]
  cases found : node.dispatches[n]? with
  | none => exact settled
  | some dispatch =>
    simp only
    split_ifs with at_end
    · exact settled
    · obtain ⟨kept, taken⟩ := settled
      have inside := List.mem_of_getElem? found
      have waits : dispatch.came = none := by simpa using at_end
      rw [take_reply]
      cases held : node.replies dispatch.task.id with
      | none =>
        simp only
        refine ⟨fun other there waiting answer there_kept => ?_, fun other there answer came => ?_⟩
        · rcases List.mem_or_eq_of_mem_set there with old | rfl
          · exact kept other old waiting answer there_kept
          · cases held.symm.trans there_kept
        · rcases List.mem_or_eq_of_mem_set there with old | rfl
          · exact taken other old answer came
          · cases expired <;> cases came
      | some answer =>
        simp only
        refine ⟨fun other there waiting another there_kept => ?_, fun other there another came => ?_⟩
        · rcases List.mem_or_eq_of_mem_set there with old | rfl
          · by_cases same : other.task.id = dispatch.task.id
            · simp only [same, Function.update_self] at there_kept
              cases there_kept
            · simp only [Function.update_of_ne same] at there_kept
              exact kept other old waiting another there_kept
          · cases waiting
        · rcases List.mem_or_eq_of_mem_set there with old | rfl
          · exact taken other old another came
          · cases came
            exact (kept dispatch inside waits answer held).came _

theorem step_settled (settled : Settled read node) {act : DispatchAct} (punctual : Punctual node act) :
    Settled read (node.step read act) := by
  cases act with
  | post frame =>
    exact ⟨fun dispatch inside waits answer held => (settled.kept dispatch inside waits answer held).later frame,
      fun dispatch inside answer came => (settled.taken dispatch inside answer came).later frame⟩
  | arrive k => exact arrive_settled settled punctual
  | run handle task sent => exact run_settled settled punctual
  | look n expired => exact look_settled settled n expired

end Settled

/-- What a dispatch has returned, if it is over. -/
def Dispatch.returned (dispatch : Dispatch) : Option (Except DispatchError TaskOutcome) :=
  dispatch.came.map (dispatch.handle.returned dispatch.task)

/-- Only a reply from the map makes a dispatch return an outcome. -/
theorem answered_of_returned {dispatch : Dispatch} {outcome : TaskOutcome} (returned : dispatch.returned = some (.ok outcome)) :
    dispatch.came = some (.answered (.ok outcome)) := by
  obtain ⟨came, at_end, result⟩ := Option.map_eq_some_iff.mp returned
  rw [at_end]
  cases came with
  | answered answer =>
    cases answer with
    | ok got =>
      cases result
      rfl
    | error text => cases result
  | _ => cases result

/-- While replies come punctually, an outcome that a dispatch returns is in a reply to its task which its own peer sent
    after the dispatch had begun. -/
theorem dispatch_answered_by_peer (read : Value → Except String TaskOutcome) (acts : List DispatchAct)
    (punctual : Allowed (Dispatcher.step read) Punctual .start acts) :
    ∀ dispatch ∈ (run (Dispatcher.step read) .start acts).dispatches, ∀ outcome, dispatch.returned = some (.ok outcome) →
      Owed read (run (Dispatcher.step read) .start acts).posted dispatch (.ok outcome) := by
  have keeps (node : Dispatcher) (act : DispatchAct) (settled : Settled read node) (allowed : Punctual node act) :
      Settled read (node.step read act) := step_settled settled allowed
  have start : Settled read .start := ⟨nofun, nofun⟩
  intro dispatch inside outcome returned
  exact (run_keeps keeps start punctual).taken dispatch inside _ (answered_of_returned returned)

/-! ### A reply of another peer -/

/-- The reading of an outcome that is a final answer. -/
def read_final (value : Value) : Except String TaskOutcome :=
  match (value.get "task_id").bind Value.as_str, (value.get "agent_id").bind Value.as_str,
      (value.get "outcome").bind (Value.get "Final") with
  | some task_id, some agent_id, some final =>
    match final.get "content", final.get "iterations" with
    | some (.string content), some (.integer iterations) => .ok ⟨task_id, agent_id, .Final content iterations.toNat⟩
    | _, _ => .error "missing field"
  | _, _, _ => .error "missing field"

def done_by (agent_id : String) : TaskReply where
  task_id := "task-dev-a-1-1"
  agent_id := some agent_id
  outcome := some (json [("task_id", .string "task-dev-a-1-1"), ("agent_id", .string agent_id),
    ("outcome", json [("Final", json [("content", .string "done"), ("iterations", .integer 1)])])])
  error := none

def handle_to_b : RemoteAgentHandle := ⟨"dev-b", "dev-b", 30⟩
def task_for_b : Task := ⟨"task-dev-a-1-1", "dev-b", "hello", none, none⟩

/-- The task goes to dev-b, and the reply of a peer is read before the dispatch looks. -/
def answered_by (peer : String) : List DispatchAct :=
  [.run handle_to_b task_for_b (.ok ()), .post ⟨peer, task_reply_body (done_by peer)⟩, .arrive 0, .look 0 false]

theorem reply_read (peer : String) : task_reply_from_body (task_reply_body (done_by peer)) = some (done_by peer) :=
  task_reply_round_trip _ nofun

theorem answer_read (peer : String) :
    answer_of read_final (done_by peer) = .ok ⟨"task-dev-a-1-1", peer, .Final "done" 1⟩ := by
  simp [answer_of, done_by, read_final, get_json, lookup, Value.as_str, Except.mapError]

/-- Whoever sent it, the reply is what the dispatch returns. -/
theorem answered_run (peer : String) : (run (Dispatcher.step read_final) .start (answered_by peer)).posted =
      [⟨peer, task_reply_body (done_by peer)⟩] ∧
    (run (Dispatcher.step read_final) .start (answered_by peer)).dispatches =
      [⟨handle_to_b, task_for_b, 0, some (.answered (.ok ⟨"task-dev-a-1-1", peer, .Final "done" 1⟩))⟩] := by
  have arrived : receive_reply read_final (fun _ => none) (task_reply_body (done_by peer)) =
      Function.update (fun _ => none) task_for_b.id (some (.ok ⟨"task-dev-a-1-1", peer, .Final "done" 1⟩)) := by
    rw [receive_reply, reply_read]
    simp only [answer_read]
    rfl
  have started : handle_to_b.start task_for_b 0 (.ok ()) = ⟨handle_to_b, task_for_b, 0, none⟩ := rfl
  simp [answered_by, run, Dispatcher.step, Dispatcher.start, arrived, started, take_reply]

theorem answered_punctually : Allowed (Dispatcher.step read_final) Punctual .start (answered_by "dev-b") := by
  refine ⟨rfl, trivial, fun frame reply found body dispatch inside _ _ => ?_, trivial, trivial⟩
  cases found
  rw [List.mem_singleton.mp inside]
  exact ⟨rfl, Nat.zero_le _⟩

theorem final_answer_from_b : Owed read_final [⟨"dev-b", task_reply_body (done_by "dev-b")⟩]
    ⟨handle_to_b, task_for_b, 0, some (.answered (.ok ⟨"task-dev-a-1-1", "dev-b", .Final "done" 1⟩))⟩
    (.ok ⟨"task-dev-a-1-1", "dev-b", .Final "done" 1⟩) := by
  obtain ⟨posted, dispatches⟩ := answered_run "dev-b"
  have owed := dispatch_answered_by_peer read_final (answered_by "dev-b") answered_punctually
    ⟨handle_to_b, task_for_b, 0, some (.answered (.ok ⟨"task-dev-a-1-1", "dev-b", .Final "done" 1⟩))⟩
    (dispatches ▸ List.mem_cons_self) ⟨"task-dev-a-1-1", "dev-b", .Final "done" 1⟩ rfl
  rw [posted] at owed
  exact owed

/-- The reply of a peer that was never asked is returned as the answer of the one that was. -/
theorem other_peer_answers : ¬ ∀ (read : Value → Except String TaskOutcome) (acts : List DispatchAct),
    ∀ dispatch ∈ (run (Dispatcher.step read) .start acts).dispatches, ∀ outcome, dispatch.returned = some (.ok outcome) →
      Owed read (run (Dispatcher.step read) .start acts).posted dispatch (.ok outcome) := by
  intro law
  obtain ⟨posted, dispatches⟩ := answered_run "dev-c"
  obtain ⟨k, frame, reply, found, _, sender, _⟩ := law read_final (answered_by "dev-c")
    ⟨handle_to_b, task_for_b, 0, some (.answered (.ok ⟨"task-dev-a-1-1", "dev-c", .Final "done" 1⟩))⟩
    (dispatches ▸ List.mem_cons_self) ⟨"task-dev-a-1-1", "dev-c", .Final "done" 1⟩ rfl
  rw [posted] at found
  rw [List.mem_singleton.mp (List.mem_of_getElem? found)] at sender
  exact absurd sender (by decide)

end Riscdom.Core
