import Riscdom.AgentLoop
import Riscdom.Fallible
import Riscdom.JsonText

/-!
Sessions: the rows of the conversations, how a run of the agent is given what a
session holds, and what it stores there afterwards. The stored rows are those of
the run exactly where no context was cut during it.
-/
namespace Riscdom.Sessions
open Riscdom.Agent Riscdom.Machine Fallible.Act

structure SessionMessage where
  id : Int
  session_id : String
  role : String
  content : String
  tool_call_json : Option String
  tool_call_id : Option String
  created_at_ms : Int
deriving DecidableEq

/-- The JSON text of the calls of a message, which reads back as the calls. -/
structure ToolCallJson where
  to_string : List ToolCall → String
  from_str : String → Option (List ToolCall)
  reads_back : ∀ calls, from_str (to_string calls) = some calls

inductive HostError
  | NotConfigured (message : String)
  | Agent (error : AgentError)
  | Io (message : String)
  | SandboxNotFound (message : String)
  | SandboxQemuMissing (message : String)
  | SandboxToolchainMissing (message : String)
  | SandboxKernelMissing (message : String)
  | SandboxStart (message : String)
  | SandboxConflict (message : String)
  | InstanceNotFound (message : String)
  | InstanceConflict (message : String)
  | Other (message : String)
deriving DecidableEq

/-- The rows by their ids, the clock, and how the statements to come are answered: an error or, where the list is spent,
    success. -/
structure SessionStore where
  rows : List SessionMessage
  sequence : Int
  clock : List Int
  answers : List (Option String)

abbrev SessionAct (α : Type) : Type := Fallible.Act SessionStore HostError α

def HISTORY_LIMIT : Nat := 100

namespace SessionStore

/-- One transaction, which is answered before it does anything. -/
def transaction {α : Type} (effect : SessionStore → α × SessionStore) : SessionAct α := fun store =>
  match store.answers.headD none with
  | some message => (.error (.Other message), { store with answers := store.answers.tail })
  | none =>
    let (result, after) := effect { store with answers := store.answers.tail }
    (.ok result, after)

def messages_of (store : SessionStore) (session_id : String) : List SessionMessage :=
  store.rows.filter fun row => row.session_id == session_id

/-- The most recent messages, oldest first. -/
def newest (store : SessionStore) (session_id : String) (limit : Nat) : List SessionMessage :=
  ((store.messages_of session_id).reverse.take limit).reverse

def load_messages (session_id : String) (limit : Nat) : SessionAct (List SessionMessage) :=
  transaction fun store => (store.newest session_id limit, store)

def append_message (session_id : String) (msg : SessionMessage) : SessionAct Int :=
  transaction fun store =>
    (store.sequence + 1, { store with
      rows := store.rows ++ [{ msg with id := store.sequence + 1, session_id }], sequence := store.sequence + 1 })

end SessionStore

variable (json : ToolCallJson)

/-- A row as a message again, where it is one of the conversation. -/
def history_to_chat (row : SessionMessage) : Option ChatMessage :=
  if row.role = "user" then some (.text "user" row.content)
  else if row.role = "assistant" then some
    { role := "assistant", content := if row.content = "" then none else some row.content,
      tool_calls := row.tool_call_json.bind json.from_str, tool_call_id := none }
  else if row.role = "tool" then some (.tool_result (row.tool_call_id.getD "") row.content)
  else none

/-- What a session holds, as the messages a run is given. -/
def SessionStore.history (store : SessionStore) (session_id : String) : List ChatMessage :=
  (store.newest session_id HISTORY_LIMIT).filterMap (history_to_chat json)

def load_session_history (session_id : String) : SessionAct (List ChatMessage) := do
  return (← SessionStore.load_messages session_id HISTORY_LIMIT).filterMap (history_to_chat json)

/-- The row of a message at a time. -/
def row_of_message (session_id : String) (now : Int) (message : ChatMessage) : SessionMessage :=
  { id := 0, session_id, role := message.role, content := message.content.getD "",
    tool_call_json := message.tool_calls.map json.to_string, tool_call_id := message.tool_call_id, created_at_ms := now }

def now_ms : SessionAct Int := fun store => (.ok (store.clock.headD 0), { store with clock := store.clock.tail })

/-- The messages that are not the system's, each as a row. -/
def store_messages (session_id : String) : List ChatMessage → SessionAct Unit
  | [] => return ()
  | message :: rest => do
    if message.role = "system" then store_messages session_id rest
    else
      let row := row_of_message json session_id (← now_ms) message
      let _ ← SessionStore.append_message session_id row
      store_messages session_id rest

def persist_turn (session_id : String) (messages : List ChatMessage) (start : Nat) : SessionAct Unit :=
  store_messages json session_id (messages.drop start)

/-- What a run is asked: the prompt and the configuration of the loop, the user's input, and all that the model and the
    tools will answer. -/
structure RunCall where
  session_id : String
  system_prompt : String
  config : AgentConfig
  user_input : String
  exchanges : Nat → Exchange

variable (quoted : String → String)

/-- The messages the loop holds when the run begins. -/
def RunCall.restored (call : RunCall) (history : List ChatMessage) : List ChatMessage :=
  .text "system" call.system_prompt :: history

def RunCall.turn (call : RunCall) (history : List ChatMessage) : Turn :=
  run_turn call.config quoted (call.restored history) call.user_input call.exchanges

theorem RunCall.returns (call : RunCall) (history : List ChatMessage) : (call.turn quoted history).returned.isSome :=
  turn_returns call.config quoted (call.restored history) call.user_input call.exchanges

/-- A run in a session, from the history it is given to the rows it leaves. -/
def run_agent_for (call : RunCall) : SessionAct AgentOutcome := do
  let history ← load_session_history json call.session_id
  let pre_len := (call.restored history).length
  let turn := call.turn quoted history
  match turn.returned.get (call.returns quoted history) with
  | .error error => fail (.Agent error)
  | .ok outcome =>
    persist_turn json call.session_id turn.messages pre_len
    return outcome

/-! ### What a run says, and what it stores -/

/-- What the exchanges of a run add to the conversation, up to the first in which no tool is called. -/
def said : List Exchange → List ChatMessage
  | [] => []
  | exchange :: rest => exchange.spoken ++ if exchange.calls = [] then [] else said rest

/-- No request of the run meets more messages than the context may have. -/
def Fits : Nat → List Exchange → Prop
  | _, [] => True
  | length, exchange :: rest =>
    length ≤ CONTEXT_MAX ∧ (exchange.calls ≠ [] → Fits (length + exchange.spoken.length) rest)

theorem trim_within {messages : List ChatMessage} (within : messages.length ≤ CONTEXT_MAX) : trim_context messages = messages := by
  rw [trim_context, if_pos within]

theorem trim_length_lt {messages : List ChatMessage} (beyond : ¬ messages.length ≤ CONTEXT_MAX) :
    (trim_context messages).length < messages.length := by
  rw [trim_context, if_neg beyond, List.length_append, List.length_append, List.length_drop]
  have system : (messages.head?.filter fun m => m.role == "system").toList.length ≤ 1 := by
    cases messages.head?.filter fun m => m.role == "system" <;> simp
  rw [CONTEXT_MAX] at beyond
  rw [CONTEXT_KEEP, List.length_singleton]
  omega

theorem trim_length_le (messages : List ChatMessage) : (trim_context messages).length ≤ messages.length := by
  by_cases within : messages.length ≤ CONTEXT_MAX
  · exact Nat.le_of_eq (congrArg List.length (trim_within within))
  · exact Nat.le_of_lt (trim_length_lt within)

section
variable {config : AgentConfig} {turn : Turn} {exchanges : List Exchange}

theorem no_pass_left {exchange : Exchange} {rest : List Exchange} (left : Left config turn (exchange :: rest))
    (last : turn.iterations + 1 ≥ config.max_iterations) : rest = [] := by
  rw [Left, List.length_cons] at left
  exact List.length_eq_zero_iff.mp (by omega)

theorem said_at_last {exchange : Exchange} {rest : List Exchange} (left : Left config turn (exchange :: rest))
    (last : exchange.calls = [] ∨ turn.iterations + 1 ≥ config.max_iterations) : said (exchange :: rest) = exchange.spoken := by
  rw [said]
  rcases last with none | spent
  · rw [if_pos none, List.append_nil]
  · rw [no_pass_left left spent, said]
    split_ifs <;> rw [List.append_nil]

theorem left_next {exchange : Exchange} {rest : List Exchange} (left : Left config turn (exchange :: rest)) {after : Turn}
    (passes : after.iterations = turn.iterations + 1) : Left config after rest := by
  rw [Left, List.length_cons] at left
  rw [Left, passes]
  omega

/-- A run whose context was never cut holds what it held and all that was said. -/
theorem run_fitting (left : Left config turn exchanges) (running : turn.returned = none)
    (fits : Fits turn.messages.length exchanges) {outcome : AgentOutcome}
    (returned : (run (iterate config) turn exchanges).returned = some (.ok outcome)) :
    (run (iterate config) turn exchanges).messages = turn.messages ++ said exchanges := by
  induction exchanges generalizing turn with
  | nil =>
    rw [run_nil, running] at returned
    cases returned
  | cons exchange rest ih =>
    obtain ⟨_, passes, messages, ended⟩ := iterate_cases config running exchange
    rw [trim_within fits.1] at messages
    rw [run_cons] at returned ⊢
    rcases ended with ⟨error, done⟩ | ⟨_, ⟨last, other, done⟩ | ⟨called, more, going⟩⟩
    · rw [run_returned (by simp [done]), done] at returned
      cases returned
    · rw [run_returned (by simp [done]), messages, said_at_last left last]
    · have fits_on : Fits (iterate config turn exchange).messages.length rest := by
        rw [messages, List.length_append]
        exact fits.2 called
      rw [ih (left_next left passes) going fits_on returned, messages, said, if_neg called, List.append_assoc]

/-- A cut makes the messages of a run fewer than those it held and those that were said. -/
theorem run_length (left : Left config turn exchanges) (running : turn.returned = none) :
    (run (iterate config) turn exchanges).messages.length ≤ turn.messages.length + (said exchanges).length ∧
      (¬ Fits turn.messages.length exchanges → ∀ outcome, (run (iterate config) turn exchanges).returned = some (.ok outcome) →
        (run (iterate config) turn exchanges).messages.length < turn.messages.length + (said exchanges).length) := by
  induction exchanges generalizing turn with
  | nil => exact ⟨Nat.le_add_right _ _, fun cut => absurd trivial cut⟩
  | cons exchange rest ih =>
    obtain ⟨_, passes, messages, ended⟩ := iterate_cases config running exchange
    have length := congrArg List.length messages
    rw [List.length_append] at length
    have shorter := trim_length_le turn.messages
    have strict : ¬ turn.messages.length ≤ CONTEXT_MAX → (trim_context turn.messages).length < turn.messages.length :=
      trim_length_lt
    have all : exchange.spoken.length ≤ (said (exchange :: rest)).length := by
      rw [said, List.length_append]
      exact Nat.le_add_right _ _
    rw [run_cons]
    by_cases going : (iterate config turn exchange).returned = none
    · obtain ⟨called, _, _⟩ : exchange.calls ≠ [] ∧ turn.iterations + 1 < config.max_iterations ∧ _ := by
        rcases ended with ⟨error, done⟩ | ⟨_, ⟨last, other, done⟩ | onward⟩
        · rw [going] at done
          cases done
        · rw [going] at done
          cases done
        · exact onward
      obtain ⟨at_most, cut_later⟩ := ih (left_next left passes) going
      rw [said, if_neg called, List.length_append]
      refine ⟨by omega, ?_⟩
      intro unfit outcome returned
      by_cases within : turn.messages.length ≤ CONTEXT_MAX
      · have later : ¬ Fits (iterate config turn exchange).messages.length rest := by
          intro fits
          rw [length, trim_within within] at fits
          exact unfit ⟨within, fun _ => fits⟩
        have below := cut_later later outcome returned
        omega
      · have below := strict within
        omega
    · rw [run_returned going]
      refine ⟨by omega, ?_⟩
      intro unfit outcome returned
      by_cases within : turn.messages.length ≤ CONTEXT_MAX
      · rcases ended with ⟨error, done⟩ | ⟨_, ⟨last, _⟩ | ⟨_, _, onward⟩⟩
        · rw [done] at returned
          cases returned
        · refine absurd ⟨within, fun called => ?_⟩ unfit
          rw [no_pass_left left (last.resolve_left called)]
          trivial
        · exact absurd onward going
      · have below := strict within
        omega

end

/-! ### The rows of a turn -/

/-- What a row tells of its message. -/
def SessionMessage.told (row : SessionMessage) : String × String × Option String × Option String :=
  (row.role, row.content, row.tool_call_json, row.tool_call_id)

/-- What is to be stored of a message. -/
def told_of (message : ChatMessage) : String × String × Option String × Option String :=
  (message.role, message.content.getD "", message.tool_calls.map json.to_string, message.tool_call_id)

/-- The session holds what it held and then exactly these messages. -/
def Persisted (session_id : String) (before after : SessionStore) (added : List ChatMessage) : Prop :=
  ∃ rows, after.messages_of session_id = before.messages_of session_id ++ rows ∧
    rows.map SessionMessage.told = added.map (told_of json)

variable {json}

theorem store_messages_rows {session_id : String} {messages : List ChatMessage} {store after : SessionStore}
    (stored : store_messages json session_id messages store = (.ok (), after)) :
    ∃ rows, after.rows = store.rows ++ rows ∧ (∀ row ∈ rows, row.session_id = session_id) ∧
      rows.map SessionMessage.told = (messages.filter fun m => m.role ≠ "system").map (told_of json) := by
  induction messages generalizing store with
  | nil =>
    cases stored
    exact ⟨[], (List.append_nil _).symm, by simp, rfl⟩
  | cons message rest ih =>
    rw [store_messages] at stored
    by_cases system : message.role = "system"
    · rw [if_pos system] at stored
      obtain ⟨rows, grown, named, told⟩ := ih stored
      exact ⟨rows, grown, named, by rw [told]; simp [system]⟩
    · rw [if_neg system] at stored
      have tick : now_ms store = (.ok (store.clock.headD 0), { store with clock := store.clock.tail }) := rfl
      rw [bind_of_ok tick] at stored
      rw [bind_eq_ok] at stored
      obtain ⟨id, next, appended, stored⟩ := stored
      obtain ⟨rows, grown, named, told⟩ := ih stored
      rw [SessionStore.append_message, SessionStore.transaction] at appended
      cases answer : store.answers.headD none with
      | some message =>
        simp only [answer] at appended
        cases appended
      | none =>
        simp only [answer] at appended
        cases appended
        refine ⟨_ :: rows, by rw [grown, List.append_assoc]; rfl, ?_, ?_⟩
        · intro row inside
          rcases List.mem_cons.mp inside with rfl | later
          · rfl
          · exact named row later
        · rw [List.map_cons, told]
          simp [system, SessionMessage.told, told_of, row_of_message]

/-- The rows of one session after its rows have grown by rows of one session. -/
theorem messages_of_grown {store after : SessionStore} {rows : List SessionMessage} {session_id : String}
    (grown : after.rows = store.rows ++ rows) (named : ∀ row ∈ rows, row.session_id = session_id) (other : String) :
    after.messages_of other = store.messages_of other ++ if other = session_id then rows else [] := by
  rw [SessionStore.messages_of, grown, List.filter_append]
  refine congrArg (store.messages_of other ++ ·) ?_
  by_cases same : other = session_id
  · rw [if_pos same, List.filter_eq_self]
    intro row inside
    rw [named row inside, same]
    exact beq_self_eq_true session_id
  · rw [if_neg same, List.filter_eq_nil_iff]
    intro row inside
    rw [named row inside]
    simpa using fun equal => same equal.symm

variable {quoted} in
/-- A run that succeeds: its history was loaded, its turn returned, and its new messages were stored. -/
theorem run_agent_for_ok {call : RunCall} {store after : SessionStore} {outcome : AgentOutcome}
    (ran : run_agent_for json quoted call store = (.ok outcome, after)) :
    let history := store.history json call.session_id
    let turn := call.turn quoted history
    turn.returned = some (.ok outcome) ∧ ∃ rows, after.rows = store.rows ++ rows ∧
      (∀ row ∈ rows, row.session_id = call.session_id) ∧ rows.map SessionMessage.told =
        ((turn.messages.drop (call.restored history).length).filter fun m => m.role ≠ "system").map (told_of json) := by
  intro history turn
  rw [run_agent_for, bind_eq_ok] at ran
  obtain ⟨loaded, next, load, ran⟩ := ran
  obtain ⟨rfl, same⟩ : loaded = history ∧ next.rows = store.rows := by
    rw [load_session_history, SessionStore.load_messages, bind_eq_ok] at load
    obtain ⟨rows, middle, answered, told⟩ := load
    rw [SessionStore.transaction] at answered
    cases answer : store.answers.headD none with
    | some message =>
      simp only [answer] at answered
      cases answered
    | none =>
      simp only [answer] at answered
      cases answered
      cases told
      exact ⟨rfl, rfl⟩
  obtain ⟨result, returned⟩ := Option.isSome_iff_exists.mp (call.returns quoted history)
  simp only [returned, Option.get_some] at ran
  cases result with
  | error error => cases ran
  | ok result =>
    simp only at ran
    rw [bind_eq_ok] at ran
    obtain ⟨_, last, stored, same_outcome⟩ := ran
    cases same_outcome
    obtain ⟨rows, grown, named, told⟩ := store_messages_rows stored
    exact ⟨returned, rows, by rw [grown, same], named, told⟩

/-! ### The law of a turn -/

/-- What a run adds to the conversation: the user's message and all that is said. -/
def RunCall.added (call : RunCall) : List ChatMessage :=
  match call.config.validate quoted with
  | .error _ => []
  | .ok () => user_message call.user_input :: said (call.config.passes call.exchanges)

theorem answered_role {calls : List ToolCall} {answers : List ToolAnswer} {message : ChatMessage}
    (inside : message ∈ answered calls answers) : message.role = "tool" := by
  induction calls generalizing answers with
  | nil => cases inside
  | cons call calls ih =>
    rw [answered] at inside
    cases answer : answers.headD (.result "") with
    | result text =>
      rw [answer] at inside
      rcases List.mem_cons.mp inside with rfl | later
      · rfl
      · exact ih later
    | error error =>
      rw [answer] at inside
      rcases List.mem_cons.mp inside with rfl | later
      · rfl
      · exact ih later
    | poisoned =>
      rw [answer] at inside
      cases inside

theorem spoken_role {exchange : Exchange} {message : ChatMessage} (inside : message ∈ exchange.spoken) :
    message.role = "assistant" ∨ message.role = "tool" := by
  rw [Exchange.spoken] at inside
  split at inside
  · cases inside
  · split at inside
    · cases inside
    · rcases List.mem_cons.mp inside with rfl | later
      · exact .inl rfl
      · exact .inr (answered_role later)

theorem said_role {exchanges : List Exchange} {message : ChatMessage} (inside : message ∈ said exchanges) :
    message.role = "assistant" ∨ message.role = "tool" := by
  induction exchanges with
  | nil => cases inside
  | cons exchange rest ih =>
    rw [said] at inside
    rcases List.mem_append.mp inside with now | later
    · exact spoken_role now
    · split_ifs at later
      · cases later
      · exact ih later

theorem enter_left (config : AgentConfig) (messages : List ChatMessage) (exchanges : Nat → Exchange) :
    Left config ⟨messages, 0, [], none⟩ (config.passes exchanges) := by
  rw [Left, AgentConfig.passes, List.length_map, List.length_range]
  exact Nat.zero_add _

variable {quoted} {call : RunCall} {store after : SessionStore} {outcome : AgentOutcome}

/-- A configuration that is refused adds nothing. -/
theorem refused_persisted (ran : run_agent_for json quoted call store = (.ok outcome, after)) {error : AgentError}
    (refused : call.config.validate quoted = .error error) : Persisted json call.session_id store after (call.added quoted) := by
  obtain ⟨_, rows, grown, named, told⟩ := run_agent_for_ok ran
  have messages : (call.turn quoted (store.history json call.session_id)).messages =
      call.restored (store.history json call.session_id) := by
    rw [RunCall.turn, run_turn, Turn.enter, refused]
    exact congrArg Turn.messages (run_returned (by simp) _)
  rw [messages, List.drop_length] at told
  refine ⟨rows, ?_, ?_⟩
  · rw [messages_of_grown grown named, if_pos rfl]
  · rw [told, RunCall.added, refused]
    rfl

/-- A run that fits is stored as it was said. -/
theorem fitting_persisted (ran : run_agent_for json quoted call store = (.ok outcome, after))
    (valid : call.config.validate quoted = .ok ())
    (fits : Fits ((call.restored (store.history json call.session_id)).length + 1) (call.config.passes call.exchanges)) :
    Persisted json call.session_id store after (call.added quoted) := by
  obtain ⟨returned, rows, grown, named, told⟩ := run_agent_for_ok ran
  let restored := call.restored (store.history json call.session_id)
  have turn : call.turn quoted (store.history json call.session_id) =
      run (iterate call.config) ⟨restored ++ [user_message call.user_input], 0, [], none⟩ (call.config.passes call.exchanges) := by
    rw [RunCall.turn, run_turn, Turn.enter, valid]
  rw [turn] at returned told
  have messages := run_fitting (enter_left _ _ _) rfl (by simpa using fits) returned
  have added : call.added quoted = user_message call.user_input :: said (call.config.passes call.exchanges) := by
    rw [RunCall.added, valid]
  have spoken : (call.added quoted).filter (fun m => m.role ≠ "system") = call.added quoted := by
    rw [List.filter_eq_self, added]
    intro message inside
    rcases List.mem_cons.mp inside with rfl | later
    · simp [user_message, ChatMessage.text]
    · rcases said_role later with assistant | tool
      · simp [assistant]
      · simp [tool]
  rw [messages, List.append_assoc, List.drop_left, List.singleton_append, ← added, spoken] at told
  refine ⟨rows, ?_, told⟩
  rw [messages_of_grown grown named, if_pos rfl]

/-- A run that does not fit leaves fewer rows than it added messages. -/
theorem cut_not_persisted (ran : run_agent_for json quoted call store = (.ok outcome, after))
    (valid : call.config.validate quoted = .ok ())
    (unfit : ¬ Fits ((call.restored (store.history json call.session_id)).length + 1) (call.config.passes call.exchanges)) :
    ¬ Persisted json call.session_id store after (call.added quoted) := by
  rintro ⟨others, held, told_others⟩
  obtain ⟨returned, rows, grown, named, told⟩ := run_agent_for_ok ran
  rw [messages_of_grown grown named, if_pos rfl, List.append_cancel_left_eq] at held
  subst held
  generalize same : call.restored (store.history json call.session_id) = restored at *
  have turn : call.turn quoted (store.history json call.session_id) =
      run (iterate call.config) ⟨restored ++ [user_message call.user_input], 0, [], none⟩ (call.config.passes call.exchanges) := by
    rw [RunCall.turn, run_turn, Turn.enter, valid, same]
  rw [turn] at returned told
  have shorter := (run_length (enter_left call.config (restored ++ [user_message call.user_input]) call.exchanges) rfl).2
    (by simpa using unfit) outcome returned
  have stored := congrArg List.length told
  have expected := congrArg List.length told_others
  rw [List.length_map, List.length_map] at stored expected
  have added : (call.added quoted).length = 1 + (said (call.config.passes call.exchanges)).length := by
    rw [RunCall.added, valid]
    exact Nat.add_comm _ _
  have kept := List.length_filter_le (fun m : ChatMessage => m.role ≠ "system")
    ((run (iterate call.config) ⟨restored ++ [user_message call.user_input], 0, [], none⟩
      (call.config.passes call.exchanges)).messages.drop restored.length)
  rw [List.length_drop] at kept
  simp only [List.length_append, List.length_singleton] at shorter
  omega

/-- The session holds what it held and then exactly what the run added, where and only where no request of the run met more
    messages than the context may have. -/
theorem turn_stored_iff (ran : run_agent_for json quoted call store = (.ok outcome, after)) :
    Persisted json call.session_id store after (call.added quoted) ↔ (∃ error, call.config.validate quoted = .error error) ∨
      Fits ((call.restored (store.history json call.session_id)).length + 1) (call.config.passes call.exchanges) := by
  cases valid : call.config.validate quoted with
  | error error =>
    constructor
    · exact fun _ => .inl ⟨error, rfl⟩
    · exact fun _ => refused_persisted ran valid
  | ok checked =>
    cases checked
    constructor
    · intro persisted
      right
      by_contra unfit
      exact cut_not_persisted ran valid unfit persisted
    · rintro (⟨_, refused⟩ | fits)
      · cases refused
      · exact fitting_persisted ran valid fits

/-! ### A short session and a long one -/

variable (json) in
theorem store_messages_granted (session_id : String) (messages : List ChatMessage) {store : SessionStore}
    (granted : store.answers = []) : ∃ after, store_messages json session_id messages store = (.ok (), after) := by
  induction messages generalizing store with
  | nil => exact ⟨store, rfl⟩
  | cons message rest ih =>
    rw [store_messages]
    split_ifs
    · exact ih granted
    · have tick : now_ms store = (.ok (store.clock.headD 0), { store with clock := store.clock.tail }) := rfl
      have answer : store.answers.headD none = none := by
        rw [granted]
        rfl
      rw [bind_of_ok tick, bind_run, SessionStore.append_message, SessionStore.transaction]
      simp only [answer]
      exact ih (by rw [granted]; rfl)

variable (json) (quoted) (call) (store) in
/-- Where no statement fails, a run whose turn succeeds succeeds. -/
theorem run_agent_for_granted (granted : store.answers = [])
    (returned : (call.turn quoted (store.history json call.session_id)).returned = some (.ok outcome)) :
    ∃ after, run_agent_for json quoted call store = (.ok outcome, after) := by
  have load : load_session_history json call.session_id store = (.ok (store.history json call.session_id), store) := by
    have answer : store.answers.headD none = none := by
      rw [granted]
      rfl
    have same : { store with answers := store.answers.tail } = store := by
      obtain ⟨rows, sequence, clock, answers⟩ := store
      cases granted
      rfl
    rw [load_session_history, SessionStore.load_messages, bind_run, SessionStore.transaction]
    simp only [answer, same]
    rfl
  obtain ⟨after, stored⟩ := store_messages_granted json call.session_id
    ((call.turn quoted (store.history json call.session_id)).messages.drop
      (call.restored (store.history json call.session_id)).length) granted
  refine ⟨after, ?_⟩
  rw [run_agent_for, bind_of_ok load]
  simp only [returned, Option.get_some]
  exact bind_of_ok stored

section
open Riscdom.Json

def call_value (call : ToolCall) : Value :=
  Json.json [("id", .string call.id), ("type", .string call.kind),
    ("function", Json.json [("name", .string call.function.name), ("arguments", .string call.function.arguments)])]

def value_call (value : Value) : Option ToolCall := do
  let function ← value.get "function"
  return ⟨← (← value.get "id").as_str, ← (← value.get "type").as_str,
    ⟨← (← function.get "name").as_str, ← (← function.get "arguments").as_str⟩⟩

theorem value_call_value (call : ToolCall) : value_call (call_value call) = some call := by
  have member (key : String) : (call_value call).get key = lookup key [("function", Json.json [("name",
      .string call.function.name), ("arguments", .string call.function.arguments)]), ("type", .string call.kind),
      ("id", .string call.id)] := get_json key _
  have inner (key : String) : (Json.json [("name", .string call.function.name), ("arguments",
      .string call.function.arguments)]).get key = lookup key [("arguments", .string call.function.arguments),
      ("name", .string call.function.name)] := get_json key _
  rw [value_call, member, member, member]
  simp [lookup, inner, Value.as_str]

theorem value_calls_values (calls : List ToolCall) : (calls.map call_value).mapM value_call = some calls := by
  induction calls with
  | nil => rfl
  | cons call rest ih =>
    rw [List.map_cons, List.mapM_cons, value_call_value, ih]
    rfl

/-- Calls as an array of documents. -/
def compact_calls : ToolCallJson where
  to_string calls := String.ofList (print (.array (calls.map call_value)))
  from_str text :=
    match parse text with
    | .ok (.array items) => items.mapM value_call
    | _ => none
  reads_back calls := by
    have plain : Plain (.array (calls.map call_value)) := by
      refine plainItems_iff.mpr fun value inside => ?_
      obtain ⟨call, _, rfl⟩ := List.mem_map.mp inside
      refine plain_json ?_
      simp only [List.mem_cons, List.not_mem_nil, or_false]
      rintro member (rfl | rfl | rfl)
      · exact plain_string _
      · exact plain_string _
      · exact plain_json (by simp)
    rw [parse_print plain]
    exact value_calls_values calls

end

def local_config : AgentConfig :=
  { api_key := "", base_url := "http://localhost:8080/v1", model := "local", provider_id := "local", max_iterations := 1,
    request_timeout_secs := 120 }

theorem local_config_valid (quoted : String → String) : local_config.validate quoted = .ok () := rfl

/-- A run in which the model answers at once. -/
def greeting : RunCall :=
  { session_id := "s", system_prompt := "rules", config := local_config, user_input := "hello",
    exchanges := fun _ => ⟨.ok ⟨[.text "assistant" "hello"]⟩, []⟩ }

/-- A session that holds so many inputs. -/
def inputs (count : Nat) : SessionStore :=
  { rows := (List.range count).map fun n => { row_of_message compact_calls "s" 0 (.text "user" "hello") with id := n + 1 },
    sequence := count, clock := [], answers := [] }

theorem greeting_returns (history : List ChatMessage) :
    (greeting.turn quoted history).returned = some (.ok (.Final "hello" 1)) := rfl

theorem greeting_stored : ∃ after, run_agent_for compact_calls id greeting (inputs 0) = (.ok (.Final "hello" 1), after) ∧
    Persisted compact_calls "s" (inputs 0) after (greeting.added id) := by
  obtain ⟨after, ran⟩ := run_agent_for_granted compact_calls id greeting (inputs 0) rfl (greeting_returns _)
  refine ⟨after, ran, (turn_stored_iff ran).mpr (.inr ⟨?_, ?_⟩)⟩
  · decide
  · exact fun called => absurd rfl called

/-- A session of forty messages stores nothing of the next turn. -/
theorem long_session_loses_turn : ¬ ∀ (json : ToolCallJson) (quoted : String → String) (call : RunCall)
    (store after : SessionStore) (outcome : AgentOutcome), run_agent_for json quoted call store = (.ok outcome, after) →
      Persisted json call.session_id store after (call.added quoted) := by
  intro law
  obtain ⟨after, ran⟩ := run_agent_for_granted compact_calls id greeting (inputs 40) rfl (greeting_returns _)
  refine cut_not_persisted ran (local_config_valid id) ?_ (law _ _ _ _ _ _ ran)
  rintro ⟨within, _⟩
  exact absurd within (by decide)

end Riscdom.Sessions
