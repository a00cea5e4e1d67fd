import Riscdom.Machine
import Riscdom.Text

/-!
The loop of the agent: one exchange with the model and the tools it calls is one
step, and what the model and the tools answer is given with the step. The
context is cut before each request, and every request is kept.
-/
namespace Riscdom.Agent
open Riscdom.Text Riscdom.Machine

structure FunctionCall where
  name : String
  arguments : String
deriving DecidableEq

structure ToolCall where
  id : String
  kind : String
  function : FunctionCall
deriving DecidableEq

structure ChatMessage where
  role : String
  content : Option String
  tool_calls : Option (List ToolCall)
  tool_call_id : Option String
deriving DecidableEq

def ChatMessage.text (role content : String) : ChatMessage := ⟨role, some content, none, none⟩
def ChatMessage.tool_result (tool_call_id content : String) : ChatMessage := ⟨"tool", some content, none, some tool_call_id⟩

/-- What is sent to the model, less its sampling options and the catalogue of tools, which are always the same. -/
structure ChatRequest where
  model : String
  messages : List ChatMessage

/-- The messages of a response's choices. -/
structure ChatResponse where
  choices : List ChatMessage

def ChatResponse.first_message (response : ChatResponse) : Option ChatMessage := response.choices.head?

inductive AgentError
  | Config (message : String)
  | Http (message : String)
  | Api (message : String)
  | Json (message : String)
  | Io (message : String)
  | PolicyDenied (message : String)
  | Tool (message : String)
  | Sandbox (message : String)
  | Other (message : String)
deriving DecidableEq

def AgentError.display : AgentError → String
  | .Config message => "config error: " ++ message
  | .Http message => "http error: " ++ message
  | .Api message => "api error: " ++ message
  | .Json message => "json error: " ++ message
  | .Io message => "io error: " ++ message
  | .PolicyDenied message => "policy denied: " ++ message
  | .Tool message => "tool error: " ++ message
  | .Sandbox message => "sandbox error: " ++ message
  | .Other message => message

/-! ### Configuration -/

structure AgentConfig where
  api_key : String
  base_url : String
  model : String
  provider_id : String
  max_iterations : Nat
  request_timeout_secs : Nat

/-- The address of a URL, its scheme and its path left out. -/
def authority (url : String) : List Char :=
  let rest := ((split_once "://".toList url.toList).map Prod.snd).getD url.toList
  rest.takeWhile fun c => c != '/' && c != '?' && c != '#'

def is_local_url (url : String) : Bool :=
  let hostport := ((rsplit_once '@' (authority url)).map Prod.snd).getD (authority url)
  let host := ((rsplit_once ':' hostport).map Prod.fst).getD hostport
  let bare := trim_end (· == ']') (host.dropWhile (· == '['))
  ["localhost", "127.0.0.1", "::1", "0.0.0.0"].contains (String.ofList bare)

/-- The configuration can be used; the text of a refused URL is written out by `quoted`. -/
def AgentConfig.validate (quoted : String → String) (config : AgentConfig) : Except AgentError Unit :=
  let base := trim config.base_url
  if ¬ (starts_with "http://" base || starts_with "https://" base) then
    .error (.Config ("base_url must start with http:// or https:// (got " ++ quoted base ++ ")"))
  else if trim config.model = "" then .error (.Config "model must not be empty")
  else if ¬ is_local_url base ∧ trim config.api_key = "" then
    .error (.Config "api_key is required for non-local base_url")
  else .ok ()

/-! ### The loop -/

def MAX_MESSAGE_BYTES : Nat := 8 * 1024
def CONTEXT_MAX : Nat := 40
def CONTEXT_KEEP : Nat := 30

inductive AgentOutcome
  | Final (content : String) (iterations : Nat)
  | MaxIterations (last_content : String) (iterations : Nat)
  | Failed (reason : String) (iterations : Nat)
deriving DecidableEq

/-- What a tool answers to a call, if the machine's slot can be locked for it. -/
inductive ToolAnswer
  | result (text : String)
  | error (error : AgentError)
  | poisoned
deriving DecidableEq

/-- What the model answers to a request, and the tools to its calls in their order, with nothing where they are spent. -/
structure Exchange where
  response : Except AgentError ChatResponse
  answers : List ToolAnswer

/-- The calls of the message the loop takes from an exchange. -/
def Exchange.calls (exchange : Exchange) : List ToolCall :=
  match exchange.response with
  | .ok response => (response.first_message.bind ChatMessage.tool_calls).getD []
  | .error _ => []

/-- A run of the loop: its messages, the requests it sent, and what it returned once it did. -/
structure Turn where
  messages : List ChatMessage
  iterations : Nat
  requests : List ChatRequest
  returned : Option (Except AgentError AgentOutcome)

def truncated_note : ChatMessage :=
  .text "system" ("[context truncated: earlier messages omitted, most recent " ++ toString CONTEXT_KEEP ++ " kept]")

/-- The system message and the most recent messages. -/
def trim_context (messages : List ChatMessage) : List ChatMessage :=
  if messages.length ≤ CONTEXT_MAX then messages
  else (messages.head?.filter fun m => m.role == "system").toList ++ [truncated_note] ++
    messages.drop (messages.length - CONTEXT_KEEP)

/-- The answer of a tool as the message that is sent back. -/
def result_message (call : ToolCall) (text : String) : ChatMessage :=
  .tool_result call.id (truncate text MAX_MESSAGE_BYTES)

/-- The calls answered one after the other. -/
def answer_calls : List ToolCall → List ToolAnswer → List ChatMessage → Option AgentError × List ChatMessage
  | [], _, messages => (none, messages)
  | call :: calls, answers, messages =>
    match answers.headD (.result "") with
    | .result text => answer_calls calls answers.tail (messages ++ [result_message call text])
    | .error error => answer_calls calls answers.tail (messages ++ [result_message call ("error: " ++ error.display)])
    | .poisoned => (some (.Other "vm slot poisoned"), messages)

/-- A message of the model as the loop keeps it. -/
def kept_message (message : ChatMessage) : ChatMessage :=
  let tool_calls := message.tool_calls.getD []
  { role := "assistant", content := message.content, tool_calls := if tool_calls = [] then none else some tool_calls,
    tool_call_id := none }

/-- The last content the model gave. -/
def last_content (messages : List ChatMessage) : String :=
  ((messages.reverse.find? fun m => m.role == "assistant").bind ChatMessage.content).getD ""

variable (config : AgentConfig)

/-- One pass of the loop; a run that returned stays as it is. -/
def iterate (turn : Turn) (exchange : Exchange) : Turn :=
  match turn.returned with
  | some _ => turn
  | none =>
    let messages := trim_context turn.messages
    let iterations := turn.iterations + 1
    let sent : Turn := ⟨messages, iterations, turn.requests ++ [⟨config.model, messages⟩], none⟩
    match exchange.response with
    | .error error => { sent with returned := some (.ok (.Failed error.display iterations)) }
    | .ok response =>
      match response.first_message with
      | none => { sent with returned := some (.ok (.Failed "model returned no choices" iterations)) }
      | some message =>
        let tool_calls := message.tool_calls.getD []
        let messages := messages ++ [kept_message message]
        if tool_calls = [] then
          { sent with messages, returned := some (.ok (.Final (message.content.getD "") iterations)) }
        else
          match answer_calls tool_calls exchange.answers messages with
          | (some error, messages) => { sent with messages, returned := some (.error error) }
          | (none, messages) =>
            if iterations ≥ config.max_iterations then
              { sent with messages, returned := some (.ok (.MaxIterations (last_content messages) iterations)) }
            else { sent with messages }

/-- The message of the user, as the loop keeps it. -/
def user_message (user_input : String) : ChatMessage := .text "user" (truncate user_input MAX_MESSAGE_BYTES)

/-- The state in which the loop is entered, or left at once where the configuration is refused. -/
def Turn.enter (quoted : String → String) (messages : List ChatMessage) (user_input : String) : Turn :=
  match config.validate quoted with
  | .error error => ⟨messages, 0, [], some (.ok (.Failed error.display 0))⟩
  | .ok () => ⟨messages ++ [user_message user_input], 0, [], none⟩

/-- The exchanges a run can come to, before it has made as many passes as it may. -/
def AgentConfig.passes (config : AgentConfig) (exchanges : Nat → Exchange) : List Exchange :=
  (List.range (max config.max_iterations 1)).map exchanges

/-- One user turn, to its end. -/
def run_turn (quoted : String → String) (messages : List ChatMessage) (user_input : String) (exchanges : Nat → Exchange) : Turn :=
  run (iterate config) (.enter config quoted messages user_input) (config.passes exchanges)

/-! ### What one pass does -/

/-- The answers to the calls as messages, each as long as the machine's slot could be locked. -/
def answered : List ToolCall → List ToolAnswer → List ChatMessage
  | [], _ => []
  | call :: calls, answers =>
    match answers.headD (.result "") with
    | .result text => result_message call text :: answered calls answers.tail
    | .error error => result_message call ("error: " ++ error.display) :: answered calls answers.tail
    | .poisoned => []

/-- What an exchange adds to the conversation. -/
def Exchange.spoken (exchange : Exchange) : List ChatMessage :=
  match exchange.response with
  | .error _ => []
  | .ok response =>
    match response.first_message with
    | none => []
    | some message => kept_message message :: answered (message.tool_calls.getD []) exchange.answers

/-- Every call of the exchange was answered. -/
def Exchange.Complete (exchange : Exchange) : Prop :=
  (answered exchange.calls exchange.answers).length = exchange.calls.length

theorem answer_calls_complete {calls : List ToolCall} {answers : List ToolAnswer} {messages : List ChatMessage}
    (done : (answer_calls calls answers messages).1 = none) : (answered calls answers).length = calls.length := by
  induction calls generalizing answers messages with
  | nil => rfl
  | cons call calls ih =>
    rw [answer_calls] at done
    rw [answered]
    cases answer : answers.headD (.result "") with
    | result text =>
      rw [answer] at done
      simp [ih done]
    | error error =>
      rw [answer] at done
      simp [ih done]
    | poisoned =>
      rw [answer] at done
      cases done

theorem answer_calls_messages (calls : List ToolCall) (answers : List ToolAnswer) (messages : List ChatMessage) :
    (answer_calls calls answers messages).2 = messages ++ answered calls answers := by
  induction calls generalizing answers messages with
  | nil => exact (List.append_nil messages).symm
  | cons call calls ih =>
    rw [answer_calls, answered]
    cases answers.headD (.result "") with
    | result text => simp [ih]
    | error error => simp [ih]
    | poisoned => simp

/-- All that a pass of a run that has not returned can do. -/
theorem iterate_cases {turn : Turn} (running : turn.returned = none) (exchange : Exchange) :
    let after := iterate config turn exchange
    after.requests = turn.requests ++ [⟨config.model, trim_context turn.messages⟩] ∧
    after.iterations = turn.iterations + 1 ∧
    after.messages = trim_context turn.messages ++ exchange.spoken ∧
    ((∃ error, after.returned = some (.error error)) ∨ exchange.Complete ∧
      ((exchange.calls = [] ∨ turn.iterations + 1 ≥ config.max_iterations) ∧ (∃ outcome, after.returned = some (.ok outcome)) ∨
        exchange.calls ≠ [] ∧ turn.iterations + 1 < config.max_iterations ∧ after.returned = none)) := by
  intro after
  have unfolded : after = iterate config turn exchange := rfl
  rw [iterate, running] at unfolded
  simp only at unfolded
  rw [Exchange.spoken, Exchange.Complete, Exchange.calls]
  cases answer : exchange.response with
  | error error =>
    rw [answer] at unfolded
    rw [unfolded]
    exact ⟨rfl, rfl, (List.append_nil _).symm, .inr ⟨rfl, .inl ⟨.inl rfl, _, rfl⟩⟩⟩
  | ok response =>
    simp only [answer] at unfolded ⊢
    cases first : response.first_message with
    | none =>
      rw [first] at unfolded
      rw [unfolded]
      exact ⟨rfl, rfl, (List.append_nil _).symm, .inr ⟨rfl, .inl ⟨.inl rfl, _, rfl⟩⟩⟩
    | some message =>
      simp only [first, Option.bind_some] at unfolded ⊢
      by_cases none : message.tool_calls.getD [] = []
      · rw [if_pos none] at unfolded
        rw [unfolded, none]
        exact ⟨rfl, rfl, rfl, .inr ⟨rfl, .inl ⟨.inl rfl, _, rfl⟩⟩⟩
      · rw [if_neg none] at unfolded
        have messages := answer_calls_messages (message.tool_calls.getD []) exchange.answers
          (trim_context turn.messages ++ [kept_message message])
        rw [List.append_assoc] at messages
        cases outcome : answer_calls (message.tool_calls.getD []) exchange.answers
            (trim_context turn.messages ++ [kept_message message]) with
        | mk error told =>
          rw [outcome] at unfolded messages
          cases error with
          | some error =>
            rw [unfolded]
            exact ⟨rfl, rfl, messages, .inl ⟨error, rfl⟩⟩
          | none =>
            have complete := answer_calls_complete (congrArg Prod.fst outcome)
            simp only at unfolded
            by_cases last : turn.iterations + 1 ≥ config.max_iterations
            · rw [if_pos last] at unfolded
              rw [unfolded]
              exact ⟨rfl, rfl, messages, .inr ⟨complete, .inl ⟨.inr last, _, rfl⟩⟩⟩
            · rw [if_neg last] at unfolded
              rw [unfolded]
              exact ⟨rfl, rfl, messages, .inr ⟨complete, .inr ⟨none, by omega, rfl⟩⟩⟩

variable {config} in
theorem iterate_returned {turn : Turn} (returned : turn.returned ≠ none) (exchange : Exchange) :
    iterate config turn exchange = turn := by
  rw [iterate]
  cases outcome : turn.returned with
  | none => exact absurd outcome returned
  | some result => rfl

variable {config} in
theorem run_returned {turn : Turn} (returned : turn.returned ≠ none) (exchanges : List Exchange) :
    run (iterate config) turn exchanges = turn := by
  induction exchanges with
  | nil => rfl
  | cons exchange rest ih =>
    rw [run_cons, iterate_returned returned]
    exact ih

/-- The passes left to a run that has not returned. -/
def Left (turn : Turn) (exchanges : List Exchange) : Prop := turn.iterations + exchanges.length = max config.max_iterations 1

variable {config} in
theorem left_returns {turn : Turn} {exchanges : List Exchange} (left : Left config turn exchanges)
    (started : exchanges = [] → turn.returned ≠ none) : (run (iterate config) turn exchanges).returned.isSome := by
  induction exchanges generalizing turn with
  | nil => exact Option.isSome_iff_ne_none.mpr (started rfl)
  | cons exchange rest ih =>
    rw [run_cons]
    cases returned : turn.returned with
    | some result =>
      have there : turn.returned ≠ none := by simp [returned]
      rw [iterate_returned there, run_returned there, returned]
      rfl
    | none =>
      obtain ⟨_, passes, _, outcome⟩ := iterate_cases config returned exchange
      rw [Left, List.length_cons] at left
      refine ih (by rw [Left, passes]; omega) ?_
      intro spent
      rw [spent, List.length_nil] at left
      rcases outcome with ⟨error, done⟩ | ⟨_, ⟨_, outcome, done⟩ | ⟨_, more, _⟩⟩
      · simp [done]
      · simp [done]
      · omega

/-- A run returns once it has made as many passes as it may. -/
theorem turn_returns (quoted : String → String) (messages : List ChatMessage) (user_input : String)
    (exchanges : Nat → Exchange) : (run_turn config quoted messages user_input exchanges).returned.isSome := by
  refine left_returns ?_ ?_
  · rw [Left, Turn.enter, AgentConfig.passes, List.length_map, List.length_range]
    cases config.validate quoted <;> exact Nat.zero_add _
  · intro spent
    have length := congrArg List.length spent
    simp [AgentConfig.passes] at length

end Riscdom.Agent
