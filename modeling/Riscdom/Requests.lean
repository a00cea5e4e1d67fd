import Riscdom.Sessions

/-!
The requests of the runs. A conversation is a row of messages in which the calls
of every assistant message are answered at once; a cut of it is a conversation
again where it does not begin with an answer. Along every run of completed turns
whose cuts are such, every request is well formed.
-/
namespace Riscdom.Sessions
open Riscdom.Agent Riscdom.Machine Fallible.Act

/-- A request as the model expects it: the prompt first, the current message in it, the tool messages answers to calls of the
    nearest assistant message before them, and no call without its answer. -/
structure WellFormed (system_prompt : String) (current : ChatMessage) (messages : List ChatMessage) : Prop where
  prompt : messages.head? = some (.text "system" system_prompt)
  present : current ∈ messages
  answers : ∀ (before : List ChatMessage) (m : ChatMessage) (after : List ChatMessage), messages = before ++ m :: after →
    m.role = "tool" → ∃ (earlier : List ChatMessage) (a : ChatMessage) (between : List ChatMessage),
      before = earlier ++ a :: between ∧ a.role = "assistant" ∧ (∀ n ∈ between, n.role ≠ "assistant") ∧
        ∃ call ∈ a.tool_calls.getD [], m.tool_call_id = some call.id
  answered : ∀ (before : List ChatMessage) (a : ChatMessage) (after : List ChatMessage), messages = before ++ a :: after →
    a.role = "assistant" → ∀ call ∈ a.tool_calls.getD [], ∃ (between : List ChatMessage) (m : ChatMessage)
      (later : List ChatMessage), after = between ++ m :: later ∧
      (∀ n ∈ between, n.role ≠ "assistant") ∧ m.role = "tool" ∧ m.tool_call_id = some call.id

/-! ### Conversations -/

/-- The message answers the call. -/
def Answers (call : ToolCall) (m : ChatMessage) : Prop := m.role = "tool" ∧ m.tool_call_id = some call.id

inductive Conversation : List ChatMessage → Prop
  | nil : Conversation []
  | note {m : ChatMessage} {rest : List ChatMessage} (other : m.role ≠ "assistant" ∧ m.role ≠ "tool")
      (later : Conversation rest) : Conversation (m :: rest)
  | reply {a : ChatMessage} {results rest : List ChatMessage} (role : a.role = "assistant")
      (answers : List.Forall₂ Answers (a.tool_calls.getD []) results) (later : Conversation rest) :
      Conversation (a :: (results ++ rest))

theorem results_role {calls : List ToolCall} {results : List ChatMessage} (answers : List.Forall₂ Answers calls results) :
    ∀ m ∈ results, m.role = "tool" ∧ ∃ call ∈ calls, m.tool_call_id = some call.id := by
  induction answers with
  | nil => simp
  | cons head _ ih =>
    intro m inside
    rcases List.mem_cons.mp inside with rfl | later
    · exact ⟨head.1, _, List.mem_cons_self, head.2⟩
    · obtain ⟨role, call, member, id⟩ := ih m later
      exact ⟨role, call, List.mem_cons_of_mem _ member, id⟩

theorem calls_answered {calls : List ToolCall} {results : List ChatMessage} (answers : List.Forall₂ Answers calls results) :
    ∀ call ∈ calls, ∃ m ∈ results, Answers call m := by
  induction answers with
  | nil => simp
  | cons head _ ih =>
    intro call inside
    rcases List.mem_cons.mp inside with rfl | later
    · exact ⟨_, List.mem_cons_self, head⟩
    · obtain ⟨m, member, answer⟩ := ih call later
      exact ⟨m, List.mem_cons_of_mem _ member, answer⟩

namespace Conversation
variable {first second messages : List ChatMessage}

theorem append (one : Conversation first) (two : Conversation second) : Conversation (first ++ second) := by
  induction one with
  | nil => exact two
  | note other _ ih => exact .note other ih
  | reply role answers _ ih =>
    rw [List.cons_append, List.append_assoc]
    exact .reply role answers ih

/-- A conversation cut where no answer begins is a conversation. -/
theorem cut (whole : Conversation messages) (split : messages = first ++ second)
    (start : ∀ m, second.head? = some m → m.role ≠ "tool") : Conversation second := by
  induction whole generalizing first with
  | nil =>
    rw [(List.append_eq_nil_iff.mp split.symm).2]
    exact .nil
  | note other later ih =>
    rcases first with _ | ⟨head, first⟩
    · rw [List.nil_append] at split
      rw [← split]
      exact .note other later
    · exact ih (List.cons.inj split).2
  | @reply a results rest role answers later ih =>
    rcases first with _ | ⟨head, first⟩
    · rw [List.nil_append] at split
      rw [← split]
      exact .reply role answers later
    · have tail := (List.cons.inj split).2
      rcases List.append_eq_append_iff.mp tail with ⟨between, _, inner⟩ | ⟨between, left, right⟩
      · exact ih inner
      · rcases between with _ | ⟨m, between⟩
        · rw [List.nil_append] at right
          rw [right]
          exact later
        · -- The cut lands on an answer.
          have member : m ∈ results := by
            rw [left]
            simp
          exact absurd (results_role answers m member).1 (start m (by rw [right]; rfl))

theorem answers_before (whole : Conversation messages) {before after : List ChatMessage} {m : ChatMessage}
    (split : messages = before ++ m :: after) (tool : m.role = "tool") :
    ∃ earlier a between, before = earlier ++ a :: between ∧ a.role = "assistant" ∧
      (∀ n ∈ between, n.role ≠ "assistant") ∧ ∃ call ∈ a.tool_calls.getD [], m.tool_call_id = some call.id := by
  induction whole generalizing before with
  | nil => simp at split
  | note other later ih =>
    rcases before with _ | ⟨head, before⟩
    · obtain ⟨rfl, _⟩ := List.cons.inj split
      exact absurd tool other.2
    · obtain ⟨earlier, a, between, place, found⟩ := ih (List.cons.inj split).2
      exact ⟨head :: earlier, a, between, by rw [place]; rfl, found⟩
  | @reply a results rest role answers later ih =>
    rcases before with _ | ⟨head, before⟩
    · obtain ⟨rfl, _⟩ := List.cons.inj split
      rw [role] at tool
      exact absurd tool (by decide)
    · obtain ⟨rfl, tail⟩ := List.cons.inj split
      rcases List.append_eq_append_iff.mp tail with ⟨between, place, inner⟩ | ⟨between, left, right⟩
      · obtain ⟨earlier, b, others, place_later, found⟩ := ih inner
        refine ⟨a :: (results ++ earlier), b, others, ?_, found⟩
        rw [place, place_later]
        simp
      · rcases between with _ | ⟨n, between⟩
        · rw [List.nil_append] at right
          obtain ⟨earlier, b, others, place_later, found⟩ := ih (show rest = [] ++ m :: after from right.symm)
          simp at place_later
        · rw [List.cons_append] at right
          obtain ⟨rfl, _⟩ := List.cons.inj right
          have inside : m ∈ results := by
            rw [left]
            simp
          obtain ⟨_, call, member, id⟩ := results_role answers m inside
          refine ⟨[], a, before, rfl, role, ?_, call, member, id⟩
          intro other old assistant
          have answer := (results_role answers other (by rw [left]; exact List.mem_append_left _ old)).1
          rw [assistant] at answer
          exact absurd answer (by decide)

theorem answered_after (whole : Conversation messages) {before after : List ChatMessage} {a : ChatMessage}
    (split : messages = before ++ a :: after) (assistant : a.role = "assistant") :
    ∀ call ∈ a.tool_calls.getD [], ∃ between m later, after = between ++ m :: later ∧
      (∀ n ∈ between, n.role ≠ "assistant") ∧ m.role = "tool" ∧ m.tool_call_id = some call.id := by
  intro call inside
  induction whole generalizing before with
  | nil => simp at split
  | note other later ih =>
    rcases before with _ | ⟨head, before⟩
    · obtain ⟨rfl, _⟩ := List.cons.inj split
      exact absurd assistant other.1
    · exact ih (List.cons.inj split).2
  | @reply b results rest role answers later ih =>
    rcases before with _ | ⟨head, before⟩
    · obtain ⟨rfl, tail⟩ := List.cons.inj split
      obtain ⟨m, member, answer⟩ := calls_answered answers call inside
      obtain ⟨early, late, place⟩ := List.append_of_mem member
      refine ⟨early, m, late ++ rest, ?_, ?_, answer⟩
      · rw [← tail, place]
        simp
      · intro other old same
        have tool := (results_role answers other (by rw [place]; exact List.mem_append_left _ old)).1
        rw [same] at tool
        exact absurd tool (by decide)
    · have tail := (List.cons.inj split).2
      rcases List.append_eq_append_iff.mp tail with ⟨between, _, inner⟩ | ⟨between, left, right⟩
      · exact ih inner
      · rcases between with _ | ⟨n, between⟩
        · exact ih (show rest = [] ++ a :: after from right.symm)
        · rw [List.cons_append] at right
          obtain ⟨rfl, _⟩ := List.cons.inj right
          have tool := (results_role answers a (by rw [left]; simp)).1
          rw [assistant] at tool
          exact absurd tool (by decide)

/-- A conversation after messages of the system is well formed. -/
theorem well_formed {system_prompt : String} {current : ChatMessage} {heads : List ChatMessage} (whole : Conversation messages)
    (prompt : heads.head? = some (.text "system" system_prompt)) (system : ∀ m ∈ heads, m.role = "system")
    (present : current ∈ messages) : WellFormed system_prompt current (heads ++ messages) := by
  have all : Conversation (heads ++ messages) := by
    refine append ?_ whole
    clear prompt
    induction heads with
    | nil => exact .nil
    | cons m rest ih =>
      have role := system m List.mem_cons_self
      refine .note ?_ (ih fun n later => system n (List.mem_cons_of_mem _ later))
      rw [role]
      decide
  refine ⟨?_, List.mem_append_right _ present, fun _ _ _ => all.answers_before, fun _ _ _ => all.answered_after⟩
  rw [List.head?_append, prompt]
  rfl

end Conversation

/-! ### The passes of a turn -/

/-- A cut that begins with no answer and keeps the current message. -/
def CutSound (current : ChatMessage) (messages : List ChatMessage) : Prop :=
  CONTEXT_MAX < messages.length →
    (∀ m, (messages.drop (messages.length - CONTEXT_KEEP)).head? = some m → m.role ≠ "tool") ∧
      current ∈ messages.drop (messages.length - CONTEXT_KEEP)

/-- A message of the conversation itself. -/
def Spoken (m : ChatMessage) : Prop := m.role = "user" ∨ m.role = "assistant" ∨ m.role = "tool"

theorem Spoken.not_system {m : ChatMessage} (spoken : Spoken m) : m.role ≠ "system" := by
  rcases spoken with user | assistant | tool
  · simp [user]
  · simp [assistant]
  · simp [tool]

/-- The messages of a turn: the system's, and the end of a conversation that is one itself or will be cut. -/
structure Kept (system_prompt : String) (current : ChatMessage) (messages heads tail : List ChatMessage) : Prop where
  split : messages = heads ++ tail
  heads : heads = [.text "system" system_prompt] ∨ heads = [.text "system" system_prompt, truncated_note]
  others : ∀ m ∈ tail, Spoken m
  ended : ∃ full, Conversation full ∧ tail <:+ full
  whole : Conversation tail ∨ CONTEXT_MAX < messages.length
  present : current ∈ tail

section
variable {system_prompt : String} {current : ChatMessage} {messages heads tail : List ChatMessage}

theorem heads_system (either : heads = [.text "system" system_prompt] ∨ heads = [.text "system" system_prompt, truncated_note]) :
    heads.head? = some (.text "system" system_prompt) ∧ heads.length ≤ 2 ∧ ∀ m ∈ heads, m.role = "system" := by
  rcases either with rfl | rfl
  · refine ⟨rfl, by simp, ?_⟩
    intro m inside
    rw [List.mem_singleton.mp inside]
    rfl
  · refine ⟨rfl, by simp, ?_⟩
    intro m inside
    rcases List.mem_cons.mp inside with rfl | later
    · rfl
    · rw [List.mem_singleton.mp later]
      rfl

/-- After a sound cut, or none, the context holds a conversation with the current message. -/
theorem Kept.trimmed (kept : Kept system_prompt current messages heads tail) (sound : CutSound current messages) :
    ∃ heads tail, Kept system_prompt current (trim_context messages) heads tail ∧ Conversation tail := by
  obtain ⟨prompt, few, system⟩ := heads_system kept.heads
  by_cases within : messages.length ≤ CONTEXT_MAX
  · rw [trim_within within]
    exact ⟨heads, tail, kept, kept.whole.resolve_right (Nat.not_lt.mpr within)⟩
  · obtain ⟨start, present⟩ := sound (Nat.lt_of_not_le within)
    have length : messages.length = heads.length + tail.length := by rw [kept.split, List.length_append]
    have drop : messages.drop (messages.length - CONTEXT_KEEP) = tail.drop (tail.length - CONTEXT_KEEP) := by
      rw [length, kept.split, List.drop_append]
      rw [CONTEXT_MAX] at within
      have beyond : heads.length ≤ heads.length + tail.length - CONTEXT_KEEP := by
        rw [CONTEXT_KEEP]
        omega
      rw [List.drop_of_length_le beyond, List.nil_append]
      congr 1
      rw [CONTEXT_KEEP]
      omega
    rw [drop] at start present
    have trimmed : trim_context messages = [.text "system" system_prompt, truncated_note] ++
        tail.drop (tail.length - CONTEXT_KEEP) := by
      have first : messages.head? = some (.text "system" system_prompt) := by
        rw [kept.split, List.head?_append, prompt]
        rfl
      rw [trim_context, if_neg within, drop, first]
      rfl
    obtain ⟨full, conversation, earlier, split⟩ := kept.ended
    have conversation_cut : Conversation (tail.drop (tail.length - CONTEXT_KEEP)) := by
      have place : full = (earlier ++ tail.take (tail.length - CONTEXT_KEEP)) ++ tail.drop (tail.length - CONTEXT_KEEP) := by
        rw [List.append_assoc, List.take_append_drop, split]
      exact conversation.cut place start
    refine ⟨_, _, ⟨trimmed, .inr rfl, ?_, ⟨_, conversation_cut, List.suffix_rfl⟩, .inl conversation_cut, present⟩,
      conversation_cut⟩
    intro m inside
    exact kept.others m (List.mem_of_mem_drop inside)

/-- What is said after a conversation makes it longer. -/
theorem Kept.grown (kept : Kept system_prompt current messages heads tail) (whole : Conversation tail)
    {spoken : List ChatMessage} (more : Conversation spoken) (others : ∀ m ∈ spoken, Spoken m) :
    Kept system_prompt current (messages ++ spoken) heads (tail ++ spoken) where
  split := by rw [kept.split, List.append_assoc]
  heads := kept.heads
  others := by
    intro m inside
    rcases List.mem_append.mp inside with old | new
    · exact kept.others m old
    · exact others m new
  ended := ⟨_, whole.append more, List.suffix_rfl⟩
  whole := .inl (whole.append more)
  present := List.mem_append_left _ kept.present

end

theorem spoken_others (exchange : Exchange) : ∀ m ∈ exchange.spoken, Spoken m := fun _ inside => .inr (spoken_role inside)

theorem answered_answers {calls : List ToolCall} {answers : List ToolAnswer}
    (complete : (answered calls answers).length = calls.length) : List.Forall₂ Answers calls (answered calls answers) := by
  induction calls generalizing answers with
  | nil => exact .nil
  | cons call calls ih =>
    rw [answered] at complete ⊢
    cases answer : answers.headD (.result "") with
    | result text =>
      simp only [answer, List.length_cons, Nat.add_right_cancel_iff] at complete ⊢
      exact .cons ⟨rfl, rfl⟩ (ih complete)
    | error error =>
      simp only [answer, List.length_cons, Nat.add_right_cancel_iff] at complete ⊢
      exact .cons ⟨rfl, rfl⟩ (ih complete)
    | poisoned =>
      rw [answer] at complete
      cases complete

/-- An exchange whose calls were all answered is a conversation. -/
theorem spoken_conversation {exchange : Exchange} (complete : exchange.Complete) : Conversation exchange.spoken := by
  rw [Exchange.Complete, Exchange.calls] at complete
  rw [Exchange.spoken]
  cases answer : exchange.response with
  | error error => exact .nil
  | ok response =>
    simp only [answer] at complete ⊢
    cases first : response.first_message with
    | none => exact .nil
    | some message =>
      simp only [first, Option.bind_some] at complete ⊢
      have calls : (kept_message message).tool_calls.getD [] = message.tool_calls.getD [] := by
        rw [kept_message]
        by_cases none : message.tool_calls.getD [] = []
        · simp [none]
        · simp [none]
      have results := answered_answers complete
      rw [← calls] at results ⊢
      rw [← List.append_nil (answered _ _)]
      exact .reply rfl results .nil

/-- Every request is well formed, and the messages are kept, unless the run was stopped by an error of its own. -/
def TurnSound (system_prompt : String) (current : ChatMessage) (turn : Turn) : Prop :=
  (∀ request ∈ turn.requests, WellFormed system_prompt current request.messages) ∧
    ((∃ error, turn.returned = some (.error error)) ∨
      ∃ heads tail, Kept system_prompt current turn.messages heads tail ∧ (turn.returned ≠ none → Conversation tail))

/-- A pass is taken with a sound cut. -/
def PassSound (current : ChatMessage) (turn : Turn) (_ : Exchange) : Prop := turn.returned = none → CutSound current turn.messages

theorem iterate_sound {config : AgentConfig} {system_prompt : String} {current : ChatMessage} {turn : Turn}
    {exchange : Exchange} (sound : TurnSound system_prompt current turn) (pass : PassSound current turn exchange) :
    TurnSound system_prompt current (iterate config turn exchange) := by
  by_cases running : turn.returned = none
  · obtain ⟨requests, passes, messages, ended⟩ := iterate_cases config running exchange
    obtain ⟨formed, stopped | ⟨heads, tail, kept, _⟩⟩ := sound
    · obtain ⟨error, done⟩ := stopped
      rw [running] at done
      cases done
    obtain ⟨heads, tail, kept, whole⟩ := kept.trimmed (pass running)
    constructor
    · intro request inside
      rw [requests] at inside
      rcases List.mem_append.mp inside with old | new
      · exact formed request old
      · rw [List.mem_singleton.mp new, kept.split]
        obtain ⟨prompt, _, system⟩ := heads_system kept.heads
        exact whole.well_formed prompt system kept.present
    · rcases ended with stopped | ⟨complete, _⟩
      · exact .inl stopped
      · right
        have spoken := spoken_conversation complete
        refine ⟨heads, tail ++ exchange.spoken, ?_, fun _ => whole.append spoken⟩
        rw [messages]
        exact kept.grown whole spoken (spoken_others exchange)
  · rw [iterate_returned running]
    exact sound

/-! ### The sessions -/

variable (json : ToolCallJson) (quoted : String → String)

/-- What was told as a message again. -/
def told_chat (told : String × String × Option String × Option String) : Option ChatMessage :=
  history_to_chat json ⟨0, "", told.1, told.2.1, told.2.2.1, told.2.2.2, 0⟩

variable {json} {quoted}

theorem history_told (rows : List SessionMessage) :
    rows.filterMap (history_to_chat json) = (rows.map SessionMessage.told).filterMap (told_chat json) := by
  rw [List.filterMap_map]
  rfl

variable (json) in
theorem told_answer {call : ToolCall} {m : ChatMessage} (answer : Answers call m) :
    ∃ again, told_chat json (told_of json m) = some again ∧ Answers call again := by
  obtain ⟨role, id⟩ := answer
  refine ⟨.tool_result call.id (m.content.getD ""), ?_, rfl, rfl⟩
  simp [told_chat, told_of, history_to_chat, role, id]

variable (json) in
theorem told_answers {calls : List ToolCall} {results : List ChatMessage} (answers : List.Forall₂ Answers calls results) :
    ∃ again, (results.map (told_of json)).filterMap (told_chat json) = again ∧ List.Forall₂ Answers calls again := by
  induction answers with
  | nil => exact ⟨[], rfl, .nil⟩
  | cons head _ ih =>
    obtain ⟨one, told, answer⟩ := told_answer json head
    obtain ⟨rest, told_rest, answers⟩ := ih
    exact ⟨one :: rest, by rw [List.map_cons, List.filterMap_cons, told, told_rest], .cons answer answers⟩

/-- A conversation that was stored reads back as a conversation. -/
theorem stored_conversation {messages : List ChatMessage} (whole : Conversation messages) :
    Conversation ((messages.map (told_of json)).filterMap (told_chat json)) := by
  induction whole with
  | nil => exact .nil
  | @note m rest other later ih =>
    obtain ⟨not_assistant, not_tool⟩ := other
    rw [List.map_cons, List.filterMap_cons]
    cases again : told_chat json (told_of json m) with
    | none => exact ih
    | some n =>
      have user : n.role = "user" := by
        by_cases user : m.role = "user"
        · simp [told_chat, told_of, history_to_chat, user] at again
          rw [← again]
          rfl
        · simp [told_chat, told_of, history_to_chat, user, not_assistant, not_tool] at again
      refine .note ?_ ih
      rw [user]
      decide
  | @reply a results rest role answers later ih =>
    have again : ∃ n, told_chat json (told_of json a) = some n ∧ n.role = "assistant" ∧ n.tool_calls = a.tool_calls := by
      have calls : (a.tool_calls.map json.to_string).bind json.from_str = a.tool_calls := by
        cases a.tool_calls with
        | none => rfl
        | some calls => exact json.reads_back calls
      refine ⟨_, by simp [told_chat, told_of, history_to_chat, role]; rfl, rfl, calls⟩
    obtain ⟨n, told, role_again, calls⟩ := again
    obtain ⟨others, told_results, answers_again⟩ := told_answers json answers
    rw [← calls] at answers_again
    rw [List.map_cons, List.filterMap_cons, told, List.map_append, List.filterMap_append, told_results]
    exact .reply role_again answers_again ih

/-- Every session holds a conversation, and no row that reads back as none of its messages. -/
def SessionsSound (json : ToolCallJson) (store : SessionStore) : Prop :=
  ∀ session_id, Conversation ((store.messages_of session_id).filterMap (history_to_chat json)) ∧
    ∀ row ∈ store.messages_of session_id, ∃ m, history_to_chat json row = some m

theorem history_spoken {row : SessionMessage} {m : ChatMessage} (read : history_to_chat json row = some m) : Spoken m := by
  unfold history_to_chat at read
  by_cases user : row.role = "user"
  · rw [if_pos user] at read
    cases read
    exact .inl rfl
  · rw [if_neg user] at read
    by_cases assistant : row.role = "assistant"
    · rw [if_pos assistant] at read
      cases read
      exact .inr (.inl rfl)
    · rw [if_neg assistant] at read
      by_cases tool : row.role = "tool"
      · rw [if_pos tool] at read
        cases read
        exact .inr (.inr rfl)
      · rw [if_neg tool] at read
        cases read

variable (json) in
/-- What was spoken reads back. -/
theorem told_spoken {m : ChatMessage} (spoken : Spoken m) : ∃ n, told_chat json (told_of json m) = some n := by
  rcases spoken with user | assistant | tool
  · simp [told_chat, told_of, history_to_chat, user]
  · simp [told_chat, told_of, history_to_chat, assistant]
  · simp [told_chat, told_of, history_to_chat, tool]

/-- What a run is given of a session is the end of its conversation, all of it or more than the context may have. -/
theorem history_ended {store : SessionStore} (sound : SessionsSound json store) (session_id : String) :
    store.history json session_id <:+ (store.messages_of session_id).filterMap (history_to_chat json) ∧
      (Conversation (store.history json session_id) ∨ CONTEXT_MAX < (store.history json session_id).length) := by
  obtain ⟨conversation, readable⟩ := sound session_id
  rw [SessionStore.history, SessionStore.newest, List.take_reverse, List.reverse_reverse]
  generalize store.messages_of session_id = rows at conversation readable
  refine ⟨(List.drop_suffix _ _).filterMap _, ?_⟩
  by_cases short : rows.length ≤ HISTORY_LIMIT
  · left
    rw [Nat.sub_eq_zero_of_le short, List.drop_zero]
    exact conversation
  · right
    have all : ∀ more : List SessionMessage, (∀ row ∈ more, ∃ m, history_to_chat json row = some m) →
        (more.filterMap (history_to_chat json)).length = more.length := by
      intro more
      induction more with
      | nil => exact fun _ => rfl
      | cons row rest ih =>
        intro each
        obtain ⟨m, read⟩ := each row List.mem_cons_self
        rw [List.filterMap_cons, read, List.length_cons, List.length_cons,
          ih fun other later => each other (List.mem_cons_of_mem _ later)]
    rw [all _ fun row inside => readable row (List.mem_of_mem_drop inside), List.length_drop]
    rw [HISTORY_LIMIT] at short ⊢
    rw [CONTEXT_MAX]
    omega

/-! ### Runs of turns -/

/-- Every pass of the turn has a sound cut. -/
def RunCall.PassesSound (quoted : String → String) (call : RunCall) (history : List ChatMessage) : Prop :=
  Allowed (iterate call.config) (PassSound (user_message call.user_input))
    (.enter call.config quoted (call.restored history) call.user_input) (call.config.passes call.exchanges)

/-- The first message stored of the turn is no answer. -/
def RunCall.RestSound (quoted : String → String) (call : RunCall) (history : List ChatMessage) : Prop :=
  ∀ m, (((call.turn quoted history).messages.drop (call.restored history).length).filter
    fun m => m.role ≠ "system").head? = some m → m.role ≠ "tool"

section
variable {call : RunCall} {store : SessionStore}

theorem user_message_present (user_input : String) : Conversation [user_message user_input] :=
  .note ⟨by simp [user_message, ChatMessage.text], by simp [user_message, ChatMessage.text]⟩ .nil

/-- The requests of a turn on sound sessions. -/
theorem turn_sound (sound : SessionsSound json store) (valid : call.config.validate quoted = .ok ())
    (passes : call.PassesSound quoted (store.history json call.session_id)) :
    TurnSound call.system_prompt (user_message call.user_input) (call.turn quoted (store.history json call.session_id)) := by
  rw [RunCall.PassesSound] at passes
  rw [RunCall.turn, run_turn]
  refine run_keeps (fun _ _ => iterate_sound) ?_ passes
  obtain ⟨ended, whole⟩ := history_ended sound call.session_id
  rw [Turn.enter, valid]
  refine ⟨by simp, .inr ⟨[.text "system" call.system_prompt],
    store.history json call.session_id ++ [user_message call.user_input], ⟨rfl, .inl rfl, ?_, ?_, ?_, by simp⟩, by simp⟩⟩
  · intro m inside
    rcases List.mem_append.mp inside with old | new
    · obtain ⟨row, _, read⟩ := List.mem_filterMap.mp old
      exact history_spoken read
    · rw [List.mem_singleton.mp new]
      exact .inl rfl
  · obtain ⟨earlier, split⟩ := ended
    refine ⟨_, (sound call.session_id).1.append (user_message_present call.user_input), earlier, ?_⟩
    rw [← split, List.append_assoc]
  · rcases whole with conversation | long
    · exact .inl (conversation.append (user_message_present call.user_input))
    · right
      rw [RunCall.restored, List.length_append, List.length_cons]
      omega

/-- What a sound turn leaves to be stored is a conversation. -/
theorem rest_conversation {system_prompt : String} {current : ChatMessage} {turn : Turn} {outcome : AgentOutcome} {n : Nat}
    (sound : TurnSound system_prompt current turn) (returned : turn.returned = some (.ok outcome))
    (start : ∀ m, ((turn.messages.drop n).filter fun m => m.role ≠ "system").head? = some m → m.role ≠ "tool") :
    Conversation ((turn.messages.drop n).filter fun m => m.role ≠ "system") ∧
      ∀ m ∈ (turn.messages.drop n).filter fun m => m.role ≠ "system", Spoken m := by
  obtain ⟨_, stopped | ⟨heads, tail, kept, whole⟩⟩ := sound
  · obtain ⟨error, done⟩ := stopped
    rw [returned] at done
    cases done
  obtain ⟨_, _, system⟩ := heads_system kept.heads
  have rest : (turn.messages.drop n).filter (fun m => m.role ≠ "system") = tail.drop (n - heads.length) := by
    have none : (heads.drop n).filter (fun m : ChatMessage => m.role ≠ "system") = [] := by
      rw [List.filter_eq_nil_iff]
      intro m inside
      simpa using system m (List.mem_of_mem_drop inside)
    have all : (tail.drop (n - heads.length)).filter (fun m : ChatMessage => m.role ≠ "system") = tail.drop (n - heads.length) := by
      rw [List.filter_eq_self]
      intro m inside
      simpa using (kept.others m (List.mem_of_mem_drop inside)).not_system
    rw [kept.split, List.drop_append, List.filter_append, none, all, List.nil_append]
  rw [rest] at start ⊢
  refine ⟨?_, fun m inside => kept.others m (List.mem_of_mem_drop inside)⟩
  exact (whole (by simp [returned])).cut (List.take_append_drop _ _).symm start

/-- The run succeeds, its cuts are sound, and it stores no answer first. -/
def CompletedSound (json : ToolCallJson) (quoted : String → String) (store : SessionStore) (call : RunCall) : Prop :=
  (∃ outcome, (run_agent_for json quoted call store).1 = .ok outcome) ∧
    call.PassesSound quoted (store.history json call.session_id) ∧ call.RestSound quoted (store.history json call.session_id)

/-- The sessions after a run. -/
def run_sessions (json : ToolCallJson) (quoted : String → String) (store : SessionStore) (call : RunCall) : SessionStore :=
  (run_agent_for json quoted call store).2

theorem completed_sessions_sound (sound : SessionsSound json store) (completed : CompletedSound json quoted store call) :
    SessionsSound json (run_sessions json quoted store call) := by
  obtain ⟨⟨outcome, succeeded⟩, passes, start⟩ := completed
  have ran : run_agent_for json quoted call store = (.ok outcome, run_sessions json quoted store call) :=
    Prod.ext succeeded rfl
  obtain ⟨returned, rows, grown, named, told⟩ := run_agent_for_ok ran
  -- A refused configuration stores nothing; any other run stores the rest of its conversation.
  have stored : Conversation (((call.turn quoted (store.history json call.session_id)).messages.drop
      (call.restored (store.history json call.session_id)).length).filter fun m => m.role ≠ "system") ∧
      ∀ m ∈ ((call.turn quoted (store.history json call.session_id)).messages.drop
        (call.restored (store.history json call.session_id)).length).filter fun m => m.role ≠ "system", Spoken m := by
    cases valid : call.config.validate quoted with
    | error error =>
      have messages : (call.turn quoted (store.history json call.session_id)).messages =
          call.restored (store.history json call.session_id) := by
        rw [RunCall.turn, run_turn, Turn.enter, valid]
        exact congrArg Turn.messages (run_returned (by simp) _)
      rw [messages, List.drop_length]
      exact ⟨.nil, by simp⟩
    | ok checked =>
      cases checked
      exact rest_conversation (turn_sound sound valid passes) returned start
  intro other
  obtain ⟨conversation, readable⟩ := sound other
  rw [messages_of_grown grown named]
  split_ifs
  · constructor
    · rw [List.filterMap_append, history_told rows, told]
      exact conversation.append (stored_conversation stored.1)
    · intro row inside
      rcases List.mem_append.mp inside with old | new
      · exact readable row old
      · have member := List.mem_map_of_mem (f := SessionMessage.told) new
        rw [told] at member
        obtain ⟨m, kept, same⟩ := List.mem_map.mp member
        obtain ⟨n, read⟩ := told_spoken json (stored.2 m kept)
        refine ⟨n, ?_⟩
        rw [same] at read
        exact read
  · rw [List.append_nil]
    exact ⟨conversation, readable⟩

end

/-- Along completed runs whose cuts are sound, every request that the next run sends is well formed as long as its cuts are
    sound. -/
theorem requests_well_formed (json : ToolCallJson) (quoted : String → String) (start : SessionStore) (new : start.rows = [])
    (calls : List RunCall) (completed : Allowed (run_sessions json quoted) (CompletedSound json quoted) start calls)
    (call : RunCall) :
    let history := (run (run_sessions json quoted) start calls).history json call.session_id
    call.PassesSound quoted history → ∀ request ∈ (call.turn quoted history).requests,
      WellFormed call.system_prompt (user_message call.user_input) request.messages := by
  intro history passes
  have empty : SessionsSound json start := by
    intro session_id
    rw [SessionStore.messages_of, new]
    exact ⟨.nil, by simp⟩
  have keeps : ∀ store call, SessionsSound json store → CompletedSound json quoted store call →
      SessionsSound json (run_sessions json quoted store call) := fun _ _ => completed_sessions_sound
  have sound := run_keeps keeps empty completed
  cases valid : call.config.validate quoted with
  | error error =>
    have none : (call.turn quoted history).requests = [] := by
      rw [RunCall.turn, run_turn, Turn.enter, valid]
      exact congrArg Turn.requests (run_returned (by simp) _)
    rw [none]
    simp
  | ok checked =>
    cases checked
    exact (turn_sound sound valid passes).1

/-! ### Two greetings, and a reply with many calls -/

theorem greeting_passes {history : List ChatMessage} (short : history.length ≤ 38) : greeting.PassesSound id history := by
  refine ⟨?_, trivial⟩
  intro _ long
  have length : (Turn.enter greeting.config id (greeting.restored history) greeting.user_input).messages.length =
      history.length + 2 := by
    rw [Turn.enter, show greeting.config.validate id = .ok () from local_config_valid id, RunCall.restored]
    simp
  rw [length, CONTEXT_MAX] at long
  omega

theorem greetings_well_formed :
    let store := run (run_sessions compact_calls id) (inputs 0) [greeting]
    ∀ request ∈ (greeting.turn id (store.history compact_calls "s")).requests,
      WellFormed "rules" (user_message "hello") request.messages := by
  have completed : CompletedSound compact_calls id (inputs 0) greeting := by
    obtain ⟨after, ran⟩ := run_agent_for_granted compact_calls id greeting (inputs 0) rfl (greeting_returns _)
    refine ⟨⟨_, congrArg Prod.fst ran⟩, greeting_passes (by decide), ?_⟩
    intro m first
    cases first
    decide
  obtain ⟨after, ran⟩ := run_agent_for_granted compact_calls id greeting (inputs 0) rfl (greeting_returns _)
  refine requests_well_formed compact_calls id (inputs 0) rfl [greeting] ⟨completed, trivial⟩ greeting (greeting_passes ?_)
  obtain ⟨rows, held, told⟩ := fitting_persisted ran (local_config_valid id) ⟨by decide, fun called => absurd rfl called⟩
  have two : rows.length = 2 := by
    have length := congrArg List.length told
    rw [List.length_map, List.length_map] at length
    exact length
  have store : run (run_sessions compact_calls id) (inputs 0) [greeting] = after := congrArg Prod.snd ran
  rw [store, SessionStore.history, SessionStore.newest, show after.messages_of greeting.session_id = rows from held]
  refine le_trans (List.length_filterMap_le _ _) ?_
  rw [List.length_reverse, List.length_take, List.length_reverse, two]
  decide

/-- A reply with as many calls as fill the context, each answered. -/
def many_calls : RunCall :=
  { greeting with
    config := { local_config with max_iterations := 2 }
    exchanges := fun n => if n = 0 then
        ⟨.ok ⟨[{ role := "assistant", content := none, tool_call_id := none, tool_calls := some ((List.range 38).map fun n =>
          ⟨toString n, "function", ⟨"read_serial", "{}"⟩⟩) }]⟩, []⟩
      else ⟨.ok ⟨[.text "assistant" "done"]⟩, []⟩ }

/-- The second request of the run holds answers without their calls, and not the message of the user. -/
theorem many_calls_malformed : ¬ ∀ (json : ToolCallJson) (quoted : String → String) (start : SessionStore),
    start.rows = [] → ∀ calls : List RunCall,
      Allowed (run_sessions json quoted) (fun store call => ∃ outcome, (run_agent_for json quoted call store).1 = .ok outcome)
        start calls → ∀ call : RunCall,
          (∀ n response, (call.exchanges n).response = .ok response →
            ∀ message ∈ response.choices, ((message.tool_calls.getD []).map ToolCall.id).Nodup) →
          ∀ request ∈ (call.turn quoted ((run (run_sessions json quoted) start calls).history json call.session_id)).requests,
            WellFormed call.system_prompt (user_message call.user_input) request.messages := by
  intro law
  have distinct : ∀ n response, (many_calls.exchanges n).response = .ok response →
      ∀ message ∈ response.choices, ((message.tool_calls.getD []).map ToolCall.id).Nodup := by
    intro n response given message inside
    by_cases first : n = 0
    · rw [first] at given
      cases given
      rw [List.mem_singleton.mp inside]
      decide
    · have later : (many_calls.exchanges n).response = .ok ⟨[.text "assistant" "done"]⟩ := by simp [many_calls, first]
      rw [later] at given
      cases given
      rw [List.mem_singleton.mp inside]
      exact List.nodup_nil
  have formed := law compact_calls id (inputs 0) rfl [] trivial many_calls distinct
  have absent : user_message "hello" ∉ ((many_calls.turn id []).requests.get ⟨1, by decide⟩).messages := by decide
  exact absent (formed _ (List.get_mem _ _)).present

end Riscdom.Sessions
