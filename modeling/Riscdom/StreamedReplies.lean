import Riscdom.AgentLoop
import Riscdom.ChatEvents
import Riscdom.KeyedTable
import Mathlib.Data.Finset.Sort

/-!
The assembly of a streamed reply: every payload as the client buffers it, beside
the reply that the texts and the tool-call fragments of a stream make.
-/
namespace Riscdom.StreamedReplies
open Riscdom.Agent (AgentError ChatMessage ChatResponse FunctionCall ToolCall)
open Riscdom.ChatEvents (trim)
open Riscdom.EventReaders (Text)
open Riscdom.KeyedTable (Table)

/-! ### The buffer of a stream -/

structure StreamFunction where
  name : Option String
  arguments : Option String

structure StreamToolCall where
  index : Nat
  id : Option String
  function : Option StreamFunction

structure StreamDelta where
  content : Option String
  tool_calls : Option (List StreamToolCall)

structure StreamChoice where
  delta : StreamDelta

structure StreamChunk where
  choices : List StreamChoice

inductive StreamEvent
  | Delta (text : String)
  | ToolCallDelta (index : Nat) (id name : Option String) (args_delta : String)
  | Done
deriving DecidableEq

structure PartialToolCall where
  index : Nat
  id : Option String
  name : Option String
  args : String

/-- The calls are kept one for an index, in the order in which they first came. -/
abbrev Calls : Type := Table PartialToolCall.index

structure Buffer where
  content : String
  calls : Calls

def filled (text : Option String) : Option String := text.filter (· ≠ "")

namespace StreamToolCall

def name (tc : StreamToolCall) : Option String := tc.function.bind fun function => filled function.name
def args (tc : StreamToolCall) : String := (tc.function.bind fun function => filled function.arguments).getD ""

/-- A call with what the fragment brings: an id and a name in the stead of the old ones, more arguments. -/
def merged (tc : StreamToolCall) (entry : PartialToolCall) : PartialToolCall where
  index := entry.index
  id := (filled tc.id).or entry.id
  name := tc.name.or entry.name
  args := entry.args ++ tc.args

theorem merged_index (tc : StreamToolCall) (entry : PartialToolCall) : (tc.merged entry).index = entry.index := rfl

end StreamToolCall

def fresh (index : Nat) : PartialToolCall := ⟨index, none, none, ""⟩

/-- The call of an index, put behind the others when there is none. -/
def slot (calls : Calls) (index : Nat) : Calls :=
  match calls.find index with
  | some _ => calls
  | none => calls.replace (fresh index)

def merge_call (calls : Calls) (tc : StreamToolCall) : Calls :=
  (slot calls tc.index).update tc.index tc.merged tc.merged_index

/-- A fragment put into the buffer, and its event, which tells the id that the call has by now. -/
def handle_tool_call (s : Buffer) (tc : StreamToolCall) : Buffer × StreamEvent :=
  let calls := merge_call s.calls tc
  ({ s with calls }, .ToolCallDelta tc.index ((calls.find tc.index).bind (·.id)) tc.name tc.args)

def handle_tool_calls (s : Buffer) : List StreamToolCall → Buffer × List StreamEvent
  | [] => (s, [])
  | tc :: rest =>
    let (t, event) := handle_tool_call s tc
    let (u, events) := handle_tool_calls t rest
    (u, event :: events)

def handle_content (s : Buffer) (content : Option String) : Buffer × List StreamEvent :=
  match filled content with
  | some text => ({ s with content := s.content ++ text }, [.Delta text])
  | none => (s, [])

def handle_choices (s : Buffer) : List StreamChoice → Buffer × List StreamEvent
  | [] => (s, [])
  | choice :: rest =>
    let (t, told) := handle_content s choice.delta.content
    let (u, called) := handle_tool_calls t (choice.delta.tool_calls.getD [])
    let (v, events) := handle_choices u rest
    (v, told ++ called ++ events)

/-- The reading of a chunk's JSON is given, with the text of its error. -/
def handle_stream_payload (read : Text → Except String StreamChunk) (s : Buffer) (payload : Text) :
    Except AgentError (Buffer × List StreamEvent) :=
  if trim payload = [] then .ok (s, []) else
  match read payload with
  | .error e => .error (.Json e)
  | .ok chunk => .ok (handle_choices s chunk.choices)

def Calls.sorted (calls : Calls) : List PartialToolCall := calls.rows.mergeSort fun a b => a.index ≤ b.index

def PartialToolCall.tool_call (c : PartialToolCall) : Option ToolCall :=
  if c.name.isSome ∨ c.args ≠ "" then
    some ⟨c.id.getD ("call-" ++ toString c.index), "function", ⟨c.name.getD "", c.args⟩⟩
  else none

def reply (content : String) (tool_calls : List ToolCall) : ChatResponse where
  choices := [⟨"assistant", if content = "" then none else some content,
    if tool_calls = [] then none else some tool_calls, none⟩]

def build_stream_response (s : Buffer) : ChatResponse :=
  reply s.content (Calls.sorted s.calls |>.filterMap PartialToolCall.tool_call)

def Buffer.new : Buffer := ⟨"", .empty⟩

/-- The events of a stream and its result, from the payloads of its lines. -/
def chat_stream (read : Text → Except String StreamChunk) (s : Buffer) :
    List Text → List StreamEvent × Except AgentError ChatResponse
  | [] => ([.Done], .ok (build_stream_response s))
  | payload :: rest =>
    match handle_stream_payload read s payload with
    | .error e => ([], .error e)
    | .ok (t, events) =>
      let (later, result) := chat_stream read t rest
      (events ++ later, result)

/-! ### What a stream carries -/

def concat : List String → String
  | [] => ""
  | text :: rest => text ++ concat rest

/-- The texts of the `Delta` events, in order. -/
def deltas (events : List StreamEvent) : List String :=
  events.filterMap fun
    | .Delta text => some text
    | _ => none

def WellFormed (read : Text → Except String StreamChunk) (payload : Text) : Prop :=
  trim payload = [] ∨ ∃ chunk, read payload = .ok chunk

def choices (read : Text → Except String StreamChunk) (payload : Text) : List StreamChoice :=
  if trim payload = [] then [] else
  match read payload with
  | .error _ => []
  | .ok chunk => chunk.choices

/-- The fragments of the content, in order. -/
def texts (read : Text → Except String StreamChunk) (payloads : List Text) : List String :=
  (payloads.flatMap (choices read)).filterMap fun choice => choice.delta.content

/-- The fragments of the tool calls, in order. -/
def fragments (read : Text → Except String StreamChunk) (payloads : List Text) : List StreamToolCall :=
  (payloads.flatMap (choices read)).flatMap fun choice => choice.delta.tool_calls.getD []

def of_index (index : Nat) (fs : List StreamToolCall) : List StreamToolCall := fs.filter fun tc => tc.index = index

def last_id (fs : List StreamToolCall) : Option String := (fs.filterMap fun tc => filled tc.id).getLast?
def last_name (fs : List StreamToolCall) : Option String := (fs.filterMap StreamToolCall.name).getLast?
def arguments (fs : List StreamToolCall) : String := concat (fs.map StreamToolCall.args)

/-- The call that the fragments of one index make, when they carry a name or arguments. -/
def assembled_call (index : Nat) (fs : List StreamToolCall) : Option ToolCall :=
  if last_name fs = none ∧ arguments fs = "" then none else
  some ⟨(last_id fs).getD ("call-" ++ toString index), "function", ⟨(last_name fs).getD "", arguments fs⟩⟩

/-- The calls by index. -/
def assembled_calls (fs : List StreamToolCall) : List ToolCall :=
  ((fs.map StreamToolCall.index).toFinset.sort (· ≤ ·)).filterMap fun index => assembled_call index (of_index index fs)

/-- The pieces bring what the whole fragment brings: its index, its id, its name, and its arguments in order. -/
structure Pieces (whole : StreamToolCall) (pieces : List StreamToolCall) : Prop where
  several : pieces ≠ []
  index : ∀ piece ∈ pieces, piece.index = whole.index
  id : last_id pieces = last_id [whole]
  name : last_name pieces = last_name [whole]
  arguments : arguments pieces = arguments [whole]

theorem concat_append (texts more : List String) : concat (texts ++ more) = concat texts ++ concat more := by
  induction texts with
  | nil => simp [concat]
  | cons text rest ih => simp [concat, ih, String.append_assoc]

theorem deltas_append (events more : List StreamEvent) : deltas (events ++ more) = deltas events ++ deltas more := by
  simp [deltas]

theorem filled_empty : filled (some "") = none := by simp [filled, Option.filter]

theorem filled_some {text : String} (some_text : text ≠ "") : filled (some text) = some text := by
  simp [filled, Option.filter, some_text]

/-! ### What the buffer takes in -/

theorem find_slot (calls : Calls) (index : Nat) (k : Nat) :
    (slot calls index).find k = if k = index then some ((calls.find k).getD (fresh k)) else calls.find k := by
  rw [slot]
  cases found : calls.find index with
  | none =>
    rw [Table.find_replace]
    by_cases same : k = index
    · subst same
      simp [fresh, found]
    · simp [fresh, same]
  | some entry =>
    by_cases same : k = index
    · subst same
      simp [found]
    · simp [same]

theorem find_merge_call (calls : Calls) (tc : StreamToolCall) (k : Nat) :
    (merge_call calls tc).find k =
      if k = tc.index then some (tc.merged ((calls.find k).getD (fresh k))) else calls.find k := by
  rw [merge_call, Table.find_update, find_slot]
  by_cases same : k = tc.index
  · simp [same]
  · simp [same]

/-- From one buffer to another, with these texts and fragments taken in and told. -/
structure Takes (s t : Buffer) (events : List StreamEvent) (texts : List String) (fs : List StreamToolCall) : Prop where
  content : t.content = s.content ++ concat texts
  told : concat (deltas events) = concat texts
  calls : t.calls = fs.foldl merge_call s.calls

namespace Takes

theorem nothing (s : Buffer) : Takes s s [] [] [] := ⟨by simp [concat], rfl, rfl⟩

theorem trans {s t u : Buffer} {events more : List StreamEvent} {texts later : List String} {fs gs : List StreamToolCall}
    (first : Takes s t events texts fs) (second : Takes t u more later gs) :
    Takes s u (events ++ more) (texts ++ later) (fs ++ gs) where
  content := by rw [second.content, first.content, concat_append, String.append_assoc]
  told := by rw [deltas_append, concat_append, concat_append, first.told, second.told]
  calls := by rw [List.foldl_append, ← first.calls, second.calls]

end Takes

theorem handle_tool_calls_spec (s : Buffer) (fs : List StreamToolCall) :
    Takes s (handle_tool_calls s fs).1 (handle_tool_calls s fs).2 [] fs := by
  induction fs generalizing s with
  | nil => exact .nothing s
  | cons tc rest ih =>
    have one : Takes s (handle_tool_call s tc).1 [(handle_tool_call s tc).2] [] [tc] := ⟨by simp [handle_tool_call, concat], rfl, rfl⟩
    exact one.trans (ih (handle_tool_call s tc).1)

theorem handle_content_spec (s : Buffer) (content : Option String) :
    Takes s (handle_content s content).1 (handle_content s content).2 content.toList [] := by
  cases content with
  | none => exact .nothing s
  | some text =>
    by_cases empty : text = ""
    · subst empty
      have skipped : handle_content s (some "") = (s, []) := by rw [handle_content, filled_empty]
      rw [skipped]
      exact ⟨by simp [concat], by simp [concat, deltas], rfl⟩
    · have pushed : handle_content s (some text) = ({ s with content := s.content ++ text }, [.Delta text]) := by
        rw [handle_content, filled_some empty]
      rw [pushed]
      exact ⟨by simp [concat], rfl, rfl⟩

theorem handle_choices_spec (s : Buffer) (choices : List StreamChoice) :
    Takes s (handle_choices s choices).1 (handle_choices s choices).2
      (choices.flatMap fun choice => choice.delta.content.toList)
      (choices.flatMap fun choice => choice.delta.tool_calls.getD []) := by
  induction choices generalizing s with
  | nil => exact .nothing s
  | cons choice rest ih =>
    have told := handle_content_spec s choice.delta.content
    have called := handle_tool_calls_spec (handle_content s choice.delta.content).1 (choice.delta.tool_calls.getD [])
    simpa [handle_choices] using (told.trans called).trans (ih _)

variable {read : Text → Except String StreamChunk}

theorem handle_stream_payload_spec {payload : Text} (well_formed : WellFormed read payload) (s : Buffer) :
    handle_stream_payload read s payload = .ok (handle_choices s (choices read payload)) := by
  rw [handle_stream_payload, choices]
  by_cases blank : trim payload = []
  · simp [blank, handle_choices]
  · obtain blank' | ⟨chunk, parsed⟩ := well_formed
    · exact absurd blank' blank
    · simp [blank, parsed]

theorem chat_stream_spec {payloads : List Text} (well_formed : ∀ payload ∈ payloads, WellFormed read payload) (s : Buffer) :
    ∃ t events, chat_stream read s payloads = (events ++ [.Done], .ok (build_stream_response t)) ∧
      Takes s t events (texts read payloads) (fragments read payloads) := by
  induction payloads generalizing s with
  | nil => exact ⟨s, [], rfl, .nothing s⟩
  | cons payload rest ih =>
    have taken := handle_choices_spec s (choices read payload)
    obtain ⟨t, events, streamed, later⟩ := ih (fun p inside => well_formed p (List.mem_cons_of_mem _ inside))
      (handle_choices s (choices read payload)).1
    refine ⟨t, (handle_choices s (choices read payload)).2 ++ events, ?_, ?_⟩
    · simp [chat_stream, handle_stream_payload_spec (well_formed payload List.mem_cons_self), streamed]
    · simpa [texts, fragments, List.filterMap_eq_flatMap_toList] using taken.trans later

/-! ### The calls of the buffer -/

/-- What the buffer holds under an index once the fragments are in. -/
def gathered (index : Nat) (fs : List StreamToolCall) : Option PartialToolCall :=
  if fs = [] then none else some ⟨index, last_id fs, last_name fs, arguments fs⟩

theorem gathered_append (index : Nat) (fs : List StreamToolCall) (tc : StreamToolCall) :
    gathered index (fs ++ [tc]) = some (tc.merged ((gathered index fs).getD (fresh index))) := by
  have more : fs ++ [tc] ≠ [] := by simp
  have later_id : last_id (fs ++ [tc]) = (filled tc.id).or (last_id fs) := by
    rw [last_id, last_id, List.filterMap_append, List.getLast?_append]
    cases h : filled tc.id <;> simp [h]
  have later_name : last_name (fs ++ [tc]) = tc.name.or (last_name fs) := by
    rw [last_name, last_name, List.filterMap_append, List.getLast?_append]
    cases h : tc.name <;> simp [h]
  have later_args : arguments (fs ++ [tc]) = arguments fs ++ tc.args := by
    simp [arguments, concat_append, concat]
  rw [gathered, if_neg more, later_id, later_name, later_args]
  by_cases none_yet : fs = []
  · subst none_yet
    rfl
  · simp [gathered, none_yet, StreamToolCall.merged]

theorem find_gathered (fs : List StreamToolCall) (index : Nat) :
    (fs.foldl merge_call .empty).find index = gathered index (of_index index fs) := by
  induction fs using List.reverseRecOn with
  | nil => rfl
  | append_singleton fs tc ih =>
    rw [List.foldl_append, List.foldl_cons, List.foldl_nil, find_merge_call, ih]
    by_cases same : index = tc.index
    · have kept : of_index index (fs ++ [tc]) = of_index index fs ++ [tc] := by simp [of_index, same]
      rw [if_pos same, kept, gathered_append]
    · have dropped : of_index index (fs ++ [tc]) = of_index index fs := by simp [of_index, Ne.symm same]
      rw [if_neg same, dropped]

theorem gathered_tool_call (index : Nat) (fs : List StreamToolCall) :
    (gathered index fs).bind PartialToolCall.tool_call = assembled_call index fs := by
  by_cases none_yet : fs = []
  · subst none_yet
    rfl
  · rw [gathered, if_neg none_yet, Option.bind_some, PartialToolCall.tool_call, assembled_call]
    cases named : last_name fs with
    | some name => simp
    | none => by_cases empty : arguments fs = "" <;> simp [empty]

theorem index_mem (fs : List StreamToolCall) (index : Nat) :
    index ∈ (fs.map StreamToolCall.index).toFinset ↔ of_index index fs ≠ [] := by
  simp [of_index, List.filter_eq_nil_iff]

theorem sorted_calls (fs : List StreamToolCall) :
    (Calls.sorted (fs.foldl merge_call .empty)).filterMap PartialToolCall.tool_call = assembled_calls fs := by
  have sorted := Table.sorted_rows (fs.foldl merge_call .empty) (fs.map StreamToolCall.index).toFinset fun index => by
    rw [find_gathered, index_mem, gathered]
    by_cases absent : of_index index fs = [] <;> simp [absent]
  rw [Calls.sorted, sorted, List.filterMap_filterMap, assembled_calls]
  congr 1
  funext index
  rw [find_gathered, gathered_tool_call]

/-! ### The reply of a stream -/

theorem chat_stream_reply {payloads : List Text} (well_formed : ∀ payload ∈ payloads, WellFormed read payload) :
    ∃ events, chat_stream read .new payloads =
        (events ++ [.Done], .ok (reply (concat (deltas events)) (assembled_calls (fragments read payloads)))) ∧
      concat (deltas events) = concat (texts read payloads) := by
  obtain ⟨t, events, streamed, taken⟩ := chat_stream_spec well_formed .new
  have content : t.content = concat (deltas events) := by
    rw [taken.content, taken.told]
    simp [Buffer.new]
  have calls : t.calls = (fragments read payloads).foldl merge_call .empty := taken.calls
  refine ⟨events, ?_, taken.told⟩
  rw [streamed, build_stream_response, content, calls, sorted_calls]

theorem assembled_calls_congr {fs gs : List StreamToolCall}
    (indices : ∀ index, of_index index fs = [] ↔ of_index index gs = [])
    (calls : ∀ index, assembled_call index (of_index index fs) = assembled_call index (of_index index gs)) :
    assembled_calls fs = assembled_calls gs := by
  have same : (fs.map StreamToolCall.index).toFinset = (gs.map StreamToolCall.index).toFinset := by
    ext index
    rw [index_mem, index_mem, ne_eq, ne_eq, indices]
  rw [assembled_calls, assembled_calls, same]
  congr 1
  funext index
  exact calls index

theorem last_append (before after : List StreamToolCall) :
    last_id (before ++ after) = (last_id after).or (last_id before) ∧
      last_name (before ++ after) = (last_name after).or (last_name before) ∧
      arguments (before ++ after) = arguments before ++ arguments after := by
  simp [last_id, last_name, arguments, concat_append]

/-- A call reads its fragments only as far as pieces keep them. -/
theorem assembled_pieces {whole : StreamToolCall} {pieces : List StreamToolCall} (cut : Pieces whole pieces) (index : Nat)
    (before after : List StreamToolCall) :
    assembled_call index (before ++ pieces ++ after) = assembled_call index (before ++ [whole] ++ after) := by
  have id : last_id (before ++ pieces ++ after) = last_id (before ++ [whole] ++ after) := by
    simp only [(last_append _ _).1, cut.id]
  have name : last_name (before ++ pieces ++ after) = last_name (before ++ [whole] ++ after) := by
    simp only [(last_append _ _).2.1, cut.name]
  have arguments : arguments (before ++ pieces ++ after) = arguments (before ++ [whole] ++ after) := by
    simp only [(last_append _ _).2.2, cut.arguments]
  rw [assembled_call, assembled_call, id, name, arguments]

theorem of_index_append (index : Nat) (fs gs : List StreamToolCall) :
    of_index index (fs ++ gs) = of_index index fs ++ of_index index gs := List.filter_append ..

theorem of_index_alike {place : Nat} {fs : List StreamToolCall} (alike : ∀ tc ∈ fs, tc.index = place) (index : Nat) :
    of_index index fs = if place = index then fs else [] := by
  by_cases same : place = index
  · rw [if_pos same]
    exact List.filter_eq_self.mpr fun tc inside => by simp [alike tc inside, same]
  · rw [if_neg same]
    exact List.filter_eq_nil_iff.mpr fun tc inside => by simp [alike tc inside, same]

theorem assembled_calls_cut {whole : StreamToolCall} {pieces : List StreamToolCall} (cut : Pieces whole pieces)
    (before after : List StreamToolCall) :
    assembled_calls (before ++ pieces ++ after) = assembled_calls (before ++ [whole] ++ after) := by
  have own (index : Nat) : of_index index [whole] = if whole.index = index then [whole] else [] :=
    of_index_alike (by simp) index
  refine assembled_calls_congr (fun index => ?_) fun index => ?_
  · simp only [of_index_append, List.append_eq_nil_iff, own, of_index_alike cut.index]
    by_cases same : whole.index = index
    · simp [same, cut.several]
    · simp [same]
  · simp only [of_index_append, own, of_index_alike cut.index]
    by_cases same : whole.index = index
    · rw [if_pos same, if_pos same, assembled_pieces cut]
    · rw [if_neg same, if_neg same]

theorem args_some (index : Nat) (id name : Option String) (text : String) :
    StreamToolCall.args ⟨index, id, some ⟨name, some text⟩⟩ = text := by
  by_cases empty : text = ""
  · subst empty
    rw [StreamToolCall.args, Option.bind_some, filled_empty]
    rfl
  · rw [StreamToolCall.args, Option.bind_some, filled_some empty]
    rfl

/-- Arguments cut into several fragments, with the id and the name on the first. -/
theorem arguments_cut (index : Nat) (id name : Option String) (first : String) (more : List String) :
    Pieces ⟨index, id, some ⟨name, some (concat (first :: more))⟩⟩
      (⟨index, id, some ⟨name, some first⟩⟩ :: more.map fun text => ⟨index, none, some ⟨none, some text⟩⟩) where
  several := by simp
  index := by
    intro piece inside
    obtain rfl | later := List.mem_cons.mp inside
    · rfl
    · obtain ⟨text, -, rfl⟩ := List.mem_map.mp later
      rfl
  id := by
    have unnamed : filled none = none := rfl
    simp [last_id, unnamed, List.filterMap_cons]
  name := by
    have silent : (more.map fun text => (⟨index, none, some ⟨none, some text⟩⟩ : StreamToolCall)).filterMap
        StreamToolCall.name = [] := by
      simp only [List.filterMap_map, List.filterMap_eq_nil_iff]
      exact fun text _ => rfl
    simp only [last_name, List.filterMap_cons, List.filterMap_nil, silent]
    rfl
  arguments := by
    have rest : (more.map fun text => (⟨index, none, some ⟨none, some text⟩⟩ : StreamToolCall)).map StreamToolCall.args = more := by
      simp [Function.comp_def, args_some]
    rw [arguments, arguments, List.map_cons, rest, List.map_singleton, args_some, args_some]
    simp [concat]

/-- The content is the `Delta` texts in order and the calls are those that the fragments of each index make; the order
    between fragments of different indices, and the cutting of a text or of arguments, make no difference. -/
theorem reply_assembled (read : Text → Except String StreamChunk) (payloads : List Text)
    (well_formed : ∀ payload ∈ payloads, WellFormed read payload) :
    (∃ events, chat_stream read .new payloads =
        (events ++ [.Done], .ok (reply (concat (deltas events)) (assembled_calls (fragments read payloads)))) ∧
      concat (deltas events) = concat (texts read payloads)) ∧
    ∀ others, (∀ payload ∈ others, WellFormed read payload) →
      (texts read others = texts read payloads →
        (∀ index, of_index index (fragments read others) = of_index index (fragments read payloads)) →
        (chat_stream read .new others).2 = (chat_stream read .new payloads).2) ∧
      (∀ before text pieces after, texts read payloads = before ++ [text] ++ after → concat pieces = text →
        texts read others = before ++ pieces ++ after → fragments read others = fragments read payloads →
        (chat_stream read .new others).2 = (chat_stream read .new payloads).2) ∧
      (∀ before whole pieces after, fragments read payloads = before ++ [whole] ++ after → Pieces whole pieces →
        fragments read others = before ++ pieces ++ after → texts read others = texts read payloads →
        (chat_stream read .new others).2 = (chat_stream read .new payloads).2) := by
  refine ⟨chat_stream_reply well_formed, fun others others_formed => ?_⟩
  have same (text : concat (texts read others) = concat (texts read payloads))
      (calls : assembled_calls (fragments read others) = assembled_calls (fragments read payloads)) :
      (chat_stream read .new others).2 = (chat_stream read .new payloads).2 := by
    obtain ⟨events, streamed, told⟩ := chat_stream_reply well_formed
    obtain ⟨others_events, others_streamed, others_told⟩ := chat_stream_reply others_formed
    rw [streamed, others_streamed, told, others_told, text, calls]
  refine ⟨fun text order => ?_, fun before text pieces after whole_text whole cut_text kept => ?_,
    fun before whole pieces after one cut others_cut text => ?_⟩
  · exact same (congrArg concat text) (assembled_calls_congr (fun index => by rw [order]) fun index => by rw [order])
  · refine same ?_ (congrArg assembled_calls kept)
    rw [cut_text, whole_text]
    simp [concat_append, concat, whole]
  · refine same (congrArg concat text) ?_
    rw [others_cut, one, assembled_calls_cut cut]

/-- A name for the call of index 1, then the arguments of the call of index 0 beside some content. -/
def two_payloads : Text → Except String StreamChunk
  | ['1'] => .ok ⟨[⟨none, some [⟨1, some "b", some ⟨some "read_file", none⟩⟩]⟩]⟩
  | ['2'] => .ok ⟨[⟨some "Done.", some [⟨0, none, some ⟨none, some "x"⟩⟩]⟩]⟩
  | _ => .error "expected value"

theorem two_payloads_assembled :
    ∃ events, chat_stream two_payloads .new [['1'], ['2']] =
      (events ++ [.Done], .ok (reply (concat (deltas events)) (assembled_calls (fragments two_payloads [['1'], ['2']])))) ∧
      concat (deltas events) = concat (texts two_payloads [['1'], ['2']]) :=
  (reply_assembled two_payloads [['1'], ['2']] fun payload inside => .inr (by
    simp only [List.mem_cons, List.not_mem_nil, or_false] at inside
    obtain rfl | rfl := inside
    · exact ⟨_, rfl⟩
    · exact ⟨_, rfl⟩)).1

end Riscdom.StreamedReplies
