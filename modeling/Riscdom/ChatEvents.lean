import Riscdom.EventReaders

/-!
The events of a streamed chat completion: the lines as the accumulator takes
them, beside the events as the format has them, where an empty line alone ends
an event and every other line that is no data is passed over.
-/
namespace Riscdom.ChatEvents
open Riscdom.Text (trim_end white)
open Riscdom.EventReaders (Text newline stripped joined trim_end_after)

/-! ### The accumulator -/

inductive SseEvent
  | Data (payload : Text)
  | Done
  | Ignore
deriving DecidableEq

def DATA : Text := ['d', 'a', 't', 'a', ':']
def DONE : Text := ['[', 'D', 'O', 'N', 'E', ']']

def trim (text : Text) : Text := trim_end white (text.dropWhile white)

def parse_sse_line (line : Text) : SseEvent :=
  let without_eol := trim_end newline line
  if trim without_eol = [] then .Ignore else
  let trimmed := without_eol.dropWhile white
  if trimmed.head? = some ':' then .Ignore else
  match stripped DATA trimmed with
  | some rest =>
    let payload := (stripped [' '] rest).getD rest
    if trim payload = DONE then .Done else .Data payload
  | none => .Ignore

/-- The data of an event so far, and whether the terminator has been seen. -/
structure SseAccumulator where
  parts : List Text
  done : Bool

namespace SseAccumulator

def new : SseAccumulator := ⟨[], false⟩

/-- The buffered payload, if there is one. -/
def flush (acc : SseAccumulator) : Option Text × SseAccumulator :=
  if acc.parts = [] then (none, acc) else (some (joined acc.parts), { acc with parts := [] })

/-- One line, and the payload of the event it ends. -/
def feed (acc : SseAccumulator) (line : Text) : Option Text × SseAccumulator :=
  match parse_sse_line line with
  | .Done => (none, { acc with done := true })
  | .Data payload => (none, { acc with parts := acc.parts ++ [payload] })
  | .Ignore => acc.flush

/-- The payloads of a stream: each line fed, up to the terminator, and one flush at the end. -/
def payloads (acc : SseAccumulator) : List Text → List Text
  | [] => acc.flush.1.toList
  | line :: rest =>
    let (payload, next) := acc.feed line
    payload.toList ++ if next.done then next.flush.1.toList else payloads next rest

end SseAccumulator

/-! ### The format -/

/-- What a line is to the format. A comment, and a field of another name, is `other`. -/
inductive FormatLine
  | empty
  | data (value : Text)
  | terminator
  | other

/-- The field `data`, with a colon and its value after one optional blank, or alone. -/
def format_line (line : Text) : FormatLine :=
  let text := trim_end newline line
  if text = [] then .empty else
  match stripped DATA text with
  | some rest =>
    let value := (stripped [' '] rest).getD rest
    if trim value = DONE then .terminator else .data value
  | none => if text = ['d', 'a', 't', 'a'] then .data [] else .other

/-- The event that data lines make. -/
def emitted (parts : List Text) : List Text := if parts = [] then [] else [joined parts]

/-- The data of the events up to the terminator or the end of the stream. -/
def events (parts : List Text) : List Text → List Text
  | [] => emitted parts
  | line :: rest =>
    match format_line line with
    | .empty => emitted parts ++ events [] rest
    | .data value => events (parts ++ [value]) rest
    | .terminator => emitted parts
    | .other => events parts rest

/-- Wherever the stream ends, the payloads are the events up to there. -/
def Reads (lines : List Text) : Prop := ∀ n, SseAccumulator.new.payloads (lines.take n) = events [] (lines.take n)

/-! ### Where the two agree -/

/-- No data up to the terminator. -/
def NoData : List Text → Prop
  | [] => True
  | line :: rest =>
    match format_line line with
    | .terminator => True
    | .data _ => False
    | _ => NoData rest

/-- Each data line is read as one, and no other line is; and within an event no other line stands between two data lines.
    Behind an indented terminator, which is no terminator to the format, there is no data. -/
def Undivided (begun broken : Bool) : List Text → Prop
  | [] => True
  | line :: rest =>
    match format_line line with
    | .terminator => True
    | .empty => Undivided false false rest
    | .data value => parse_sse_line line = .Data value ∧ broken = false ∧ Undivided true false rest
    | .other =>
      match parse_sse_line line with
      | .Data _ => False
      | .Done => NoData rest
      | .Ignore => Undivided begun begun rest

theorem stripped_eq_some {start text rest : Text} (found : stripped start text = some rest) : text = start ++ rest := by
  induction start generalizing text with
  | nil =>
    cases found
    rfl
  | cons c start ih =>
    cases text with
    | nil => cases found
    | cons d text =>
      rw [stripped] at found
      split_ifs at found with same
      rw [same, ih found]
      rfl

/-- A line that starts with a letter is not blank, and nothing is trimmed in front of it. -/
theorem starts_plain {c : Char} (plain : white c = false) (text : Text) :
    trim (c :: text) ≠ [] ∧ (c :: text).dropWhile white = c :: text := by
  have kept : (c :: text).dropWhile white = c :: text := List.dropWhile_cons_of_neg (by simp [plain])
  refine ⟨?_, kept⟩
  have whole := trim_end_after plain [] text
  rw [trim, kept]
  intro gone
  rw [List.nil_append, gone] at whole
  cases whole

theorem parse_blank {line : Text} (blank : trim_end newline line = []) : parse_sse_line line = .Ignore := by
  rw [parse_sse_line, blank]
  decide

/-- A line with the name of the field and its colon is read as the format has it. -/
theorem parse_named {line rest : Text} (found : stripped DATA (trim_end newline line) = some rest) :
    parse_sse_line line =
      if trim ((stripped [' '] rest).getD rest) = DONE then .Done else .Data ((stripped [' '] rest).getD rest) := by
  have whole : trim_end newline line = 'd' :: (['a', 't', 'a', ':'] ++ rest) := stripped_eq_some found
  obtain ⟨solid, kept⟩ := starts_plain (show white 'd' = false by decide) (['a', 't', 'a', ':'] ++ rest)
  rw [← whole] at solid kept
  have head : (trim_end newline line).head? ≠ some ':' := by simp [whole]
  rw [parse_sse_line]
  simp only [solid, if_false, kept, head, found]

theorem format_line_eq (line : Text) : format_line line =
    if trim_end newline line = [] then .empty else
    match stripped DATA (trim_end newline line) with
    | some rest =>
      if trim ((stripped [' '] rest).getD rest) = DONE then .terminator else .data ((stripped [' '] rest).getD rest)
    | none => if trim_end newline line = ['d', 'a', 't', 'a'] then .data [] else .other := rfl

theorem parse_empty {line : Text} (empty : format_line line = .empty) : parse_sse_line line = .Ignore := by
  rw [format_line_eq] at empty
  by_cases blank : trim_end newline line = []
  · exact parse_blank blank
  · rw [if_neg blank] at empty
    cases found : stripped DATA (trim_end newline line) with
    | none =>
      simp only [found] at empty
      split_ifs at empty
    | some rest =>
      simp only [found] at empty
      split_ifs at empty

theorem parse_terminator {line : Text} (last : format_line line = .terminator) : parse_sse_line line = .Done := by
  rw [format_line_eq] at last
  by_cases blank : trim_end newline line = []
  · simp [blank] at last
  · rw [if_neg blank] at last
    cases found : stripped DATA (trim_end newline line) with
    | none =>
      simp only [found] at last
      split_ifs at last
    | some rest =>
      simp only [found] at last
      split_ifs at last with done
      rw [parse_named found, if_pos done]

/-- A data line is read as one, but for the field's name alone. -/
theorem parse_data {line value : Text} (data : format_line line = .data value) :
    parse_sse_line line = .Data value ∨ parse_sse_line line = .Ignore := by
  rw [format_line_eq] at data
  by_cases blank : trim_end newline line = []
  · simp [blank] at data
  · rw [if_neg blank] at data
    cases found : stripped DATA (trim_end newline line) with
    | none =>
      simp only [found] at data
      split_ifs at data with bare
      right
      rw [parse_sse_line, bare]
      decide
    | some rest =>
      simp only [found] at data
      split_ifs at data with done
      cases data
      exact .inl (by rw [parse_named found, if_neg done])

/-! ### Payloads and events, line by line -/

section Lines
variable {line : Text} {value : Text} (parts rest : List Text)

theorem flush_eq (parts : List Text) (done : Bool) : (SseAccumulator.mk parts done).flush.1.toList = emitted parts := by
  rw [SseAccumulator.flush, emitted]
  split_ifs <;> rfl

theorem payloads_nil : (SseAccumulator.mk parts false).payloads [] = emitted parts := by
  rw [SseAccumulator.payloads, flush_eq]

theorem payloads_data (read : parse_sse_line line = .Data value) :
    (SseAccumulator.mk parts false).payloads (line :: rest) = (SseAccumulator.mk (parts ++ [value]) false).payloads rest := by
  simp [SseAccumulator.payloads, SseAccumulator.feed, read]

theorem payloads_done (read : parse_sse_line line = .Done) :
    (SseAccumulator.mk parts false).payloads (line :: rest) = emitted parts := by
  simp [SseAccumulator.payloads, SseAccumulator.feed, read, flush_eq]

theorem payloads_ignore (read : parse_sse_line line = .Ignore) :
    (SseAccumulator.mk parts false).payloads (line :: rest) = emitted parts ++ (SseAccumulator.mk [] false).payloads rest := by
  simp only [SseAccumulator.payloads, SseAccumulator.feed, read, SseAccumulator.flush, emitted]
  by_cases none_left : parts = []
  · simp [none_left]
  · simp [none_left]

/-- One more data line makes the last event longer. -/
theorem emitted_snoc_ne (value : Text) : emitted (parts ++ [value]) ≠ emitted parts := by
  have longer (first : Text) (others : List Text) :
      (joined (first :: others)).length < (joined (first :: others ++ [value])).length := by
    induction others generalizing first with
    | nil => simp [joined, List.intercalate]
    | cons second others ih =>
      have more := ih second
      simp only [joined, List.cons_append, List.intercalate_cons_cons, List.length_append] at more ⊢
      omega
  cases parts with
  | nil => simp [emitted]
  | cons first others =>
    intro same
    simp only [emitted, List.cons_append, reduceCtorEq, if_false, List.cons.injEq, and_true] at same
    have shorter := longer first others
    rw [List.cons_append, same] at shorter
    omega

/-- What holds of a stream wherever it ends holds of the empty one, and after its first line wherever the rest ends. -/
theorem all_takes {first : Text} {holds : List Text → Prop} (start : holds []) :
    (∀ n, holds ((first :: rest).take n)) ↔ ∀ n, holds (first :: rest.take n) := by
  constructor
  · intro all n
    exact all (n + 1)
  · intro all n
    cases n with
    | zero => exact start
    | succ n => exact all n

/-- Without data nothing is added to what was begun. -/
theorem no_data_iff : (∀ n, events parts (rest.take n) = emitted parts) ↔ NoData rest := by
  induction rest generalizing parts with
  | nil => simp [events, NoData]
  | cons line rest ih =>
    have takes := @all_takes rest line (fun stream => events parts stream = emitted parts) rfl
    rw [takes, NoData]
    simp only [events]
    cases kind : format_line line with
    | empty =>
      simp only
      rw [← ih []]
      simp [emitted]
    | data value =>
      simp only [iff_false]
      intro same
      have first := same 0
      rw [List.take_zero, events] at first
      exact emitted_snoc_ne parts value first
    | terminator => simp
    | other => exact ih parts

end Lines

/-! ### The events of a stream -/

/-- The data begun in an event are in the accumulator, or another line has already sent them out. -/
theorem undivided_iff (lines : List Text) :
    (∀ parts, (∀ n, (SseAccumulator.mk parts false).payloads (lines.take n) = events parts (lines.take n)) ↔
      Undivided (decide (parts ≠ [])) false lines) ∧
    ∀ sent, sent ≠ [] →
      ((∀ n, emitted sent ++ (SseAccumulator.mk [] false).payloads (lines.take n) = events sent (lines.take n)) ↔
        Undivided true true lines) := by
  induction lines with
  | nil =>
    refine ⟨fun parts => ?_, fun sent _ => ?_⟩
    · simp [payloads_nil, events, Undivided]
    · simp [payloads_nil, events, Undivided, emitted]
  | cons line rest ih =>
    obtain ⟨buffered, ahead⟩ := ih
    have fresh := buffered []
    rw [show decide (([] : List Text) ≠ []) = false by decide] at fresh
    refine ⟨fun parts => ?_, fun sent begun => ?_⟩
    · have takes := @all_takes rest line (fun stream => (SseAccumulator.mk parts false).payloads stream = events parts stream)
        (by rw [payloads_nil, events])
      rw [takes, Undivided]
      simp only [events]
      cases kind : format_line line with
      | empty =>
        simp only [payloads_ignore _ _ (parse_empty kind), List.append_cancel_left_eq]
        exact fresh
      | terminator => simp [payloads_done _ _ (parse_terminator kind)]
      | data value =>
        simp only
        rcases parse_data kind with read | bare
        · simp only [payloads_data _ _ read, read, true_and]
          rw [buffered (parts ++ [value])]
          simp
        · simp only [bare, reduceCtorEq, false_and, iff_false]
          intro same
          have first := same 0
          rw [payloads_ignore _ _ bare, List.take_zero, payloads_nil, events] at first
          exact emitted_snoc_ne parts value (by simpa [emitted] using first.symm)
      | other =>
        simp only
        cases read : parse_sse_line line with
        | Data value =>
          simp only [iff_false]
          intro same
          have first := same 0
          rw [payloads_data _ _ read, List.take_zero, payloads_nil, events] at first
          exact emitted_snoc_ne parts value first
        | Done =>
          simp only [payloads_done _ _ read]
          rw [← no_data_iff parts rest]
          simp only [eq_comm]
        | Ignore =>
          simp only [payloads_ignore _ _ read]
          by_cases none_begun : parts = []
          · subst none_begun
            exact fresh
          · rw [ahead parts none_begun]
            simp [none_begun]
    · have takes := @all_takes rest line
        (fun stream => emitted sent ++ (SseAccumulator.mk [] false).payloads stream = events sent stream)
        (by rw [payloads_nil, events]; simp [emitted])
      rw [takes, Undivided]
      simp only [events]
      cases kind : format_line line with
      | empty =>
        simp only [payloads_ignore _ _ (parse_empty kind), List.append_cancel_left_eq]
        exact fresh
      | terminator => simp [payloads_done _ _ (parse_terminator kind), emitted]
      | data value =>
        simp only [reduceCtorEq, false_and, and_false, iff_false]
        intro same
        have first := same 0
        rw [List.take_zero, events] at first
        rcases parse_data kind with read | bare
        · rw [payloads_data _ _ read, payloads_nil] at first
          have lengths := congrArg List.length first
          simp [emitted, begun] at lengths
        · rw [payloads_ignore _ _ bare, payloads_nil] at first
          exact emitted_snoc_ne sent value (by simpa [emitted] using first.symm)
      | other =>
        simp only
        cases read : parse_sse_line line with
        | Data value =>
          simp only [iff_false]
          intro same
          have first := same 0
          rw [payloads_data _ _ read, List.take_zero, payloads_nil, events] at first
          have lengths := congrArg List.length first
          simp [emitted, begun] at lengths
        | Done =>
          simp only [payloads_done _ _ read]
          rw [← no_data_iff sent rest]
          simp only [emitted, if_true, List.append_nil, eq_comm]
        | Ignore =>
          simp only [payloads_ignore _ _ read]
          exact ahead sent begun

/-- The payloads are the events of the format, wherever the stream ends, exactly where every event is undivided. -/
theorem chat_events_iff (lines : List Text) : Reads lines ↔ Undivided false false lines :=
  (undivided_iff lines).1 []

/-- Two data lines of one event, with a comment between them. -/
def kept_alive : List Text :=
  [['d', 'a', 't', 'a', ':', ' ', 'a'], [':', ' ', 'p', 'i', 'n', 'g'], ['d', 'a', 't', 'a', ':', ' ', 'b'], []]

/-- The comment ends the event. -/
theorem comment_divides : ¬ ∀ lines : List Text, Reads lines := by
  intro reads
  exact absurd (reads kept_alive 4) (by decide)

example : SseAccumulator.new.payloads kept_alive = [['a'], ['b']] ∧ events [] kept_alive = [['a', '\n', 'b']] := by decide

end Riscdom.ChatEvents
