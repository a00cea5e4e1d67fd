import Riscdom.BufferedRead

/-!
Frames off a connection. One frame is one line, and a session that waits for the
next takes a read that timed out for nothing to read yet.
-/
namespace Riscdom.Net
open Riscdom.BufferedRead

/-! ### The connection -/

def FRAME_TERMINATOR : UInt8 := 10

inductive TransportError
  | Timeout
  | Closed
  | TooLong (limit : Nat)
  | Malformed (why : String)
deriving DecidableEq

section
variable (limit : Nat) (reader : Reader UInt8)

/-- One raw frame, newline included. -/
def receive_frame : Except TransportError (List UInt8) × Reader UInt8 :=
  match read_until FRAME_TERMINATOR (limit + 1) [] reader.buffer reader.arrivals with
  | (none, reader) => (.error .Timeout, reader)
  | (some buffer, reader) =>
    if buffer = [] then (.error .Closed, reader)
    else if buffer.getLast? ≠ some FRAME_TERMINATOR then
      (.error (if buffer.length > limit then .TooLong limit else .Closed), reader)
    else (.ok buffer, reader)

variable {Message : Type} (parse : List UInt8 → Except TransportError Message)

/-- One message: a frame, and what its text is read as. -/
def Connection.receive : Except TransportError Message × Reader UInt8 :=
  match receive_frame limit reader with
  | (.ok frame, reader) => (parse frame, reader)
  | (.error error, reader) => (.error error, reader)

/-- What a session takes off its connection; a timeout is nothing yet. -/
def RelaySession.receive : Except TransportError (Option Message) × Reader UInt8 :=
  match Connection.receive limit reader parse with
  | (.ok message, reader) => (.ok (some message), reader)
  | (.error .Timeout, reader) => (.ok none, reader)
  | (.error error, reader) => (.error error, reader)

end

/-- The messages that so many calls return. -/
def received (limit : Nat) {Message : Type} (parse : List UInt8 → Except TransportError Message) :
    Nat → Reader UInt8 → List Message
  | 0, _ => []
  | calls + 1, reader =>
    match RelaySession.receive limit reader parse with
    | (.ok (some message), reader) => message :: received limit parse calls reader
    | (_, reader) => received limit parse calls reader

/-! ### What one call takes -/

/-- A frame within the limit. -/
structure Frame (limit : Nat) where
  bytes : List UInt8
  line : Line FRAME_TERMINATOR bytes
  short : bytes.length ≤ limit + 1

def stream {limit : Nat} (frames : List (Frame limit)) : List UInt8 := frames.flatMap Frame.bytes

/-- How many reads time out. -/
def timeouts (arrivals : List (Arrival UInt8)) : Nat := arrivals.countP Arrival.is_timeout

/-- The bytes before every read that times out are whole frames. -/
def Unbroken {limit : Nat} (frames : List (Frame limit)) (reader : Reader UInt8) : Prop :=
  ∀ before after, reader.arrivals = before ++ .timeout :: after →
    ∃ whole rest, frames = whole ++ rest ∧ reader.buffer ++ bytes_of before = stream whole

section
variable {limit : Nat} {Message : Type} (parse : List UInt8 → Except TransportError Message)

theorem receive_line {reader later : Reader UInt8} {frame : List UInt8} (is_line : Line FRAME_TERMINATOR frame)
    (took : read_until FRAME_TERMINATOR (limit + 1) [] reader.buffer reader.arrivals = (some frame, later)) :
    receive_frame limit reader = (.ok frame, later) := by
  obtain ⟨body, rfl, -⟩ := is_line
  rw [receive_frame, took]
  simp

/-- With a frame ahead, one call takes it, or a read times out inside it. -/
theorem receive_step {frame : Frame limit} {rest : List (Frame limit)} {reader : Reader UInt8}
    (ahead : reader.rest = stream (frame :: rest)) :
    (∃ used later, reader.arrivals = used ++ later.arrivals ∧ (∀ arrival ∈ used, arrival.is_timeout = false) ∧
      receive_frame limit reader = (.ok frame.bytes, later) ∧
      reader.buffer ++ bytes_of used = frame.bytes ++ later.buffer) ∨
    ∃ used after, reader.arrivals = used ++ .timeout :: after ∧ (∀ arrival ∈ used, arrival.is_timeout = false) ∧
      receive_frame limit reader = (.error .Timeout, ⟨[], after⟩) ∧
      (reader.buffer ++ bytes_of used).length < frame.bytes.length := by
  have room : frame.bytes.length ≤ ([] : List UInt8).length + (limit + 1) := by simpa using frame.short
  rcases read_until_line frame.line List.not_mem_nil room (show [] ++ reader.buffer ++ bytes_of reader.arrivals = _ from ahead) with
    ⟨used, after, left, split, prompt, took, same⟩ | ⟨used, after, split, prompt, missed, short⟩
  · exact .inl ⟨used, ⟨left, after⟩, split, prompt, receive_line frame.line took, same⟩
  · refine .inr ⟨used, after, split, prompt, ?_, short⟩
    rw [receive_frame, missed]

/-- With nothing ahead, a call fails. -/
theorem receive_nothing {reader : Reader UInt8} (empty : reader.rest = []) :
    ∃ error later, receive_frame limit reader = (.error error, later) ∧ later.rest = [] := by
  obtain ⟨buffer, arrivals⟩ := reader
  obtain ⟨rfl, dry⟩ := List.append_eq_nil_iff.mp empty
  have absent : first_line FRAME_TERMINATOR (([] : List UInt8).take (limit + 1)) = none := rfl
  cases arrivals with
  | nil =>
    refine ⟨.Closed, ⟨[], []⟩, ?_, rfl⟩
    rw [receive_frame, read_until_empty absent (Nat.succ_pos limit)]
    rfl
  | cons arrival arrivals =>
    cases arrival with
    | timeout =>
      refine ⟨.Timeout, ⟨[], arrivals⟩, ?_, dry⟩
      rw [receive_frame, read_until_timeout absent (Nat.succ_pos limit)]
    | chunk bytes filled => exact absurd (List.append_eq_nil_iff.mp dry).1 filled

theorem received_frame {reader later : Reader UInt8} {frame : List UInt8} {message : Message} (calls : Nat)
    (took : receive_frame limit reader = (.ok frame, later)) (parsed : parse frame = .ok message) :
    received limit parse (calls + 1) reader = message :: received limit parse calls later := by
  rw [received, RelaySession.receive, Connection.receive, took]
  simp only [parsed]

theorem received_error {reader later : Reader UInt8} {error : TransportError} (calls : Nat)
    (failed : receive_frame limit reader = (.error error, later)) :
    received limit parse (calls + 1) reader = received limit parse calls later := by
  rw [received, RelaySession.receive, Connection.receive, failed]
  cases error <;> rfl

theorem received_nothing {reader : Reader UInt8} (empty : reader.rest = []) (calls : Nat) :
    received limit parse calls reader = [] := by
  induction calls generalizing reader with
  | zero => rfl
  | succ calls ih =>
    obtain ⟨error, later, failed, dry⟩ := @receive_nothing limit _ empty
    rw [received_error parse calls failed, ih dry]

/-! ### Where no frame is broken -/

theorem frame_length_pos (frame : Frame limit) : 0 < frame.bytes.length := by
  obtain ⟨body, same, -⟩ := frame.line
  simp [same]

theorem Unbroken.after_frame {frame : Frame limit} {rest : List (Frame limit)} {reader later : Reader UInt8}
    {used : List (Arrival UInt8)} (unbroken : Unbroken (frame :: rest) reader) (split : reader.arrivals = used ++ later.arrivals)
    (same : reader.buffer ++ bytes_of used = frame.bytes ++ later.buffer) : Unbroken rest later := by
  intro before after arrivals
  obtain ⟨whole, others, frames, bytes⟩ := unbroken (used ++ before) after (by rw [split, arrivals, List.append_assoc])
  rw [bytes_of_append, ← List.append_assoc, same] at bytes
  cases whole with
  | nil =>
    have long := congrArg List.length bytes
    have pos := frame_length_pos frame
    simp only [stream, List.flatMap_nil, List.length_append, List.length_nil] at long
    omega
  | cons first whole =>
    rw [List.cons_append, List.cons.injEq] at frames
    obtain ⟨rfl, rfl⟩ := frames
    refine ⟨whole, others, rfl, ?_⟩
    rwa [stream, List.flatMap_cons, List.append_assoc, List.append_cancel_left_eq] at bytes

theorem rest_after_frame {frame : Frame limit} {rest : List (Frame limit)} {reader later : Reader UInt8}
    {used : List (Arrival UInt8)} (ahead : reader.rest = stream (frame :: rest)) (split : reader.arrivals = used ++ later.arrivals)
    (same : reader.buffer ++ bytes_of used = frame.bytes ++ later.buffer) : later.rest = stream rest := by
  have whole : reader.buffer ++ bytes_of used ++ bytes_of later.arrivals = frame.bytes ++ stream rest := by
    rw [List.append_assoc, ← bytes_of_append, ← split]
    exact ahead
  rw [same, List.append_assoc, List.append_cancel_left_eq] at whole
  exact whole

/-- A read that times out before a frame has come takes nothing. -/
theorem Unbroken.at_timeout {frame : Frame limit} {rest : List (Frame limit)} {reader : Reader UInt8}
    {used after : List (Arrival UInt8)} (unbroken : Unbroken (frame :: rest) reader)
    (split : reader.arrivals = used ++ .timeout :: after) (prompt : ∀ arrival ∈ used, arrival.is_timeout = false)
    (short : (reader.buffer ++ bytes_of used).length < frame.bytes.length) :
    used = [] ∧ reader.buffer = [] ∧ Unbroken (frame :: rest) ⟨[], after⟩ := by
  have empty : reader.buffer ++ bytes_of used = [] := by
    obtain ⟨whole, others, frames, bytes⟩ := unbroken used after split
    cases whole with
    | nil => exact bytes
    | cons first whole =>
      rw [List.cons_append, List.cons.injEq] at frames
      obtain ⟨rfl, rfl⟩ := frames
      rw [bytes, stream, List.flatMap_cons, List.length_append] at short
      omega
  obtain ⟨buffer, dry⟩ := List.append_eq_nil_iff.mp empty
  obtain rfl := eq_nil_of_bytes_of dry prompt
  refine ⟨rfl, buffer, fun before later arrivals => ?_⟩
  obtain ⟨whole, others, frames, bytes⟩ := unbroken (.timeout :: before) later (by rw [split, show after = _ from arrivals]; rfl)
  exact ⟨whole, others, frames, by simpa [buffer] using bytes⟩

theorem received_unbroken {frames : List (Frame limit)} {reader : Reader UInt8} {messages : List Message}
    (ahead : reader.rest = stream frames) (unbroken : Unbroken frames reader)
    (parsed : frames.map (fun frame => parse frame.bytes) = messages.map .ok) (calls : Nat) :
    received limit parse calls reader <+: messages ∧
      (frames.length + timeouts reader.arrivals ≤ calls → received limit parse calls reader = messages) := by
  induction calls generalizing frames reader messages with
  | zero =>
    refine ⟨List.nil_prefix, fun enough => ?_⟩
    have none : frames = [] := List.eq_nil_of_length_eq_zero (by omega)
    subst none
    cases messages with
    | nil => rfl
    | cons message messages => cases parsed
  | succ calls ih =>
    cases frames with
    | nil =>
      rw [received_nothing parse ahead]
      refine ⟨List.nil_prefix, fun _ => ?_⟩
      cases messages with
      | nil => rfl
      | cons message messages => cases parsed
    | cons frame rest =>
      cases messages with
      | nil => cases parsed
      | cons message messages =>
        rw [List.map_cons, List.map_cons, List.cons.injEq] at parsed
        rcases receive_step ahead with ⟨used, later, split, prompt, took, same⟩ | ⟨used, after, split, prompt, missed, short⟩
        · have further := rest_after_frame ahead split same
          have fewer : timeouts reader.arrivals = timeouts later.arrivals := by
            rw [split, timeouts, List.countP_append, List.countP_eq_zero.mpr (by simpa using prompt), Nat.zero_add]
            rfl
          obtain ⟨begins, all⟩ := ih further (unbroken.after_frame split same) parsed.2
          rw [received_frame parse calls took parsed.1, fewer]
          refine ⟨(List.prefix_cons_inj message).mpr begins, fun enough => ?_⟩
          rw [all (by rw [List.length_cons] at enough; omega)]
        · obtain ⟨rfl, buffer, still⟩ := unbroken.at_timeout split prompt short
          have same : Reader.rest ⟨[], after⟩ = stream (frame :: rest) := by
            rw [← ahead, Reader.rest, Reader.rest, split, buffer]
            rfl
          have one : timeouts reader.arrivals = timeouts after + 1 := by
            rw [split, timeouts, List.nil_append, List.countP_cons_of_pos rfl]
            rfl
          obtain ⟨begins, all⟩ := @ih (frame :: rest) ⟨[], after⟩ (message :: messages) same still (by simp [parsed])
          rw [received_error parse calls missed, one]
          exact ⟨begins, fun enough => all (show (frame :: rest).length + timeouts after ≤ calls by omega)⟩

/-! ### Where one is -/

theorem receive_bounded {reader later : Reader UInt8} {result : Except TransportError (List UInt8)}
    (outcome : receive_frame limit reader = (result, later)) :
    (result.toOption.getD []).length + later.rest.length ≤ reader.rest.length := by
  have bound := read_until_bounded FRAME_TERMINATOR (limit + 1) [] reader.buffer reader.arrivals
  rw [receive_frame] at outcome
  rcases took : read_until FRAME_TERMINATOR (limit + 1) [] reader.buffer reader.arrivals with ⟨taken | taken, after⟩
  · rw [took] at outcome bound
    cases outcome
    simpa [Reader.rest, Except.toOption] using bound
  · rw [took] at outcome bound
    simp only at outcome
    have less : after.rest.length ≤ reader.rest.length := by
      simp [Reader.rest] at bound ⊢
      omega
    split_ifs at outcome <;> cases outcome
    · simpa [Except.toOption] using less
    · simpa [Except.toOption] using less
    · simpa [Except.toOption] using less
    · simpa [Reader.rest, Except.toOption] using bound

theorem received_bounded (calls : Nat) (reader : Reader UInt8) :
    (received limit .ok calls reader).flatten.length ≤ reader.rest.length := by
  induction calls generalizing reader with
  | zero => exact Nat.zero_le _
  | succ calls ih =>
    rcases outcome : receive_frame limit reader with ⟨error | frame, later⟩
    · have less := receive_bounded outcome
      rw [received_error .ok calls outcome]
      exact Nat.le_trans (ih later) (Nat.le_trans (Nat.le_add_left _ _) less)
    · have less := receive_bounded outcome
      have rest := ih later
      rw [received_frame .ok calls outcome rfl, List.flatten_cons, List.length_append]
      simp only [Except.toOption, Option.getD_some] at less
      omega

/-- Before the end of a stream with nothing ahead, no bytes came. -/
theorem unbroken_nothing {reader : Reader UInt8} (empty : reader.rest = []) : Unbroken ([] : List (Frame limit)) reader := by
  intro before after arrivals
  refine ⟨[], [], rfl, ?_⟩
  rw [Reader.rest, arrivals, bytes_of_append, ← List.append_assoc, List.append_eq_nil_iff] at empty
  exact empty.1

/-- The reads before a timeout, where so many did not time out. -/
theorem split_after {used later before after : List (Arrival UInt8)} (prompt : ∀ arrival ∈ used, arrival.is_timeout = false)
    (same : used ++ later = before ++ .timeout :: after) : ∃ more, before = used ++ more ∧ later = more ++ .timeout :: after := by
  rcases List.append_eq_append_iff.mp same with ⟨more, rfl, rest⟩ | ⟨more, rfl, rest⟩
  · exact ⟨more, rfl, rest⟩
  · cases more with
    | nil => exact ⟨[], by simp, by simpa using rest.symm⟩
    | cons arrival more =>
      rw [List.cons_append, List.cons.injEq] at rest
      have late := prompt arrival (by simp)
      rw [← rest.1] at late
      cases late

theorem unbroken_of_received {frames : List (Frame limit)} {reader : Reader UInt8} (ahead : reader.rest = stream frames)
    (calls : Nat) (all : received limit .ok calls reader = frames.map Frame.bytes) : Unbroken frames reader := by
  induction calls generalizing frames reader with
  | zero =>
    have none : frames = [] := List.map_eq_nil_iff.mp all.symm
    subst none
    exact unbroken_nothing ahead
  | succ calls ih =>
    cases frames with
    | nil => exact unbroken_nothing ahead
    | cons frame rest =>
      rcases receive_step ahead with ⟨used, later, split, prompt, took, same⟩ | ⟨used, after, split, prompt, missed, short⟩
      · rw [received_frame .ok calls took rfl, List.map_cons, List.cons.injEq] at all
        have further := rest_after_frame ahead split same
        intro before after arrivals
        obtain ⟨more, rfl, at_timeout⟩ := split_after prompt (split.symm.trans arrivals)
        obtain ⟨whole, others, rfl, bytes⟩ := ih further all.2 more after at_timeout
        refine ⟨frame :: whole, others, rfl, ?_⟩
        rw [bytes_of_append, ← List.append_assoc, same, List.append_assoc, bytes]
        rfl
      · -- The bytes that were taken before the timeout are gone, so there were none.
        rw [received_error .ok calls missed] at all
        have bound := @received_bounded limit calls ⟨[], after⟩
        have whole := congrArg List.length ahead
        have again : (stream (frame :: rest)).length = ((frame :: rest).map Frame.bytes).flatten.length := by
          rw [stream, List.flatMap]
        rw [all, ← again, ← whole, Reader.rest, Reader.rest, split, bytes_of_append, bytes_of_timeout] at bound
        simp only [List.length_append, List.nil_append] at bound
        have buffer : reader.buffer = [] := List.eq_nil_of_length_eq_zero (by omega)
        have dry : bytes_of used = [] := List.eq_nil_of_length_eq_zero (by omega)
        obtain rfl := eq_nil_of_bytes_of dry prompt
        have same : Reader.rest ⟨[], after⟩ = stream (frame :: rest) := by
          rw [← ahead, Reader.rest, Reader.rest, split, buffer]
          rfl
        intro before later arrivals
        rw [split] at arrivals
        cases before with
        | nil => exact ⟨[], frame :: rest, rfl, by rw [buffer]; rfl⟩
        | cons arrival before =>
          rw [List.nil_append, List.cons_append, List.cons.injEq] at arrivals
          obtain ⟨rfl, rest_of⟩ := arrivals
          obtain ⟨whole, others, frames, bytes⟩ := ih same all before later rest_of
          exact ⟨whole, others, frames, by rw [buffer]; exact bytes⟩

/-! ### Any splitting of a stream -/

/-- A way for a stream to arrive: split into chunks somehow, with timeouts between them. -/
structure Splitting (frames : List (Frame limit)) where
  arrivals : List (Arrival UInt8)
  carried : bytes_of arrivals = stream frames

/-- Repeated calls return the messages of the stream in order, however a frame is read as a message. -/
def Delivers {frames : List (Frame limit)} (splitting : Splitting frames) : Prop :=
  ∀ (Message : Type) (parse : List UInt8 → Except TransportError Message) (messages : List Message),
    frames.map (fun frame => parse frame.bytes) = messages.map .ok → ∀ calls,
      received limit parse calls ⟨[], splitting.arrivals⟩ <+: messages ∧
        (frames.length + timeouts splitting.arrivals ≤ calls → received limit parse calls ⟨[], splitting.arrivals⟩ = messages)

/-- They do so exactly where no read times out inside a frame. -/
theorem delivers_unbroken (limit : Nat) (frames : List (Frame limit)) (splitting : Splitting frames) :
    Delivers splitting ↔ Unbroken frames ⟨[], splitting.arrivals⟩ := by
  have ahead : Reader.rest ⟨[], splitting.arrivals⟩ = stream frames := splitting.carried
  constructor
  · intro delivers
    have all := (delivers (List UInt8) .ok (frames.map Frame.bytes) (by simp) _).2 (Nat.le_refl _)
    exact unbroken_of_received ahead _ all
  · intro unbroken Message parse messages parsed calls
    exact received_unbroken parse ahead unbroken parsed calls

/-- The frame of an empty object. -/
def empty_object : Frame 1048576 where
  bytes := [123, 125, 10]
  line := ⟨[123, 125], rfl, by decide⟩
  short := by decide

/-- It arrives in two pieces, with a timeout between them. -/
def in_two : Splitting [empty_object] where
  arrivals := [.chunk [123] (by simp), .timeout, .chunk [125, 10] (by simp)]
  carried := rfl

/-- The first piece is lost, and the second taken for a frame. -/
theorem in_two_truncated : ¬ Delivers in_two := by
  intro delivers
  have all := (delivers (List UInt8) .ok [[123, 125, 10]] rfl 2).2 (by decide)
  have truncated : received 1048576 .ok 2 ⟨[], in_two.arrivals⟩ = [[125, 10]] := rfl
  rw [truncated] at all
  simp at all

end

end Riscdom.Net
