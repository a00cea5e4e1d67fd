import Mathlib.Data.List.Basic
import Riscdom.Text

/-!
The two readers of the event stream, the one of the command line and the one of
the development kit, beside the stream as it is written: lines of ids and of
payloads, comments, and a blank line after each frame. What the two return from
a stream that is cut after some line, and when that is what was written.
-/
namespace Riscdom.EventReaders
open Riscdom.Text

/-! ### The readers -/

abbrev Text : Type := List Char

structure Frame where
  id : Option Text
  data : Text
deriving DecidableEq

inductive StreamError
  | Local (message : String)
  | Transport (message : String)
deriving DecidableEq

/-- What the reads of lines to come answer: a line with its terminator, or an error. Where none is left the stream is over. -/
abbrev Reader : Type := List (Except String Text)

def newline (c : Char) : Bool := c == '\n' || c == '\r'

/-- The text after a prefix that it has. -/
def stripped : Text → Text → Option Text
  | [], text => some text
  | _ :: _, [] => none
  | c :: start, d :: text => if c = d then stripped start text else none

/-- What a line that is not blank adds to its frame. -/
inductive Field
  | id (value : Text)
  | data (value : Text)
  | ignored

/-- Where the readers differ: the field a line is read as, the frame that is left when the stream ends within one, and the
    error of a read that failed. -/
structure Dialect where
  field : Text → Field
  unfinished : Option Text → List Text → Option Frame
  broken : String → StreamError

/-- Payload lines of one frame, joined. -/
def joined (data : List Text) : Text := List.intercalate ['\n'] data

/-- The lines up to the blank one that closes a frame. -/
def read_frame (d : Dialect) (id : Option Text) (data : List Text) : Reader → Except StreamError (Option Frame) × Reader
  | [] => (.ok (d.unfinished id data), [])
  | .error e :: rest => (.error (d.broken e), rest)
  | .ok line :: rest =>
    let text := trim_end newline line
    if text = [] then
      if data = [] ∧ id = none then read_frame d id data rest else (.ok (some ⟨id, joined data⟩), rest)
    else
      match d.field text with
      | .id value => read_frame d (some value) data rest
      | .data value => read_frame d id (data ++ [value]) rest
      | .ignored => read_frame d id data rest

/-- The reader of the command line. A frame that was started but not closed is still a frame. -/
def SseStream.dialect : Dialect where
  field text :=
    match stripped ['i', 'd', ':', ' '] text with
    | some value => .id value
    | none =>
      match stripped ['d', 'a', 't', 'a', ':', ' '] text with
      | some value => .data value
      | none => .ignored
  unfinished id data := if data = [] then none else some ⟨id, joined data⟩
  broken e := .Local ("the event stream broke: " ++ e)

def SseStream.next_frame (reader : Reader) : Except StreamError (Option Frame) × Reader :=
  read_frame SseStream.dialect none [] reader

/-- The reader of the development kit. A frame that was not closed is none. -/
def Subscription.dialect : Dialect where
  field text :=
    if text.head? = some ':' then .ignored else
    match stripped ['i', 'd', ':'] text with
    | some rest => .id (rest.dropWhile white)
    | none =>
      match stripped ['d', 'a', 't', 'a', ':'] text with
      | some rest => .data (rest.dropWhile white)
      | none => .ignored
  unfinished _ _ := none
  broken e := .Transport e

structure Subscription where
  reader : Reader
  last_id : Option Text

def Subscription.next_frame (s : Subscription) : Except StreamError (Option Frame) × Subscription :=
  match read_frame Subscription.dialect none [] s.reader with
  | (.ok (some frame), reader) => (.ok (some frame), ⟨reader, frame.id.or s.last_id⟩)
  | (.ok none, reader) => (.ok none, ⟨reader, s.last_id⟩)
  | (.error error, reader) => (.error error, ⟨reader, s.last_id⟩)

/-- A reader returns these frames, one call after another, and then says that the stream is over. -/
inductive Returns {S : Type} (next : S → Except StreamError (Option Frame) × S) : S → List Frame → Prop
  | over_now {s t : S} (ended : next s = (.ok none, t)) : Returns next s []
  | frame {s t : S} {frame : Frame} {frames : List Frame} (read : next s = (.ok (some frame), t))
      (rest : Returns next t frames) : Returns next s (frame :: frames)

/-! ### The stream as it is written -/

/-- A text that fits on a line. -/
abbrev LineText : Type := { text : Text // '\n' ∉ text }

/-- A frame with the comments that stand between its lines. -/
structure WrittenFrame where
  id : Option LineText
  comments : List LineText
  data : LineText
  more : List LineText

inductive Piece
  | comment (text : LineText)
  | blank
  | frame (written : WrittenFrame)

def comment_line (text : LineText) : Text := ':' :: (text.val ++ ['\n'])
def id_line (text : LineText) : Text := ['i', 'd', ':', ' '] ++ text.val ++ ['\n']
def data_line (text : LineText) : Text := ['d', 'a', 't', 'a', ':', ' '] ++ text.val ++ ['\n']
def blank_line : Text := ['\n']

namespace WrittenFrame
variable (f : WrittenFrame)

def frame : Frame := ⟨f.id.map Subtype.val, f.data.val⟩

/-- The lines before the payload. -/
def opening : List Text := (f.id.map id_line).toList ++ f.comments.map comment_line
def lines : List Text := f.opening ++ data_line f.data :: (f.more.map comment_line ++ [blank_line])

end WrittenFrame

def Piece.lines : Piece → List Text
  | .comment text => [comment_line text]
  | .blank => [blank_line]
  | .frame f => f.lines

def Piece.frames : Piece → List WrittenFrame
  | .frame f => [f]
  | _ => []

def lines (pieces : List Piece) : List Text := pieces.flatMap Piece.lines

/-- What there is of a stream up to a line: the frames that are closed, and the frame whose payload is there and whose blank
    line is not. -/
structure Cut where
  closed : List WrittenFrame
  pending : Option WrittenFrame

/-- A piece that the cut goes through. -/
def Piece.broken_at (count : Nat) : Piece → Option WrittenFrame
  | .frame f => if f.opening.length < count then some f else none
  | _ => none

def cut : List Piece → Nat → Cut
  | [], _ => ⟨[], none⟩
  | piece :: rest, count =>
    if count < piece.lines.length then ⟨[], piece.broken_at count⟩
    else
      let later := cut rest (count - piece.lines.length)
      ⟨piece.frames ++ later.closed, later.pending⟩

/-- The connection breaks off after so many lines. -/
def cut_reader (pieces : List Piece) (count : Nat) : Reader := ((lines pieces).take count).map .ok

/-- A stream that is not cut has all its frames, closed. -/
theorem cut_whole (pieces : List Piece) {count : Nat} (enough : (lines pieces).length ≤ count) :
    cut pieces count = ⟨pieces.flatMap Piece.frames, none⟩ := by
  induction pieces generalizing count with
  | nil => rfl
  | cons piece rest ih =>
    rw [lines, List.flatMap_cons, List.length_append] at enough
    have reached : ¬ count < piece.lines.length := by omega
    have later : (lines rest).length ≤ count - piece.lines.length := by
      rw [lines]
      omega
    rw [cut, if_neg reached, ih later, List.flatMap_cons]

/-! ### What a line is read as -/

theorem trim_end_newline (text : Text) : trim_end newline (text ++ ['\n']) = trim_end newline text := by
  simp [trim_end, newline]

/-- What stands before a character that stays is not touched. -/
theorem trim_end_after {fits : Char → Bool} {c : Char} (stays : fits c = false) (before text : Text) :
    trim_end fits (before ++ c :: text) = before ++ c :: trim_end fits text := by
  have split : (before ++ c :: text).reverse = text.reverse ++ (c :: before.reverse) := by simp
  rw [trim_end, split, List.dropWhile_append]
  cases ends : text.reverse.dropWhile fits with
  | nil => simp [trim_end, ends, stays]
  | cons d rest => simp [trim_end, ends]

@[simp] theorem stripped_append (start text : Text) : stripped start (start ++ text) = some text := by
  induction start with
  | nil => rfl
  | cons c start ih => simp [stripped, ih]

/-- The reader takes the lines of the format for what they are, their texts as `seen` gives them. -/
structure Understands (d : Dialect) (seen : Text → Text) : Prop where
  comments : ∀ text : LineText, trim_end newline (comment_line text) ≠ [] ∧
    d.field (trim_end newline (comment_line text)) = .ignored
  ids : ∀ text : LineText, trim_end newline (id_line text) ≠ [] ∧
    d.field (trim_end newline (id_line text)) = .id (seen text.val)
  payloads : ∀ text : LineText, trim_end newline (data_line text) ≠ [] ∧
    d.field (trim_end newline (data_line text)) = .data (seen text.val)
  bare : ∀ id, d.unfinished id [] = none

theorem trimmed_comment (text : LineText) : trim_end newline (comment_line text) = ':' :: trim_end newline text.val := by
  have line := trim_end_after (show newline ':' = false by decide) [] (text.val ++ ['\n'])
  rw [trim_end_newline] at line
  exact line

theorem trimmed_id (text : LineText) :
    trim_end newline (id_line text) = ['i', 'd', ':', ' '] ++ trim_end newline text.val := by
  have line := trim_end_after (show newline ' ' = false by decide) ['i', 'd', ':'] (text.val ++ ['\n'])
  rw [trim_end_newline] at line
  exact line

theorem trimmed_data (text : LineText) :
    trim_end newline (data_line text) = ['d', 'a', 't', 'a', ':', ' '] ++ trim_end newline text.val := by
  have line := trim_end_after (show newline ' ' = false by decide) ['d', 'a', 't', 'a', ':'] (text.val ++ ['\n'])
  rw [trim_end_newline] at line
  exact line

theorem SseStream.understands : Understands SseStream.dialect (trim_end newline) where
  comments text := by
    rw [trimmed_comment]
    simp [SseStream.dialect, stripped]
  ids text := by
    rw [trimmed_id]
    simp [SseStream.dialect, stripped]
  payloads text := by
    rw [trimmed_data]
    simp [SseStream.dialect, stripped]
  bare id := by simp [SseStream.dialect]

theorem Subscription.understands :
    Understands Subscription.dialect fun text => (trim_end newline text).dropWhile white where
  comments text := by
    rw [trimmed_comment]
    simp [Subscription.dialect]
  ids text := by
    have space : white ' ' = true := by decide
    rw [trimmed_id]
    simp [Subscription.dialect, stripped, space]
  payloads text := by
    have space : white ' ' = true := by decide
    rw [trimmed_data]
    simp [Subscription.dialect, stripped, space]
  bare id := rfl

/-! ### What a stream is read as -/

section Returns
variable {S : Type} {next : S → Except StreamError (Option Frame) × S}

theorem returns_unique {s : S} {frames others : List Frame} (first : Returns next s frames)
    (second : Returns next s others) : frames = others := by
  induction first generalizing others with
  | over_now ended =>
    cases second with
    | over_now => rfl
    | frame read =>
      rw [ended] at read
      cases read
  | frame read _ ih =>
    cases second with
    | over_now ended =>
      rw [read] at ended
      cases ended
    | frame again rest =>
      rw [read] at again
      cases again
      rw [ih rest]

theorem returns_of_same {s t : S} {frames : List Frame} (same : next s = next t) (returns : Returns next t frames) :
    Returns next s frames := by
  cases returns with
  | over_now ended => exact .over_now (same.trans ended)
  | frame read rest => exact .frame (same.trans read) rest

end Returns

/-- A frame with its texts as a reader sees them. -/
def WrittenFrame.seen (seen : Text → Text) (f : WrittenFrame) : Frame := ⟨f.id.map fun id => seen id.val, seen f.data.val⟩

section Reading
variable {d : Dialect} {seen : Text → Text} (understands : Understands d seen)
include understands

theorem read_comments (comments : List LineText) (id : Option Text) (data : List Text) (rest : Reader) :
    read_frame d id data ((comments.map comment_line).map .ok ++ rest) = read_frame d id data rest := by
  induction comments with
  | nil => rfl
  | cons text comments ih =>
    obtain ⟨filled, field⟩ := understands.comments text
    simp only [List.map_cons, List.cons_append, read_frame, if_neg filled, field]
    exact ih

theorem read_opening (f : WrittenFrame) (rest : Reader) :
    read_frame d none [] (f.opening.map .ok ++ rest) = read_frame d (f.seen seen).id [] rest := by
  rw [WrittenFrame.opening, WrittenFrame.seen, List.map_append, List.append_assoc]
  cases f.id with
  | none => exact read_comments understands f.comments none [] rest
  | some id =>
    obtain ⟨filled, field⟩ := understands.ids id
    simp only [Option.map_some, Option.toList_some, List.map_cons, List.map_nil, List.cons_append, List.nil_append,
      read_frame, if_neg filled, field]
    exact read_comments understands f.comments (some (seen id.val)) [] rest

/-- Before the payload there is no frame to return. -/
theorem read_cut_opening (f : WrittenFrame) (count : Nat) :
    read_frame d none [] ((f.opening.take count).map .ok) = (.ok none, []) := by
  have silent (count : Nat) (id : Option Text) :
      read_frame d id [] (((f.comments.map comment_line).take count).map .ok) = (.ok none, []) := by
    have passed := read_comments understands (f.comments.take count) id [] []
    rw [List.append_nil] at passed
    rw [← List.map_take, passed, read_frame, understands.bare]
  rw [WrittenFrame.opening]
  cases f.id with
  | none => exact silent count none
  | some id =>
    cases count with
    | zero => exact silent 0 none
    | succ count =>
      obtain ⟨filled, field⟩ := understands.ids id
      simp only [Option.map_some, Option.toList_some, List.cons_append, List.nil_append, List.take_succ_cons, List.map_cons,
        read_frame, if_neg filled, field]
      exact silent count _

theorem read_payload (f : WrittenFrame) (rest : Reader) :
    read_frame d none [] (f.opening.map .ok ++ .ok (data_line f.data) :: rest) =
      read_frame d (f.seen seen).id [(f.seen seen).data] rest := by
  obtain ⟨filled, field⟩ := understands.payloads f.data
  rw [read_opening understands]
  simp only [read_frame, if_neg filled, field, List.nil_append]
  rfl

theorem read_written (f : WrittenFrame) (rest : Reader) :
    read_frame d none [] (f.lines.map .ok ++ rest) = (.ok (some (f.seen seen)), rest) := by
  have blank : trim_end newline blank_line = [] := by decide
  rw [WrittenFrame.lines, List.map_append, List.append_assoc, List.map_cons, List.cons_append, read_payload understands,
    List.map_append, List.append_assoc, read_comments understands]
  simp [read_frame, blank, joined]

/-- A piece that the cut goes through gives the frame the reader makes of its payload, if it makes one. -/
theorem read_broken (piece : Piece) {count : Nat} (within : count < piece.lines.length) :
    read_frame d none [] ((piece.lines.take count).map .ok) =
      (.ok ((piece.broken_at count).bind fun f => d.unfinished (f.seen seen).id [(f.seen seen).data]), []) := by
  cases piece with
  | comment text =>
    obtain rfl : count = 0 := Nat.lt_one_iff.mp within
    simp [read_frame, understands.bare, Piece.broken_at]
  | blank =>
    obtain rfl : count = 0 := Nat.lt_one_iff.mp within
    simp [read_frame, understands.bare, Piece.broken_at]
  | frame f =>
    rw [Piece.broken_at]
    by_cases told : f.opening.length < count
    · obtain ⟨more, rfl⟩ : ∃ more, count = f.opening.length + (more + 1) := ⟨count - f.opening.length - 1, by omega⟩
      have short : more ≤ (f.more.map comment_line).length := by
        simp only [Piece.lines, WrittenFrame.lines, List.length_append, List.length_cons, List.length_nil] at within
        omega
      have lines : f.lines.take (f.opening.length + (more + 1)) =
          f.opening ++ data_line f.data :: (f.more.take more).map comment_line := by
        rw [WrittenFrame.lines, List.take_length_add_append, List.take_succ_cons, List.take_append_of_le_length short,
          List.map_take]
      have passed := read_comments understands (f.more.take more) (f.seen seen).id [(f.seen seen).data] []
      rw [List.append_nil] at passed
      rw [if_pos told, Piece.lines, lines, List.map_append, List.map_cons, read_payload understands, passed]
      rfl
    · have early : f.lines.take count = f.opening.take count := by
        rw [WrittenFrame.lines, List.take_append_of_le_length (by omega)]
      rw [if_neg told, Piece.lines, early, read_cut_opening understands]
      rfl

/-- A reader returns the closed frames as it sees them, and what it makes of the frame the cut left open. -/
theorem returned (pieces : List Piece) (count : Nat) :
    Returns (read_frame d none []) (cut_reader pieces count)
      ((cut pieces count).closed.map (WrittenFrame.seen seen) ++
        ((cut pieces count).pending.bind fun f => d.unfinished (f.seen seen).id [(f.seen seen).data]).toList) := by
  have ended : read_frame d none [] [] = (.ok none, []) := by rw [read_frame, understands.bare]
  induction pieces generalizing count with
  | nil =>
    rw [cut_reader, lines, List.flatMap_nil, List.take_nil]
    exact .over_now ended
  | cons piece rest ih =>
    rw [cut_reader, lines, List.flatMap_cons, cut]
    by_cases within : count < piece.lines.length
    · rw [if_pos within, List.take_append_of_le_length (Nat.le_of_lt within)]
      have read := read_broken understands piece within
      cases left : (piece.broken_at count).bind fun f => d.unfinished (f.seen seen).id [(f.seen seen).data] with
      | none =>
        rw [left] at read
        simp only
        exact .over_now read
      | some frame =>
        rw [left] at read
        simp only
        exact .frame read (.over_now ended)
    · obtain ⟨more, rfl⟩ : ∃ more, count = piece.lines.length + more := ⟨count - piece.lines.length, by omega⟩
      have later := ih more
      rw [cut_reader, lines] at later
      rw [if_neg within, List.take_length_add_append, Nat.add_sub_cancel_left, List.map_append]
      simp only [List.map_append, List.append_assoc]
      cases piece with
      | comment text => exact returns_of_same (read_comments understands [text] none [] _) later
      | blank => exact returns_of_same (by simp [Piece.lines, read_frame, trim_end, newline, blank_line]) later
      | frame f => exact .frame (read_written understands f _) later

end Reading

theorem SseStream.returned (pieces : List Piece) (count : Nat) :
    Returns SseStream.next_frame (cut_reader pieces count)
      (((cut pieces count).closed ++ (cut pieces count).pending.toList).map (WrittenFrame.seen (trim_end newline))) := by
  have read := EventReaders.returned SseStream.understands pieces count
  change Returns (read_frame SseStream.dialect none []) _ _
  cases left : (cut pieces count).pending with
  | none =>
    rw [left] at read
    rw [Option.toList_none, List.append_nil]
    simpa using read
  | some f =>
    rw [left] at read
    rw [Option.toList_some, List.map_append]
    simpa [SseStream.dialect, joined, WrittenFrame.seen] using read

theorem Subscription.returned (pieces : List Piece) (count : Nat) (last_id : Option Text) :
    Returns Subscription.next_frame ⟨cut_reader pieces count, last_id⟩
      ((cut pieces count).closed.map (WrittenFrame.seen fun text => (trim_end newline text).dropWhile white)) := by
  have same {reader : Reader} {frames : List Frame}
      (returns : Returns (read_frame Subscription.dialect none []) reader frames) (last_id : Option Text) :
      Returns Subscription.next_frame ⟨reader, last_id⟩ frames := by
    induction returns generalizing last_id with
    | over_now ended => exact .over_now (by rw [Subscription.next_frame, ended])
    | frame read _ ih => exact .frame (by rw [Subscription.next_frame, read]) (ih _)
  refine same ?_ last_id
  have read := EventReaders.returned Subscription.understands pieces count
  have none_left (pending : Option WrittenFrame) (view : WrittenFrame → Option Text × List Text) :
      (pending.bind fun f => Subscription.dialect.unfinished (view f).1 (view f).2) = none := by
    cases pending <;> rfl
  rw [none_left _ fun f => (_, [_])] at read
  simpa using read

/-! ### When the readers agree with the stream -/

/-- White space in front of a text and a carriage return behind it are lost. -/
def Unpadded (text : Text) : Prop := (∀ c ∈ text.head?, white c = false) ∧ '\r' ∉ text.getLast?

def WrittenFrame.Unpadded (f : WrittenFrame) : Prop :=
  (∀ id ∈ f.id, EventReaders.Unpadded id.val) ∧ EventReaders.Unpadded f.data.val

theorem trim_end_eq_iff {fits : Char → Bool} (text : Text) :
    trim_end fits text = text ↔ ∀ c ∈ text.getLast?, fits c = false := by
  rw [trim_end, ← List.head?_reverse]
  constructor
  · intro same c last
    have kept : text.reverse.dropWhile fits = text.reverse := by
      rw [← List.reverse_inj, same, List.reverse_reverse]
    cases turned : text.reverse with
    | nil => simp [turned] at last
    | cons d rest =>
      rw [turned] at kept last
      cases last
      by_contra fit
      rw [List.dropWhile_cons_of_pos (by simpa using fit)] at kept
      have shorter := (List.dropWhile_suffix fits (l := rest)).length_le
      rw [kept, List.length_cons] at shorter
      omega
  · intro stays
    cases turned : text.reverse with
    | nil => simpa using turned
    | cons d rest =>
      rw [List.dropWhile_cons_of_neg (by simp [stays d (by rw [turned]; rfl)]), ← turned, List.reverse_reverse]

theorem cli_keeps_iff (text : LineText) : trim_end newline text.val = text.val ↔ '\r' ∉ text.val.getLast? := by
  rw [trim_end_eq_iff]
  constructor
  · intro stays returned
    exact absurd (stays _ returned) (by decide)
  · intro absent c last
    have inside : c ∈ text.val := List.mem_of_mem_getLast? last
    have other : c ≠ '\r' := fun same => absent (same ▸ last)
    have lf : c ≠ '\n' := fun same => text.property (same ▸ inside)
    simp [newline, other, lf]

theorem dropWhile_eq_iff {fits : Char → Bool} (text : Text) :
    text.dropWhile fits = text ↔ ∀ c ∈ text.head?, fits c = false := by
  cases text with
  | nil => simp
  | cons c rest =>
    constructor
    · intro same d first
      cases first
      by_contra fit
      rw [List.dropWhile_cons_of_pos (by simpa using fit)] at same
      have shorter := (List.dropWhile_suffix fits (l := rest)).length_le
      rw [same, List.length_cons] at shorter
      omega
    · intro stays
      exact List.dropWhile_cons_of_neg (by simp [stays c rfl])

theorem trim_end_length_le (fits : Char → Bool) (text : Text) : (trim_end fits text).length ≤ text.length := by
  rw [trim_end, List.length_reverse, ← @List.length_reverse _ text]
  exact (List.dropWhile_suffix fits).length_le

theorem sdk_keeps_iff (text : LineText) :
    (trim_end newline text.val).dropWhile white = text.val ↔ Unpadded text.val := by
  constructor
  · intro same
    have kept : trim_end newline text.val = text.val := by
      have dropped := (List.dropWhile_suffix white (l := trim_end newline text.val)).length_le
      have trimmed := trim_end_length_le newline text.val
      have prefixed : trim_end newline text.val <+: text.val := by
        rw [trim_end, ← List.reverse_suffix, List.reverse_reverse]
        exact List.dropWhile_suffix newline
      refine prefixed.eq_of_length ?_
      rw [same] at dropped
      omega
    rw [kept] at same
    exact ⟨(dropWhile_eq_iff text.val).mp same, (cli_keeps_iff text).mp kept⟩
  · rintro ⟨starts, ends⟩
    rw [(cli_keeps_iff text).mpr ends, (dropWhile_eq_iff text.val).mpr starts]

/-- What a reader sees of a frame is what was written, if its texts are. -/
theorem seen_eq_frame_iff {seen : Text → Text} {Kept : LineText → Prop} (keeps : ∀ text : LineText, seen text.val = text.val ↔ Kept text)
    (f : WrittenFrame) : f.seen seen = f.frame ↔ (∀ id ∈ f.id, Kept id) ∧ Kept f.data := by
  rw [WrittenFrame.seen, WrittenFrame.frame, Frame.mk.injEq, keeps]
  cases f.id with
  | none => simp
  | some id => simp [keeps]

/-- Both readers return the same frames from the stream up to a line, among them every frame closed by then, as it was written. -/
def Agree (pieces : List Piece) (count : Nat) (last_id : Option Text) : Prop :=
  ∃ frames, Returns SseStream.next_frame (cut_reader pieces count) frames ∧
    Returns Subscription.next_frame ⟨cut_reader pieces count, last_id⟩ frames ∧
      (cut pieces count).closed.map WrittenFrame.frame <+: frames

/-- The development kit returns a frame for each closed one, so agreement leaves none open, and none changed. -/
theorem told_of_agree {pieces : List Piece} {count : Nat} {last_id : Option Text} (agree : Agree pieces count last_id) :
    (∀ f ∈ (cut pieces count).closed, f.Unpadded) ∧ (cut pieces count).pending = none := by
  obtain ⟨frames, first, second, told⟩ := agree
  obtain rfl := returns_unique second (Subscription.returned pieces count last_id)
  have lengths := congrArg List.length (returns_unique (SseStream.returned pieces count) first)
  have shut : (cut pieces count).pending = none := by
    cases left : (cut pieces count).pending with
    | none => rfl
    | some f => simp [left] at lengths
  refine ⟨?_, shut⟩
  have kept := told.eq_of_length (by simp)
  intro f inside
  have seen : f.frame = f.seen fun text => (trim_end newline text).dropWhile white := List.map_inj_left.mp kept f inside
  exact (seen_eq_frame_iff sdk_keeps_iff f).mp seen.symm

/-- The readers agree, and with the stream, exactly where the cut leaves no frame open after its payload, and no id and no
    payload starts with white space or ends with a carriage return. -/
theorem readers_agree_iff (pieces : List Piece) (count : Nat) (last_id : Option Text) :
    Agree pieces count last_id ↔
      (∀ f ∈ (cut pieces count).closed, f.Unpadded) ∧ (cut pieces count).pending = none := by
  have cli := SseStream.returned pieces count
  have sdk := Subscription.returned pieces count last_id
  constructor
  · exact told_of_agree
  · rintro ⟨unpadded, shut⟩
    have written : (cut pieces count).closed.map (WrittenFrame.seen fun text => (trim_end newline text).dropWhile white) =
        (cut pieces count).closed.map WrittenFrame.frame :=
      List.map_congr_left fun f inside => (seen_eq_frame_iff sdk_keeps_iff f).mpr (unpadded f inside)
    have alike : (cut pieces count).closed.map (WrittenFrame.seen (trim_end newline)) =
        (cut pieces count).closed.map WrittenFrame.frame := by
      refine List.map_congr_left fun f inside => (seen_eq_frame_iff cli_keeps_iff f).mpr ?_
      exact ⟨fun id named => ((unpadded f inside).1 id named).2, (unpadded f inside).2.2⟩
    rw [shut, Option.toList_none, List.append_nil, alike] at cli
    rw [written] at sdk
    exact ⟨_, cli, sdk, List.prefix_rfl⟩

/-- A stream of one frame, whose payload is set in by a blank. -/
def set_in : List Piece :=
  [.frame ⟨some ⟨['1', '-', '0'], by decide⟩, [], ⟨[' ', '\x7b', '\x7d'], by decide⟩, []⟩]

/-- The development kit drops the blank in front of the payload. -/
theorem set_in_changed : ¬ ∀ (pieces : List Piece) (count : Nat) (last_id : Option Text), Agree pieces count last_id := by
  intro agree
  have unpadded := (told_of_agree (agree set_in 3 none)).1 _ List.mem_cons_self
  exact absurd (unpadded.2.1 ' ' rfl) (by decide)

/-- The command line returns a frame whose blank line never came, the development kit does not. -/
example : (SseStream.next_frame (cut_reader set_in 2)).1 = .ok (some ⟨some ['1', '-', '0'], [' ', '\x7b', '\x7d']⟩) ∧
    (Subscription.next_frame ⟨cut_reader set_in 2, none⟩).1 = .ok none := by decide

end Riscdom.EventReaders
