import Mathlib.Data.List.Basic

/-!
Reading up to a terminator through a buffer. The bytes arrive in chunks, and a
read may time out between two of them; what was taken so far is then gone.
-/
namespace Riscdom.BufferedRead
variable {Byte : Type}

/-- What one read of the source comes to. -/
inductive Arrival (Byte : Type)
  | chunk (bytes : List Byte) (filled : bytes ≠ [])
  | timeout

def Arrival.bytes : Arrival Byte → List Byte
  | .chunk bytes _ => bytes
  | .timeout => []

def bytes_of (arrivals : List (Arrival Byte)) : List Byte := arrivals.flatMap Arrival.bytes

def Arrival.is_timeout : Arrival Byte → Bool
  | .chunk _ _ => false
  | .timeout => true

/-- A buffer over a source, with what the source still gives. -/
structure Reader (Byte : Type) where
  buffer : List Byte
  arrivals : List (Arrival Byte)

/-- The bytes not yet taken. -/
def Reader.rest (reader : Reader Byte) : List Byte := reader.buffer ++ bytes_of reader.arrivals

@[simp] theorem bytes_of_nil : bytes_of ([] : List (Arrival Byte)) = [] := rfl
@[simp] theorem bytes_of_append (first second : List (Arrival Byte)) :
    bytes_of (first ++ second) = bytes_of first ++ bytes_of second := List.flatMap_append
@[simp] theorem bytes_of_timeout (arrivals : List (Arrival Byte)) : bytes_of (.timeout :: arrivals) = bytes_of arrivals := rfl
@[simp] theorem bytes_of_chunk (bytes : List Byte) (filled : bytes ≠ []) (arrivals : List (Arrival Byte)) :
    bytes_of (.chunk bytes filled :: arrivals) = bytes ++ bytes_of arrivals := rfl

/-- Before arrivals that bring nothing, no chunk came. -/
theorem eq_nil_of_bytes_of {arrivals : List (Arrival Byte)} (empty : bytes_of arrivals = [])
    (prompt : ∀ arrival ∈ arrivals, arrival.is_timeout = false) : arrivals = [] := by
  cases arrivals with
  | nil => rfl
  | cons arrival arrivals =>
    cases arrival with
    | timeout =>
      have chunk := prompt .timeout List.mem_cons_self
      cases chunk
    | chunk bytes filled =>
      rw [bytes_of_chunk, List.append_eq_nil_iff] at empty
      exact absurd empty.1 filled

variable (terminator : Byte)

/-- A line ends with the terminator, and has no other. -/
def Line (line : List Byte) : Prop := ∃ body, line = body ++ [terminator] ∧ terminator ∉ body

/-- Bytes without a terminator are shorter than the line they begin. -/
theorem length_lt_line {terminator : Byte} {bytes more line rest : List Byte} (is_line : Line terminator line) (alone : terminator ∉ bytes)
    (same : bytes ++ more = line ++ rest) : bytes.length < line.length := by
  by_contra long
  have within : line <+: bytes :=
    List.prefix_of_prefix_length_le (same ▸ List.prefix_append line rest) (List.prefix_append bytes more) (by omega)
  obtain ⟨body, rfl, -⟩ := is_line
  exact alone (within.subset (by simp))

/-- Two lines that begin the same bytes are the same. -/
theorem line_unique {terminator : Byte} {line other rest more : List Byte} (is_line : Line terminator line) (is_other : Line terminator other)
    (same : line ++ rest = other ++ more) : line = other ∧ rest = more := by
  obtain ⟨body, rfl, alone⟩ := is_line
  obtain ⟨text, rfl, lone⟩ := is_other
  have shorter := length_lt_line ⟨text, rfl, lone⟩ alone (by simpa using same)
  have longer := length_lt_line ⟨body, rfl, alone⟩ lone (by simpa using same.symm)
  simp only [List.length_append, List.length_singleton] at shorter longer
  exact List.append_inj same (by simp; omega)

variable [DecidableEq Byte]

/-- The bytes up to the first terminator, with it. -/
def first_line : List Byte → Option (List Byte)
  | [] => none
  | byte :: rest => if byte = terminator then some [byte] else (first_line rest).map (byte :: ·)

/-- Takes bytes up to a terminator, or so many, or to the end: what was taken, or none where a read timed out. -/
def read_until (left : Nat) (taken buffer : List Byte) (arrivals : List (Arrival Byte)) : Option (List Byte) × Reader Byte :=
  match first_line terminator (buffer.take left) with
  | some line => (some (taken ++ line), ⟨buffer.drop line.length, arrivals⟩)
  | none =>
    if left ≤ buffer.length then (some (taken ++ buffer.take left), ⟨buffer.drop left, arrivals⟩)
    else
      match arrivals with
      | [] => (some (taken ++ buffer), ⟨[], []⟩)
      | .timeout :: arrivals => (none, ⟨[], arrivals⟩)
      | .chunk bytes _ :: arrivals => read_until (left - buffer.length) (taken ++ buffer) bytes arrivals

section
variable {terminator}

theorem first_line_some {bytes line : List Byte} (found : first_line terminator bytes = some line) :
    Line terminator line ∧ ∃ rest, bytes = line ++ rest := by
  induction bytes generalizing line with
  | nil => cases found
  | cons byte bytes ih =>
    rw [first_line] at found
    split_ifs at found with here
    · cases found
      exact ⟨⟨[], by simp [here], List.not_mem_nil⟩, bytes, rfl⟩
    · obtain ⟨shorter, within, rfl⟩ := Option.map_eq_some_iff.mp found
      obtain ⟨⟨body, rfl, alone⟩, rest, rfl⟩ := ih within
      refine ⟨⟨byte :: body, rfl, ?_⟩, rest, rfl⟩
      rw [List.mem_cons, not_or]
      exact ⟨Ne.symm here, alone⟩

theorem first_line_none {bytes : List Byte} (absent : first_line terminator bytes = none) : terminator ∉ bytes := by
  induction bytes with
  | nil => exact List.not_mem_nil
  | cons byte bytes ih =>
    rw [first_line] at absent
    split_ifs at absent with here
    rw [List.mem_cons, not_or]
    exact ⟨Ne.symm here, ih (Option.map_eq_none_iff.mp absent)⟩

theorem read_until_found {left : Nat} {taken buffer line : List Byte} (arrivals : List (Arrival Byte))
    (found : first_line terminator (buffer.take left) = some line) :
    read_until terminator left taken buffer arrivals = (some (taken ++ line), ⟨buffer.drop line.length, arrivals⟩) := by
  unfold read_until
  simp only [found]

theorem read_until_full {left : Nat} {taken buffer : List Byte} (arrivals : List (Arrival Byte))
    (absent : first_line terminator (buffer.take left) = none) (full : left ≤ buffer.length) :
    read_until terminator left taken buffer arrivals = (some (taken ++ buffer.take left), ⟨buffer.drop left, arrivals⟩) := by
  unfold read_until
  simp only [absent, if_pos full]

variable (terminator) in
/-- The buffer holds the end of a line, or as much as may be taken, or less. -/
theorem buffer_cases (left : Nat) (buffer : List Byte) :
    (∃ line, first_line terminator (buffer.take left) = some line ∧ line.length ≤ buffer.length) ∨
      (first_line terminator (buffer.take left) = none ∧ left ≤ buffer.length) ∨
      first_line terminator (buffer.take left) = none ∧ buffer.length < left := by
  cases found : first_line terminator (buffer.take left) with
  | some line =>
    obtain ⟨-, rest, split⟩ := first_line_some found
    have whole := congrArg List.length split
    simp only [List.length_append, List.length_take] at whole
    exact .inl ⟨line, rfl, by omega⟩
  | none => exact .inr ((Nat.lt_or_ge buffer.length left).symm.imp (⟨rfl, ·⟩) (⟨rfl, ·⟩))

theorem read_until_empty {left : Nat} {taken buffer : List Byte} (absent : first_line terminator (buffer.take left) = none)
    (short : buffer.length < left) :
    read_until terminator left taken buffer [] = (some (taken ++ buffer), ⟨[], []⟩) := by
  simp only [read_until, absent, if_neg (Nat.not_le.mpr short)]

theorem read_until_timeout {left : Nat} {taken buffer : List Byte} {arrivals : List (Arrival Byte)}
    (absent : first_line terminator (buffer.take left) = none) (short : buffer.length < left) :
    read_until terminator left taken buffer (.timeout :: arrivals) = (none, ⟨[], arrivals⟩) := by
  simp only [read_until, absent, if_neg (Nat.not_le.mpr short)]

theorem read_until_chunk {left : Nat} {taken buffer bytes : List Byte} {filled : bytes ≠ []} {arrivals : List (Arrival Byte)}
    (absent : first_line terminator (buffer.take left) = none) (short : buffer.length < left) :
    read_until terminator left taken buffer (.chunk bytes filled :: arrivals) =
      read_until terminator (left - buffer.length) (taken ++ buffer) bytes arrivals := by
  rw [read_until, absent]
  simp only [if_neg (Nat.not_le.mpr short)]

variable (terminator) in
/-- No byte is taken twice. -/
theorem read_until_bounded (left : Nat) (taken buffer : List Byte) (arrivals : List (Arrival Byte)) :
    ((read_until terminator left taken buffer arrivals).1.getD []).length +
        (read_until terminator left taken buffer arrivals).2.rest.length ≤
      taken.length + buffer.length + (bytes_of arrivals).length := by
  induction arrivals generalizing left taken buffer with
  | nil =>
    rcases buffer_cases terminator left buffer with ⟨line, found, fits⟩ | ⟨absent, full⟩ | ⟨absent, short⟩
    · rw [read_until_found [] found]
      simp [Reader.rest]
      omega
    · rw [read_until_full [] absent full]
      simp [Reader.rest]
      omega
    · rw [read_until_empty absent short]
      simp [Reader.rest]
  | cons arrival arrivals ih =>
    rcases buffer_cases terminator left buffer with ⟨line, found, fits⟩ | ⟨absent, full⟩ | ⟨absent, short⟩
    · rw [read_until_found _ found]
      simp [Reader.rest]
      omega
    · rw [read_until_full _ absent full]
      simp [Reader.rest]
      omega
    · cases arrival with
      | timeout =>
        rw [read_until_timeout absent short]
        simp [Reader.rest]
      | chunk bytes filled =>
        rw [read_until_chunk absent short]
        have rest := ih (left - buffer.length) (taken ++ buffer) bytes
        simp only [List.length_append, bytes_of_chunk] at rest ⊢
        omega

/-- With a line ahead, and room for it: the buffer holds the rest of it, or is used up. -/
theorem take_from_buffer {left : Nat} {taken buffer line tail : List Byte} {arrivals : List (Arrival Byte)}
    (is_line : Line terminator line) (alone : terminator ∉ taken) (room : line.length ≤ taken.length + left)
    (ahead : taken ++ buffer ++ bytes_of arrivals = line ++ tail) :
    (∃ used after rest, arrivals = used ++ after ∧ (∀ arrival ∈ used, arrival.is_timeout = false) ∧
      read_until terminator left taken buffer arrivals = (some line, ⟨rest, after⟩) ∧
      taken ++ buffer ++ bytes_of used = line ++ rest) ∨
    terminator ∉ taken ++ buffer ∧ first_line terminator (buffer.take left) = none ∧ buffer.length < left := by
  cases found : first_line terminator (buffer.take left) with
  | some ending =>
    obtain ⟨⟨body, rfl, lone⟩, rest, split⟩ := first_line_some found
    have whole : ∃ more, buffer = (body ++ [terminator]) ++ more :=
      ⟨rest ++ buffer.drop left, by rw [← List.append_assoc, ← split, List.take_append_drop]⟩
    obtain ⟨more, rfl⟩ := whole
    have is_same : Line terminator (taken ++ (body ++ [terminator])) :=
      ⟨taken ++ body, by simp, by simp [alone, lone]⟩
    have begins : taken ++ (body ++ [terminator]) ++ (more ++ bytes_of arrivals) = line ++ tail := by
      rw [← ahead]
      simp
    obtain ⟨same, -⟩ := line_unique is_same is_line begins
    refine .inl ⟨[], arrivals, more, rfl, nofun, ?_, by simp [← same]⟩
    rw [read_until_found arrivals found, same, List.drop_left]
  | none =>
    have absent := first_line_none found
    by_cases full : left ≤ buffer.length
    · have begins : taken ++ buffer.take left ++ (buffer.drop left ++ bytes_of arrivals) = line ++ tail := by
        rw [← ahead, List.append_assoc, ← List.append_assoc (buffer.take left), List.take_append_drop, List.append_assoc]
      have shorter := length_lt_line is_line (by simp [alone, absent]) begins
      rw [List.length_append, List.length_take] at shorter
      omega
    · rw [List.take_of_length_le (by omega)] at absent
      exact .inr ⟨by simp [alone, absent], rfl, by omega⟩

/-- With a line ahead, and room for it: the line is taken, or a read times out inside it. -/
theorem read_until_line {left : Nat} {taken buffer line tail : List Byte} {arrivals : List (Arrival Byte)}
    (is_line : Line terminator line) (alone : terminator ∉ taken) (room : line.length ≤ taken.length + left)
    (ahead : taken ++ buffer ++ bytes_of arrivals = line ++ tail) :
    (∃ used after rest, arrivals = used ++ after ∧ (∀ arrival ∈ used, arrival.is_timeout = false) ∧
      read_until terminator left taken buffer arrivals = (some line, ⟨rest, after⟩) ∧
      taken ++ buffer ++ bytes_of used = line ++ rest) ∨
    ∃ used after, arrivals = used ++ .timeout :: after ∧ (∀ arrival ∈ used, arrival.is_timeout = false) ∧
      read_until terminator left taken buffer arrivals = (none, ⟨[], after⟩) ∧
      (taken ++ buffer ++ bytes_of used).length < line.length := by
  induction arrivals generalizing left taken buffer with
  | nil =>
    rcases take_from_buffer is_line alone room ahead with found | ⟨lone, absent, short⟩
    · exact .inl found
    · have shorter := length_lt_line is_line lone ahead
      have whole := congrArg List.length ahead
      simp only [List.length_append, bytes_of_nil, List.length_nil] at shorter whole
      omega
  | cons arrival arrivals ih =>
    rcases take_from_buffer is_line alone room ahead with found | ⟨lone, absent, short⟩
    · exact .inl found
    · have shorter := length_lt_line is_line lone ahead
      cases arrival with
      | timeout => exact .inr ⟨[], arrivals, rfl, nofun, read_until_timeout absent short, by simpa using shorter⟩
      | chunk bytes filled =>
        have room : line.length ≤ (taken ++ buffer).length + (left - buffer.length) := by
          rw [List.length_append]
          omega
        rw [read_until_chunk absent short]
        rcases ih lone room (by simpa using ahead) with
          ⟨used, after, rest, rfl, prompt, took, within⟩ | ⟨used, after, rfl, prompt, missed, within⟩
        · refine .inl ⟨.chunk bytes filled :: used, after, rest, rfl, ?_, took, by simpa using within⟩
          exact List.forall_mem_cons.mpr ⟨rfl, prompt⟩
        · refine .inr ⟨.chunk bytes filled :: used, after, rfl, ?_, missed, by simpa using within⟩
          exact List.forall_mem_cons.mpr ⟨rfl, prompt⟩

end

end Riscdom.BufferedRead
