import Mathlib.Data.List.Basic

/-!
Lossy decoding of UTF-8, byte by byte: a sequence that cannot go on is replaced
by one character as far as it went. What decoding in pieces yields is compared
with decoding the whole.
-/
namespace Riscdom.Utf8

def REPLACEMENT : Char := '\uFFFD'

/-- Within an unfinished sequence: the bits so far, the range of the next byte, and how many more follow it. -/
structure Pending where
  bits : Nat
  low : Nat
  high : Nat
  more : Nat
  tail_low : 0x80 ≤ low
  tail_high : high ≤ 0xBF

namespace Pending

def tail (bits more : Nat) : Pending := ⟨bits, 0x80, 0xBF, more, by omega, by omega⟩

def Continues (p : Pending) (byte : UInt8) : Prop := p.low ≤ byte.toNat ∧ byte.toNat ≤ p.high

instance (p : Pending) (byte : UInt8) : Decidable (p.Continues byte) := inferInstanceAs (Decidable (_ ∧ _))

/-- The byte taken in: a character when it was the last one. -/
def next (p : Pending) (byte : UInt8) : List Char × Option Pending :=
  let bits := p.bits * 64 + (byte.toNat - 0x80)
  match p.more with
  | 0 => ([Char.ofNat bits], none)
  | more + 1 => ([], some (tail bits more))

end Pending

/-- The first byte of a sequence. The second byte of some is held to a narrower range,
    which leaves out overlong forms, surrogates and what lies above the last code point. -/
def start (byte : UInt8) : List Char × Option Pending :=
  let b := byte.toNat
  if b < 0x80 then ([Char.ofNat b], none)
  else if b < 0xC2 then ([REPLACEMENT], none)
  else if b < 0xE0 then ([], some (.tail (b - 0xC0) 0))
  else if b = 0xE0 then ([], some ⟨0, 0xA0, 0xBF, 1, by omega, by omega⟩)
  else if b = 0xED then ([], some ⟨0xD, 0x80, 0x9F, 1, by omega, by omega⟩)
  else if b < 0xF0 then ([], some (.tail (b - 0xE0) 1))
  else if b = 0xF0 then ([], some ⟨0, 0x90, 0xBF, 2, by omega, by omega⟩)
  else if b < 0xF4 then ([], some (.tail (b - 0xF0) 2))
  else if b = 0xF4 then ([], some ⟨4, 0x80, 0x8F, 2, by omega, by omega⟩)
  else ([REPLACEMENT], none)

def step : Option Pending → UInt8 → List Char × Option Pending
  | none, byte => start byte
  | some p, byte =>
    if p.Continues byte then p.next byte else
    (REPLACEMENT :: (start byte).1, (start byte).2)

/-- What the bytes make from a state on. A sequence unfinished at the end is replaced, too. -/
def decoded : Option Pending → List UInt8 → List Char
  | none, [] => []
  | some _, [] => [REPLACEMENT]
  | s, byte :: rest => (step s byte).1 ++ decoded (step s byte).2 rest

/-- The state after the bytes. -/
def pending (s : Option Pending) : List UInt8 → Option Pending
  | [] => s
  | byte :: rest => pending (step s byte).2 rest

def from_utf8_lossy (bytes : List UInt8) : List Char := decoded none bytes

/-- The bytes before end in an unfinished sequence that the bytes after go on with. -/
def Cuts (before after : List UInt8) : Prop := ∃ p ∈ pending none before, ∃ byte ∈ after.head?, p.Continues byte

instance (before after : List UInt8) : Decidable (Cuts before after) := inferInstanceAs (Decidable (∃ p ∈ _, _))

example : from_utf8_lossy [0x68, 0xE2, 0x82, 0xAC, 0xF0, 0x9F, 0x98, 0x80] = ['h', '€', '😀'] := by decide
example : from_utf8_lossy [0xE2, 0x82, 0x68, 0xC0, 0xAF] = [REPLACEMENT, 'h', REPLACEMENT, REPLACEMENT] := by decide

/-! ### Decoding in pieces -/

/-- A byte that goes on with a sequence starts none. -/
theorem start_of_continues {p : Pending} {byte : UInt8} (goes_on : p.Continues byte) :
    start byte = ([REPLACEMENT], none) := by
  have low := p.tail_low
  have high := p.tail_high
  obtain ⟨above, below⟩ := goes_on
  rw [start, if_neg (by omega), if_pos (by omega)]

theorem pending_append (s : Option Pending) (before after : List UInt8) :
    pending s (before ++ after) = pending (pending s before) after := by
  induction before generalizing s with
  | nil => rfl
  | cons byte rest ih => exact ih (step s byte).2

/-- The characters that are complete before the rest. -/
def emitted (s : Option Pending) : List UInt8 → List Char
  | [] => []
  | byte :: rest => (step s byte).1 ++ emitted (step s byte).2 rest

theorem decoded_append (s : Option Pending) (before after : List UInt8) :
    decoded s (before ++ after) = emitted s before ++ decoded (pending s before) after := by
  induction before generalizing s with
  | nil => simp [emitted, pending]
  | cons byte rest ih => cases s <;> simp [decoded, emitted, pending, ih]

theorem decoded_eq (s : Option Pending) (before : List UInt8) :
    decoded s before = emitted s before ++ decoded (pending s before) [] := by
  rw [← decoded_append, List.append_nil]

/-- A byte that does not go on with a sequence starts anew, behind a replacement. -/
theorem decoded_broken {p : Pending} {byte : UInt8} (broken : ¬p.Continues byte) (rest : List UInt8) :
    decoded (some p) (byte :: rest) = REPLACEMENT :: decoded none (byte :: rest) := by
  simp [decoded, step, broken]

theorem decoded_anew {p : Pending} {byte : UInt8} (goes_on : p.Continues byte) (rest : List UInt8) :
    decoded none (byte :: rest) = REPLACEMENT :: decoded none rest := by
  simp [decoded, step, start_of_continues goes_on]

/-- A byte that goes on with a sequence ends it with a character, or leaves it unfinished. -/
theorem decoded_going_on {p : Pending} {byte : UInt8} (goes_on : p.Continues byte) (rest : List UInt8) :
    (∃ c, decoded (some p) (byte :: rest) = c :: decoded none rest) ∨
      ∃ q, decoded (some p) (byte :: rest) = decoded (some q) rest := by
  have taken : decoded (some p) (byte :: rest) = (p.next byte).1 ++ decoded (p.next byte).2 rest := by
    simp [decoded, step, goes_on]
  rw [taken, Pending.next]
  cases p.more with
  | zero => exact .inl ⟨_, rfl⟩
  | succ more => exact .inr ⟨_, rfl⟩

/-- From within a sequence the bytes make at most one more character than from the start. -/
theorem length_decoded (p : Pending) (bytes : List UInt8) :
    (decoded (some p) bytes).length ≤ (decoded none bytes).length + 1 := by
  induction bytes generalizing p with
  | nil => simp [decoded]
  | cons byte rest ih =>
    by_cases goes_on : p.Continues byte
    · rw [decoded_anew goes_on, List.length_cons]
      obtain ⟨c, ended⟩ | ⟨q, unfinished⟩ := decoded_going_on goes_on rest
      · rw [ended, List.length_cons]
        omega
      · have bound := ih q
        rw [unfinished]
        omega
    · exact Nat.le_of_eq (by rw [decoded_broken goes_on, List.length_cons])

/-- A sequence that goes on makes fewer characters than one that is cut. -/
theorem length_decoded_cut {p : Pending} {byte : UInt8} (goes_on : p.Continues byte) (rest : List UInt8) :
    (decoded (some p) (byte :: rest)).length < (decoded none (byte :: rest)).length + 1 := by
  rw [decoded_anew goes_on, List.length_cons]
  obtain ⟨c, ended⟩ | ⟨q, unfinished⟩ := decoded_going_on goes_on rest
  · rw [ended, List.length_cons]
    omega
  · have bound := length_decoded q rest
    rw [unfinished]
    omega

/-- Two pieces decode like the whole exactly when no sequence is cut between them, and otherwise to more characters. -/
theorem decoded_pieces (before after : List UInt8) :
    (¬Cuts before after ∧ from_utf8_lossy (before ++ after) = from_utf8_lossy before ++ from_utf8_lossy after) ∨
      (Cuts before after ∧
        (from_utf8_lossy (before ++ after)).length < (from_utf8_lossy before ++ from_utf8_lossy after).length) := by
  simp only [from_utf8_lossy, decoded_append, decoded_eq none before, List.append_assoc, Cuts]
  cases state : pending none before with
  | none => exact .inl ⟨by simp, by simp [decoded]⟩
  | some p =>
    cases after with
    | nil => exact .inl ⟨by simp, by simp [decoded]⟩
    | cons byte rest =>
      by_cases goes_on : p.Continues byte
      · have fewer := length_decoded_cut goes_on rest
        refine .inr ⟨by simpa using goes_on, ?_⟩
        simp only [List.length_append, decoded, List.length_singleton] at fewer ⊢
        omega
      · refine .inl ⟨by simpa using goes_on, ?_⟩
        rw [decoded_broken goes_on]
        rfl

/-- Where nothing is cut, the state further on is that of the piece alone. -/
theorem cuts_append {before after : List UInt8} (whole : ¬Cuts before after) (middle rest : List UInt8)
    (split : after = middle ++ rest) : Cuts (before ++ middle) rest ↔ Cuts middle rest := by
  subst split
  cases middle with
  | nil =>
    rw [List.append_nil]
    have fresh : ¬Cuts [] rest := by simp [Cuts, pending]
    exact iff_of_false whole fresh
  | cons byte more =>
    have same : pending none (before ++ byte :: more) = pending none (byte :: more) := by
      rw [pending_append]
      cases state : pending none before with
      | none => rfl
      | some p =>
        have broken : ¬p.Continues byte := by simpa [Cuts, state] using whole
        simp [pending, step, broken]
    rw [Cuts, Cuts, same]

theorem length_pieces (pieces : List (List UInt8)) :
    (from_utf8_lossy pieces.flatten).length ≤ (pieces.map from_utf8_lossy).flatten.length := by
  induction pieces with
  | nil => exact Nat.le_refl _
  | cons piece rest ih =>
    rw [List.map_cons, List.flatten_cons, List.flatten_cons, List.length_append]
    obtain ⟨-, same⟩ | ⟨-, fewer⟩ := decoded_pieces piece rest.flatten
    · rw [same, List.length_append]
      omega
    · rw [List.length_append] at fewer
      omega

theorem pieces_cons_iff (piece : List UInt8) (rest : List (List UInt8)) :
    ((piece :: rest).map from_utf8_lossy).flatten = from_utf8_lossy (piece :: rest).flatten ↔
      ¬Cuts piece rest.flatten ∧ (rest.map from_utf8_lossy).flatten = from_utf8_lossy rest.flatten := by
  rw [List.map_cons, List.flatten_cons, List.flatten_cons]
  obtain ⟨whole, same⟩ | ⟨cut, fewer⟩ := decoded_pieces piece rest.flatten
  · rw [same, List.append_cancel_left_eq]
    exact ⟨fun joined => ⟨whole, joined⟩, And.right⟩
  · refine iff_of_false (fun joined => ?_) fun both => both.1 cut
    have bound := length_pieces rest
    rw [← joined] at fewer
    simp only [List.length_append] at fewer
    omega

/-- Pieces decode like the whole exactly when none of their boundaries cuts a sequence of the whole. -/
theorem pieces_iff (pieces : List (List UInt8)) :
    (pieces.map from_utf8_lossy).flatten = from_utf8_lossy pieces.flatten ↔
      ∀ before after, pieces = before ++ after → ¬Cuts before.flatten after.flatten := by
  induction pieces with
  | nil =>
    refine iff_of_true rfl fun before after none_there => ?_
    obtain ⟨rfl, rfl⟩ := List.append_eq_nil_iff.mp none_there.symm
    simp [Cuts, pending]
  | cons piece rest ih =>
    rw [pieces_cons_iff, ih]
    constructor
    · rintro ⟨whole, later⟩ before after split
      cases before with
      | nil => simp [Cuts, pending]
      | cons first before =>
        obtain ⟨rfl, parted⟩ := List.cons.inj split
        rw [List.flatten_cons, cuts_append whole _ _ ((congrArg List.flatten parted).trans List.flatten_append)]
        exact later before after parted
    · intro none_cut
      have whole : ¬Cuts piece rest.flatten := by simpa using none_cut [piece] rest rfl
      refine ⟨whole, fun before after split => ?_⟩
      have cut := none_cut (piece :: before) after (by rw [split, List.cons_append])
      rwa [List.flatten_cons, cuts_append whole _ _ (by rw [split, List.flatten_append])] at cut

end Riscdom.Utf8
