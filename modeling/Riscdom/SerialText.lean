import Riscdom.Utf8

/-!
The serial text of an instance: every chunk of its guest's output decoded and
appended on its own, beside the text of the whole output.
-/
namespace Riscdom.SerialText
open Riscdom.Utf8

/-- The text accumulated, and the text that the chunk added. -/
def append_serial_chunk (accum : List Char) (bytes : List UInt8) : List Char × List Char :=
  let text := from_utf8_lossy bytes
  (accum ++ text, text)

/-- The chunks forwarded one after another, with the texts told of them. -/
def forward (accum : List Char) : List (List UInt8) → List Char × List (List Char)
  | [] => (accum, [])
  | bytes :: rest =>
    let (grown, text) := append_serial_chunk accum bytes
    let (last, told) := forward grown rest
    (last, text :: told)

/-- What is accumulated and what is told are the text of the output, however it came. -/
def Whole (chunks : List (List UInt8)) : Prop :=
  (forward [] chunks).1 = from_utf8_lossy chunks.flatten ∧
    (forward [] chunks).2.flatten = from_utf8_lossy chunks.flatten

/-- No chunk ends within a character that the next one goes on with. -/
def Unbroken (chunks : List (List UInt8)) : Prop :=
  ∀ before after, chunks = before ++ after → ¬Cuts before.flatten after.flatten

theorem forward_spec (accum : List Char) (chunks : List (List UInt8)) :
    forward accum chunks = (accum ++ (chunks.map from_utf8_lossy).flatten, chunks.map from_utf8_lossy) := by
  induction chunks generalizing accum with
  | nil => simp [forward]
  | cons bytes rest ih => simp [forward, append_serial_chunk, ih]

/-- The text forwarded is the text of the output exactly when no chunk ends within a character. -/
theorem serial_text_iff (chunks : List (List UInt8)) : Whole chunks ↔ Unbroken chunks := by
  rw [Unbroken, ← pieces_iff, Whole, forward_spec, List.nil_append, and_self]

/-- The euro sign, cut behind its second byte. -/
theorem euro_cut : ¬Whole [[0xE2, 0x82], [0xAC]] := by
  intro whole
  have text : (forward [] [[0xE2, 0x82], [0xAC]]).1 = from_utf8_lossy [0xE2, 0x82, 0xAC] := whole.1
  revert text
  decide

end Riscdom.SerialText
