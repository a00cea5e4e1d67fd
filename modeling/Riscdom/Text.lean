import Mathlib.Data.List.Basic

/-!
Text as the standard library of the source handles it: white space trimmed at
both ends, splits at the first or the last separator, and the longest part of a
text that fits into a number of bytes.
-/
namespace Riscdom.Text

/-- The white space of Unicode. -/
def white (c : Char) : Bool :=
  let n := c.toNat
  (9 ≤ n && n ≤ 13) || n == 0x20 || n == 0x85 || n == 0xA0 || n == 0x1680 || (0x2000 ≤ n && n ≤ 0x200A) || n == 0x2028 ||
    n == 0x2029 || n == 0x202F || n == 0x205F || n == 0x3000

def trim_end (fits : Char → Bool) (s : List Char) : List Char := (s.reverse.dropWhile fits).reverse

def trim (s : String) : String := .ofList (trim_end white (s.toList.dropWhile white))

/-- A line of one object, less its terminator. -/
theorem trim_object (members : String) :
    trim ("\x7b" ++ members ++ "\x7d" ++ "\n") = "\x7b" ++ members ++ "\x7d" := by
  have whole : ("\x7b" ++ members ++ "\x7d" ++ "\n").toList = '\x7b' :: (members.toList ++ ['\x7d', '\n']) := by
    simp [String.toList_append]
  have opening : white '\x7b' = false := by decide
  have closing : white '\x7d' = false := by decide
  have newline : white '\n' = true := by decide
  rw [trim, whole, List.dropWhile_cons_of_neg (by simp [opening]), trim_end, ← String.toList_inj]
  simp [newline, closing, String.toList_append]

def starts_with (start s : String) : Bool := start.toList.isPrefixOf s.toList

/-- What stands before and after the first place of a separator. -/
def split_once (separator : List Char) : List Char → Option (List Char × List Char)
  | [] => if separator = [] then some ([], []) else none
  | c :: rest =>
    if separator.isPrefixOf (c :: rest) then some ([], (c :: rest).drop separator.length)
    else (split_once separator rest).map fun parts => (c :: parts.1, parts.2)

/-- What stands before and after the last place of a character. -/
def rsplit_once (separator : Char) (s : List Char) : Option (List Char × List Char) :=
  (split_once [separator] s.reverse).map fun parts => (parts.2.reverse, parts.1.reverse)

/-- The most characters from the start that fit into the bytes. -/
def fitting (bytes : Nat) : List Char → List Char
  | [] => []
  | c :: rest => if c.utf8Size ≤ bytes then c :: fitting (bytes - c.utf8Size) rest else []

/-- A text of at most so many bytes, or what fits into them with a note of its length. -/
def truncate (s : String) (max : Nat) : String :=
  if s.utf8ByteSize ≤ max then s
  else .ofList (fitting max s.toList) ++ "…[truncated " ++ toString s.utf8ByteSize ++ " bytes]"

end Riscdom.Text
