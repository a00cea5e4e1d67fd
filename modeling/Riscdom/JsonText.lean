import Mathlib.Tactic.SplitIfs
import Riscdom.Json

/-!
Documents as text. `JsonText` is what a JSON library promises about its printer
and its reader; `compact` keeps the promise: it prints without blanks, as the
audit log stores its details, and reads back what it printed.
-/
namespace Riscdom.Json

/-- A printer and a reader, the reader's error a text. The reader refuses
    documents that nest 128 deep. Integers are of any width here; those that the
    code prints have 64 bits. -/
structure JsonText where
  to_string : Value → String
  from_str : String → Except String Value
  reads_back : ∀ v, Plain v → depth v ≤ 127 → from_str (to_string v) = .ok v
  reads_again : ∀ key text v, from_str text = .ok v → ∃ w, from_str (to_string (v.without key)) = .ok w

/-! ### Text of a document -/

def hexDigit (n : Nat) : Char := if n < 10 then Char.ofNat (48 + n) else Char.ofNat (87 + n)
def hexValue (c : Char) : Nat := if c.toNat < 58 then c.toNat - 48 else c.toNat - 87

/-- One character inside quotes. -/
def escape (c : Char) : List Char :=
  if c = '"' then ['\\', '"'] else
  if c = '\\' then ['\\', '\\'] else
  if c = '\n' then ['\\', 'n'] else
  if c = '\r' then ['\\', 'r'] else
  if c = '\t' then ['\\', 't'] else
  if c.toNat = 8 then ['\\', 'b'] else
  if c.toNat = 12 then ['\\', 'f'] else
  if c.toNat < 32 then ['\\', 'u', '0', '0', hexDigit (c.toNat / 16), hexDigit (c.toNat % 16)] else [c]

def quoted (text : String) : List Char := '"' :: (text.toList.flatMap escape ++ ['"'])

/-- An integer in decimal. -/
def decimal : Int → List Char
  | .ofNat n => Nat.toDigits 10 n
  | .negSucc n => '-' :: Nat.toDigits 10 (n + 1)

mutual
/-- The text of a document; of a binary64 only the text of what is not a number. -/
def print : Value → List Char
  | .null => ['n', 'u', 'l', 'l']
  | .bool true => ['t', 'r', 'u', 'e']
  | .bool false => ['f', 'a', 'l', 's', 'e']
  | .integer n => decimal n
  | .float _ => ['n', 'u', 'l', 'l']
  | .string text => quoted text
  | .array [] => ['[', ']']
  | .array (item :: rest) => '[' :: (print item ++ printItems rest)
  | .object [] => ['\x7b', '\x7d']
  | .object ((key, value) :: rest) => '\x7b' :: (quoted key ++ ':' :: (print value ++ printMembers rest))
def printItems : List Value → List Char
  | [] => [']']
  | item :: rest => ',' :: (print item ++ printItems rest)
def printMembers : List (String × Value) → List Char
  | [] => ['\x7d']
  | (key, value) :: rest => ',' :: (quoted key ++ ':' :: (print value ++ printMembers rest))
end

/-! ### Reading it -/

def unescape (c : Char) : Char :=
  if c = 'n' then '\n' else if c = 'r' then '\r' else if c = 't' then '\t' else
  if c = 'b' then Char.ofNat 8 else if c = 'f' then Char.ofNat 12 else c

/-- What stands before the closing quote, and what is left after it. -/
def readQuoted : List Char → Option (List Char × List Char)
  | [] => none
  | c :: rest =>
    if c = '"' then some ([], rest) else
    if c = '\\' then
      match rest with
      | 'u' :: _ :: _ :: a :: b :: rest =>
        (readQuoted rest).map fun read => (Char.ofNat (16 * hexValue a + hexValue b) :: read.1, read.2)
      | e :: rest => (readQuoted rest).map fun read => (unescape e :: read.1, read.2)
      | [] => none
    else (readQuoted rest).map fun read => (c :: read.1, read.2)

/-- What is left after the word. -/
def expect (word chars : List Char) : Option (List Char) :=
  if word.isPrefixOf chars then some (chars.drop word.length) else none

def readDigits (chars : List Char) : Option (Nat × List Char) :=
  if chars.takeWhile Char.isDigit = [] then none else
    some (Nat.ofDigitChars 10 (chars.takeWhile Char.isDigit) 0, chars.dropWhile Char.isDigit)

def readNumber (chars : List Char) : Option (Value × List Char) :=
  if chars.head? = some '-' then (readDigits chars.tail).map fun read => (.integer (-read.1), read.2)
  else (readDigits chars).map fun read => (.integer read.1, read.2)

/-- A quoted key and the colon after it. -/
def readKey (chars : List Char) : Option (String × List Char) := do
  let chars ← expect ['"'] chars
  let (key, chars) ← readQuoted chars
  let chars ← expect [':'] chars
  return (String.ofList key, chars)

mutual
/-- The document at the head of the text and what is left after it. -/
def read : Nat → List Char → Option (Value × List Char)
  | 0, _ => none
  | _, [] => none
  | fuel + 1, c :: rest =>
    if c = 'n' then (expect ['u', 'l', 'l'] rest).map fun rest => (.null, rest) else
    if c = 't' then (expect ['r', 'u', 'e'] rest).map fun rest => (.bool true, rest) else
    if c = 'f' then (expect ['a', 'l', 's', 'e'] rest).map fun rest => (.bool false, rest) else
    if c = '"' then (readQuoted rest).map fun read => (.string (String.ofList read.1), read.2) else
    if c = '[' then
      if rest.head? = some ']' then some (.array [], rest.tail) else do
        let (item, rest) ← read fuel rest
        let (items, rest) ← readItems fuel rest
        return (.array (item :: items), rest)
    else
    if c = '\x7b' then
      if rest.head? = some '\x7d' then some (.object [], rest.tail) else do
        let (key, rest) ← readKey rest
        let (value, rest) ← read fuel rest
        let (members, rest) ← readMembers fuel rest
        return (.object (insert key value members), rest)
    else readNumber (c :: rest)
def readItems : Nat → List Char → Option (List Value × List Char)
  | 0, _ => none
  | _, [] => none
  | fuel + 1, c :: rest =>
    if c = ']' then some ([], rest) else
    if c = ',' then do
      let (item, rest) ← read fuel rest
      let (items, rest) ← readItems fuel rest
      return (item :: items, rest)
    else none
def readMembers : Nat → List Char → Option (List (String × Value) × List Char)
  | 0, _ => none
  | _, [] => none
  | fuel + 1, c :: rest =>
    if c = '\x7d' then some ([], rest) else
    if c = ',' then do
      let (key, rest) ← readKey rest
      let (value, rest) ← read fuel rest
      let (members, rest) ← readMembers fuel rest
      return (insert key value members, rest)
    else none
end

/-- The whole text read as one document. -/
def parse (text : String) : Except String Value :=
  match read text.toList.length text.toList with
  | some (v, []) => .ok v
  | some _ => .error "trailing characters"
  | none => .error "expected value"

/-! ### What was printed is read back -/

private theorem control_hex : ∀ n < 32, Char.ofNat (16 * hexValue (hexDigit (n / 16)) + hexValue (hexDigit (n % 16))) = Char.ofNat n := by
  decide

private theorem readQuoted_escape (c : Char) (rest : List Char) :
    readQuoted (escape c ++ rest) = (readQuoted rest).map fun read => (c :: read.1, read.2) := by
  unfold escape
  split_ifs with h1 h2 h3 h4 h5 h6 h7 h8
  · subst h1; rfl
  · subst h2; rfl
  · subst h3; rfl
  · subst h4; rfl
  · subst h5; rfl
  · obtain rfl : c = Char.ofNat 8 := by rw [← h6, Char.ofNat_toNat]
    rfl
  · obtain rfl : c = Char.ofNat 12 := by rw [← h7, Char.ofNat_toNat]
    rfl
  · have digits := control_hex c.toNat h8
    rw [Char.ofNat_toNat] at digits
    simp [readQuoted, digits]
  · rw [List.singleton_append, readQuoted.eq_def]
    simp only [h1, h2, if_false]

private theorem readQuoted_chars (chars rest : List Char) :
    readQuoted (chars.flatMap escape ++ '"' :: rest) = some (chars, rest) := by
  induction chars with
  | nil => rw [List.flatMap_nil, List.nil_append, readQuoted.eq_def]; rfl
  | cons c chars ih =>
    rw [List.flatMap_cons, List.append_assoc, readQuoted_escape, ih]
    rfl

private theorem expect_append (word rest : List Char) : expect word (word ++ rest) = some rest := by
  simp [expect]

private theorem readKey_quoted (key : String) (rest : List Char) :
    readKey (quoted key ++ ':' :: rest) = some (key, rest) := by
  have opened : expect ['"'] (quoted key ++ ':' :: rest) = some (key.toList.flatMap escape ++ '"' :: ':' :: rest) := by
    simpa [quoted] using expect_append ['"'] (key.toList.flatMap escape ++ '"' :: ':' :: rest)
  have colon : expect [':'] (':' :: rest) = some rest := expect_append [':'] rest
  simp [readKey, opened, readQuoted_chars, colon]

/-- The text goes on with no digit. -/
def Stops (rest : List Char) : Prop := ∀ c, rest.head? = some c → c.isDigit = false

theorem stops_nil : Stops [] := by simp [Stops]
theorem stops_items (items : List Value) (rest : List Char) : Stops (printItems items ++ rest) := by
  cases items <;> simp [Stops, printItems]
theorem stops_members (members : List (String × Value)) (rest : List Char) : Stops (printMembers members ++ rest) := by
  cases members <;> simp [Stops, printMembers]

private theorem digits (n : Nat) : ∀ c ∈ Nat.toDigits 10 n, c.isDigit :=
  fun _ inside => Nat.isDigit_of_mem_toDigits (by decide) (by decide) inside

private theorem readDigits_toDigits (n : Nat) {rest : List Char} (stops : Stops rest) :
    readDigits (Nat.toDigits 10 n ++ rest) = some (n, rest) := by
  have taken : (Nat.toDigits 10 n ++ rest).takeWhile Char.isDigit = Nat.toDigits 10 n := by
    rw [List.takeWhile_append_of_pos (digits n)]
    cases rest with
    | nil => simp
    | cons c rest => simp [stops c rfl]
  have dropped : (Nat.toDigits 10 n ++ rest).dropWhile Char.isDigit = rest := by
    rw [List.dropWhile_append_of_pos (digits n)]
    cases rest with
    | nil => rfl
    | cons c rest => simp [stops c rfl]
  simp [readDigits, taken, dropped]

private theorem readNumber_decimal (n : Int) {rest : List Char} (stops : Stops rest) :
    readNumber (decimal n ++ rest) = some (.integer n, rest) := by
  cases n with
  | ofNat n =>
    have unsigned : (Nat.toDigits 10 n ++ rest).head? ≠ some '-' := by
      cases shape : Nat.toDigits 10 n with
      | nil => simp at shape
      | cons c chars =>
        have digit := digits n c (by simp [shape])
        simp only [List.cons_append, List.head?_cons]
        rintro ⟨⟩
        cases digit
    rw [readNumber, decimal, if_neg unsigned, readDigits_toDigits n stops]
    rfl
  | negSucc n =>
    have signed : (decimal (.negSucc n) ++ rest).head? = some '-' := rfl
    have tail : (decimal (.negSucc n) ++ rest).tail = Nat.toDigits 10 (n + 1) ++ rest := rfl
    rw [readNumber, if_pos signed, tail, readDigits_toDigits (n + 1) stops]
    rfl

/-- A number begins with a digit or a sign. -/
private theorem decimal_head (n : Int) : ∃ c chars, decimal n = c :: chars ∧ (c = '-' ∨ c.isDigit) := by
  cases n with
  | ofNat n =>
    cases shape : Nat.toDigits 10 n with
    | nil => simp at shape
    | cons c chars => exact ⟨c, chars, shape, .inr (digits n c (by simp [shape]))⟩
  | negSucc n => exact ⟨'-', _, rfl, .inl rfl⟩

private theorem decimal_ne {n : Int} {c : Char} {chars : List Char} (shape : decimal n = c :: chars) {d : Char}
    (letter : d ≠ '-' ∧ d.isDigit = false) : c ≠ d := by
  obtain ⟨first, _, same, sign | digit⟩ := decimal_head n <;> rw [same] at shape <;> cases shape
  · exact fun equal => letter.1 (equal ▸ sign)
  · rintro rfl
    simp [letter.2] at digit

/-! A document never begins as a list ends, and a number begins as no other document does. -/

private theorem print_ne_nil (v : Value) : print v ≠ [] := by
  cases v with
  | integer n => cases n <;> simp [print, decimal]
  | bool b => cases b <;> simp [print]
  | array items => cases items <;> simp [print]
  | object members => cases members <;> simp [print]
  | _ => simp [print, quoted]

private theorem print_head (v : Value) : (print v).head? ≠ some ']' := by
  cases v with
  | integer n =>
    obtain ⟨c, chars, shape, _⟩ := decimal_head n
    simpa [print, shape] using decimal_ne shape (d := ']') (by decide)
  | bool b => cases b <;> simp [print]
  | array items => cases items <;> simp [print]
  | object members => rcases members with _ | ⟨⟨k, v⟩, rest⟩ <;> simp [print]
  | _ => simp [print, quoted]

private theorem read_number (n : Int) {fuel : Nat} {rest : List Char} (stops : Stops rest) :
    read (fuel + 1) (decimal n ++ rest) = some (.integer n, rest) := by
  obtain ⟨c, chars, shape, _⟩ := decimal_head n
  have whole := readNumber_decimal n stops
  rw [shape, List.cons_append] at whole ⊢
  have differs := @decimal_ne n c chars shape
  simp [read, whole, differs (d := 'n') (by decide), differs (d := 't') (by decide), differs (d := 'f') (by decide),
    differs (d := '"') (by decide), differs (d := '[') (by decide), differs (d := '\x7b') (by decide)]

theorem insert_sorted {key : String} {value : Value} {members : List (String × Value)}
    (sorted : Sorted ((key, value) :: members)) : insert key value members = (key, value) :: members := by
  cases members with
  | nil => rfl
  | cons head rest =>
    have below : key < head.1 := (List.pairwise_cons.mp sorted).1 head List.mem_cons_self
    simp [insert, below, below.ne]

mutual
/-- A printed document is read back, whatever stops it. -/
theorem read_print (v : Value) (plain : Plain v) (fuel : Nat) (rest : List Char)
    (enough : (print v).length ≤ fuel) (stops : Stops rest) : read fuel (print v ++ rest) = some (v, rest) := by
  obtain ⟨fuel, rfl⟩ : ∃ less, fuel = less + 1 :=
    Nat.exists_eq_add_one.mpr (lt_of_lt_of_le (List.length_pos_of_ne_nil (print_ne_nil v)) enough)
  match v with
  | .null => simp [print, read, expect]
  | .bool true => simp [print, read, expect]
  | .bool false => simp [print, read, expect]
  | .integer n => exact read_number n stops
  | .float _ => exact plain.elim
  | .string text => simp [print, quoted, read, readQuoted_chars]
  | .array [] => simp [print, read]
  | .array (item :: items) =>
    simp only [Plain, PlainItems] at plain
    simp only [print, List.length_cons, List.length_append, Nat.add_le_add_iff_right] at enough
    have first := read_print item plain.1 fuel _ (by omega) (stops_items items rest)
    have others := read_printItems items plain.2 fuel rest (by omega)
    simp [print, read, print_head, print_ne_nil, first, others]
  | .object [] => simp [print, read]
  | .object ((key, value) :: members) =>
    simp only [Plain, PlainMembers] at plain
    simp only [print, List.length_cons, List.length_append, Nat.add_le_add_iff_right] at enough
    have first := read_print value plain.2.1 fuel _ (by omega) (stops_members members rest)
    have others := read_printMembers members plain.1.of_cons plain.2.2 fuel rest (by omega)
    have opened : ¬ (quoted key).head?.getD ':' = '\x7d' := by simp [quoted]
    simp [print, read, opened, readKey_quoted, first, others, insert_sorted plain.1]
theorem read_printItems (items : List Value) (plain : PlainItems items) (fuel : Nat) (rest : List Char)
    (enough : (printItems items).length ≤ fuel) : readItems fuel (printItems items ++ rest) = some (items, rest) := by
  obtain ⟨fuel, rfl⟩ : ∃ less, fuel = less + 1 :=
    Nat.exists_eq_add_one.mpr (lt_of_lt_of_le (by cases items <;> simp [printItems]) enough)
  match items with
  | [] => simp [printItems, readItems]
  | item :: items =>
    simp only [PlainItems] at plain
    simp only [printItems, List.length_cons, List.length_append, Nat.add_le_add_iff_right] at enough
    have first := read_print item plain.1 fuel _ (by omega) (stops_items items rest)
    have others := read_printItems items plain.2 fuel rest (by omega)
    simp [printItems, readItems, first, others]
theorem read_printMembers (members : List (String × Value)) (sorted : Sorted members) (plain : PlainMembers members)
    (fuel : Nat) (rest : List Char) (enough : (printMembers members).length ≤ fuel) :
    readMembers fuel (printMembers members ++ rest) = some (members, rest) := by
  obtain ⟨fuel, rfl⟩ : ∃ less, fuel = less + 1 :=
    Nat.exists_eq_add_one.mpr (lt_of_lt_of_le (by cases members <;> simp [printMembers]) enough)
  match members with
  | [] => simp [printMembers, readMembers]
  | (key, value) :: members =>
    simp only [PlainMembers] at plain
    simp only [printMembers, List.length_cons, List.length_append, Nat.add_le_add_iff_right] at enough
    have first := read_print value plain.1 fuel _ (by omega) (stops_members members rest)
    have others := read_printMembers members sorted.of_cons plain.2 fuel rest (by omega)
    simp [printMembers, readMembers, readKey_quoted, first, others, insert_sorted sorted]
end

/-! ### What was read is plain -/

private theorem plain_insert {key : String} {value : Value} {members : List (String × Value)} (plain : Plain value)
    (sorted : Sorted members) (others : PlainMembers members) :
    Sorted (insert key value members) ∧ PlainMembers (insert key value members) := by
  refine ⟨sorted_insert key value sorted, plainMembers_iff.mpr fun m inside => ?_⟩
  rcases mem_insert inside with rfl | old
  · exact plain
  · exact plainMembers_iff.mp others m old

private theorem plain_readNumber {chars rest : List Char} {v : Value} (found : readNumber chars = some (v, rest)) :
    Plain v := by
  unfold readNumber at found
  split_ifs at found
  all_goals
    obtain ⟨_, _, same⟩ := Option.map_eq_some_iff.mp found
    cases same
    exact plain_integer _

private theorem plain_read_all (fuel : Nat) :
    (∀ {chars v rest}, read fuel chars = some (v, rest) → Plain v) ∧
    (∀ {chars items rest}, readItems fuel chars = some (items, rest) → PlainItems items) ∧
    (∀ {chars members rest}, readMembers fuel chars = some (members, rest) →
      Sorted members ∧ PlainMembers members) := by
  induction fuel with
  | zero => simp [read, readItems, readMembers]
  | succ fuel ih =>
    obtain ⟨value, items, members⟩ := ih
    refine ⟨@fun chars v rest found => ?_, @fun chars vs rest found => ?_, @fun chars ms rest found => ?_⟩
    · cases chars with
      | nil => simp [read] at found
      | cons c chars =>
        simp only [read, Option.bind_eq_bind, Option.pure_def] at found
        split_ifs at found
        · obtain ⟨_, _, same⟩ := Option.map_eq_some_iff.mp found
          cases same
          exact plain_null
        · obtain ⟨_, _, same⟩ := Option.map_eq_some_iff.mp found
          cases same
          exact plain_bool true
        · obtain ⟨_, _, same⟩ := Option.map_eq_some_iff.mp found
          cases same
          exact plain_bool false
        · obtain ⟨_, _, same⟩ := Option.map_eq_some_iff.mp found
          cases same
          exact plain_string _
        · cases found
          exact trivial
        · obtain ⟨⟨item, _⟩, first, others⟩ := Option.bind_eq_some_iff.mp found
          obtain ⟨⟨more, _⟩, tail, same⟩ := Option.bind_eq_some_iff.mp others
          cases same
          exact ⟨value first, items tail⟩
        · cases found
          exact ⟨.nil, trivial⟩
        · obtain ⟨⟨key, _⟩, _, others⟩ := Option.bind_eq_some_iff.mp found
          obtain ⟨⟨first, _⟩, head, others⟩ := Option.bind_eq_some_iff.mp others
          obtain ⟨⟨more, _⟩, tail, same⟩ := Option.bind_eq_some_iff.mp others
          cases same
          exact plain_insert (value head) (members tail).1 (members tail).2
        · exact plain_readNumber found
    · cases chars with
      | nil => simp [readItems] at found
      | cons c chars =>
        simp only [readItems, Option.bind_eq_bind, Option.pure_def] at found
        split_ifs at found
        · cases found
          trivial
        · obtain ⟨⟨item, _⟩, first, others⟩ := Option.bind_eq_some_iff.mp found
          obtain ⟨⟨more, _⟩, tail, same⟩ := Option.bind_eq_some_iff.mp others
          cases same
          exact ⟨value first, items tail⟩
    · cases chars with
      | nil => simp [readMembers] at found
      | cons c chars =>
        simp only [readMembers, Option.bind_eq_bind, Option.pure_def] at found
        split_ifs at found
        · cases found
          exact ⟨.nil, trivial⟩
        · obtain ⟨⟨key, _⟩, _, others⟩ := Option.bind_eq_some_iff.mp found
          obtain ⟨⟨first, _⟩, head, others⟩ := Option.bind_eq_some_iff.mp others
          obtain ⟨⟨more, _⟩, tail, same⟩ := Option.bind_eq_some_iff.mp others
          cases same
          exact plain_insert (value head) (members tail).1 (members tail).2

/-- What was read is plain. -/
theorem plain_parse {text : String} {v : Value} (found : parse text = .ok v) : Plain v := by
  unfold parse at found
  split at found
  · next read =>
    cases found
    exact (plain_read_all _).1 read
  · cases found
  · cases found

/-- What was printed is read back. -/
theorem parse_print {v : Value} (plain : Plain v) : parse (String.ofList (print v)) = .ok v := by
  have read := read_print v plain (print v).length [] le_rfl stops_nil
  rw [List.append_nil] at read
  simp [parse, read]

/-- The printer and the reader above. -/
def compact : JsonText where
  to_string v := String.ofList (print v)
  from_str := parse
  reads_back _ plain _ := parse_print plain
  reads_again key _ v found := ⟨v.without key, parse_print (plain_without key (plain_parse found))⟩

end Riscdom.Json
