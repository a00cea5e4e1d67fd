import Riscdom.JsonText

/-!
What the text of a document is read back as, binary64 numbers included: the
reader may hand a number back as another one, so a document comes back with
every number replaced by what its text is read as. The reader refuses what nests
128 deep, and the text of a document is one line.
-/
namespace Riscdom.Json

mutual
/-- The document with every binary64 replaced by what its text is read back as, null where it is no number. -/
def reread (number : UInt64 → Option UInt64) : Value → Value
  | .float bits => match number bits with
    | some other => .float other
    | none => .null
  | .array items => .array (reread_items number items)
  | .object members => .object (reread_members number members)
  | other => other
def reread_items (number : UInt64 → Option UInt64) : List Value → List Value
  | [] => []
  | item :: rest => reread number item :: reread_items number rest
def reread_members (number : UInt64 → Option UInt64) : List (String × Value) → List (String × Value)
  | [] => []
  | (key, value) :: rest => (key, reread number value) :: reread_members number rest
end

@[simp] theorem reread_null (number : UInt64 → Option UInt64) : reread number .null = .null := by simp [reread]

/-- The keys of every object are in order. -/
def Ordered (v : Value) : Prop := Plain (reread (fun _ => none) v)

/-- What is known of a printer and a reader beyond documents without binary64 numbers; here too integers are of any width. -/
structure Reading (json : JsonText) where
  number : UInt64 → Option UInt64
  reads_written : ∀ v, Ordered v → depth v ≤ 127 → json.from_str (json.to_string v) = .ok (reread number v)
  refuses_deep : ∀ v, Ordered v → 127 < depth v → ∃ message, json.from_str (json.to_string v) = .error message
  reads_ordered : ∀ text v, json.from_str text = .ok v → Ordered v
  one_line : ∀ v, ∀ c ∈ (json.to_string v).toList, c ≠ '\n' ∧ c ≠ '\r'

/-! ### Documents read back -/

variable (number : UInt64 → Option UInt64)

@[simp] theorem reread_bool (b : Bool) : reread number (.bool b) = .bool b := by simp [reread]
@[simp] theorem reread_integer (n : Int) : reread number (.integer n) = .integer n := by simp [reread]
@[simp] theorem reread_string (text : String) : reread number (.string text) = .string text := by simp [reread]
@[simp] theorem reread_ofOption (text : Option String) : reread number (.ofOption text) = .ofOption text := by
  cases text <;> simp [Value.ofOption]

theorem lookup_reread_members (key : String) (members : List (String × Value)) :
    lookup key (reread_members number members) = (lookup key members).map (reread number) := by
  induction members with
  | nil => rfl
  | cons head rest ih =>
    obtain ⟨k, v⟩ := head
    simp only [reread_members, lookup, ih]
    split_ifs <;> rfl

theorem get_reread (key : String) (v : Value) : (reread number v).get key = (v.get key).map (reread number) := by
  cases v with
  | object members =>
    rw [reread]
    exact lookup_reread_members number key members
  | float bits =>
    rw [reread]
    cases number bits <;> rfl
  | _ => simp [reread, Value.get]

mutual
theorem reread_plain : (v : Value) → Plain v → reread number v = v
  | .null, _ | .bool _, _ | .integer _, _ | .string _, _ => by simp [reread]
  | .float _, plain => plain.elim
  | .array items, plain => by
    simp only [Plain] at plain
    rw [reread, reread_plain_items items plain]
  | .object members, plain => by
    simp only [Plain] at plain
    rw [reread, reread_plain_members members plain.2]
theorem reread_plain_items : (items : List Value) → PlainItems items → reread_items number items = items
  | [], _ => rfl
  | item :: rest, plain => by
    simp only [PlainItems] at plain
    rw [reread_items, reread_plain item plain.1, reread_plain_items rest plain.2]
theorem reread_plain_members : (members : List (String × Value)) → PlainMembers members →
    reread_members number members = members
  | [], _ => rfl
  | (key, value) :: rest, plain => by
    simp only [PlainMembers] at plain
    rw [reread_members, reread_plain value plain.1, reread_plain_members rest plain.2]
end

mutual
@[simp] theorem depth_reread : (v : Value) → depth (reread number v) = depth v
  | .null | .bool _ | .integer _ | .string _ => by simp [reread]
  | .float bits => by
    rw [reread]
    cases number bits <;> simp [depth]
  | .array items => by simp only [reread, depth, depth_reread_items items]
  | .object members => by simp only [reread, depth, depth_reread_members members]
theorem depth_reread_items : (items : List Value) → depth_items (reread_items number items) = depth_items items
  | [] => rfl
  | item :: rest => by simp only [reread_items, depth_items, depth_reread item, depth_reread_items rest]
theorem depth_reread_members : (members : List (String × Value)) →
    depth_members (reread_members number members) = depth_members members
  | [] => rfl
  | (key, value) :: rest => by
    simp only [reread_members, depth_members, depth_reread value, depth_reread_members rest]
end

mutual
/-- Where the numbers are left out in the end, what they were read back as does not matter. -/
theorem reread_none : (v : Value) → reread (fun _ => none) (reread number v) = reread (fun _ => none) v
  | .null | .bool _ | .integer _ | .string _ => by simp [reread]
  | .float bits => by
    rw [reread.eq_1 number]
    cases number bits <;> simp [reread]
  | .array items => by simp only [reread, reread_none_items items]
  | .object members => by simp only [reread, reread_none_members members]
theorem reread_none_items : (items : List Value) →
    reread_items (fun _ => none) (reread_items number items) = reread_items (fun _ => none) items
  | [] => rfl
  | item :: rest => by simp only [reread_items, reread_none item, reread_none_items rest]
theorem reread_none_members : (members : List (String × Value)) →
    reread_members (fun _ => none) (reread_members number members) = reread_members (fun _ => none) members
  | [] => rfl
  | (key, value) :: rest => by simp only [reread_members, reread_none value, reread_none_members rest]
end

variable {number}

theorem ordered_plain {v : Value} (plain : Plain v) : Ordered v := by
  rw [Ordered, reread_plain _ v plain]
  exact plain

theorem ordered_reread {v : Value} (ordered : Ordered v) : Ordered (reread number v) := by
  rw [Ordered, reread_none]
  exact ordered

theorem reread_insert (key : String) (value : Value) (members : List (String × Value)) :
    reread_members number (insert key value members) = insert key (reread number value) (reread_members number members) := by
  induction members with
  | nil => rfl
  | cons head rest ih =>
    obtain ⟨k, v⟩ := head
    simp only [insert, reread_members]
    split_ifs <;> simp only [reread_members, ih]

/-- An object literal is read back member by member. -/
theorem reread_json (members : List (String × Value)) :
    reread number (json members) = json (members.map fun member => (member.1, reread number member.2)) := by
  suffices folded : ∀ object : List (String × Value),
      reread_members number (members.foldl (fun object member => insert member.1 member.2 object) object) =
        (members.map fun member => (member.1, reread number member.2)).foldl
          (fun object member => insert member.1 member.2 object) (reread_members number object) by
    rw [json, reread, folded []]
    rfl
  induction members with
  | nil => exact fun _ => rfl
  | cons head rest ih =>
    intro object
    rw [List.foldl_cons, ih, reread_insert, List.map_cons, List.foldl_cons]

theorem ordered_json {members : List (String × Value)} (ordered : ∀ m ∈ members, Ordered m.2) : Ordered (json members) := by
  rw [Ordered, reread_json]
  apply plain_json
  intro m inside
  obtain ⟨member, within, rfl⟩ := List.mem_map.mp inside
  exact ordered member within

/-- A member nests less deep than its object. -/
theorem depth_get {key : String} {v w : Value} (found : v.get key = some w) : depth w < depth v := by
  cases v with
  | object members =>
    have inside : ∃ k, (k, w) ∈ members := by
      simp only [Value.get] at found
      induction members with
      | nil => cases found
      | cons head rest ih =>
        obtain ⟨k, value⟩ := head
        rw [lookup] at found
        by_cases here : key = k
        · rw [if_pos here] at found
          cases found
          exact ⟨k, List.mem_cons_self⟩
        · rw [if_neg here] at found
          obtain ⟨other, later⟩ := ih found
          exact ⟨other, List.mem_cons_of_mem _ later⟩
    obtain ⟨k, inside⟩ := inside
    have shallow : depth w ≤ depth_members members := depth_members_le.mp le_rfl (k, w) inside
    simp only [depth]
    omega
  | _ => cases found

/-! ### A reader with the depth bound -/

mutual
/-- A binary64 is written as null here. -/
theorem print_reread_none : (v : Value) → print (reread (fun _ => none) v) = print v
  | .null | .bool _ | .integer _ | .string _ => by simp [reread]
  | .float _ => by simp [reread, print]
  | .array [] => by simp [reread, reread_items]
  | .array (item :: rest) => by simp only [reread, reread_items, print, print_reread_none item, print_reread_items rest]
  | .object [] => by simp [reread, reread_members]
  | .object ((key, value) :: rest) => by
    simp only [reread, reread_members, print, print_reread_none value, print_reread_members rest]
theorem print_reread_items : (items : List Value) → printItems (reread_items (fun _ => none) items) = printItems items
  | [] => rfl
  | item :: rest => by simp only [reread_items, printItems, print_reread_none item, print_reread_items rest]
theorem print_reread_members : (members : List (String × Value)) →
    printMembers (reread_members (fun _ => none) members) = printMembers members
  | [] => rfl
  | (key, value) :: rest => by
    simp only [reread_members, printMembers, print_reread_none value, print_reread_members rest]
end

/-- No line break among the characters. -/
def OneLine (chars : List Char) : Prop := ∀ c ∈ chars, c ≠ '\n' ∧ c ≠ '\r'

theorem oneLine_append {first second : List Char} : OneLine (first ++ second) ↔ OneLine first ∧ OneLine second  :=
  List.forall_mem_append
theorem oneLine_cons {c : Char} {chars : List Char} : OneLine (c :: chars) ↔ (c ≠ '\n' ∧ c ≠ '\r') ∧ OneLine chars :=
  List.forall_mem_cons

theorem oneLine_hexDigit : ∀ n < 16, hexDigit n ≠ '\n' ∧ hexDigit n ≠ '\r' := by decide

theorem oneLine_escape (c : Char) : OneLine (escape c) := by
  unfold escape
  split_ifs with quote slash newline carriage tab back feed control
  all_goals try simp [OneLine]
  · have low := oneLine_hexDigit (c.toNat / 16) (by omega)
    have high := oneLine_hexDigit (c.toNat % 16) (by omega)
    simp only [ne_eq] at low high
    exact ⟨low, high⟩
  · exact ⟨newline, carriage⟩

theorem oneLine_quoted (text : String) : OneLine (quoted text) := by
  rw [quoted, oneLine_cons, oneLine_append]
  refine ⟨by decide, ?_, by simp [OneLine]⟩
  intro c inside
  obtain ⟨d, -, escaped⟩ := List.mem_flatMap.mp inside
  exact oneLine_escape d c escaped

theorem oneLine_decimal (n : Int) : OneLine (decimal n) := by
  have digits (k : Nat) : OneLine (Nat.toDigits 10 k) := by
    intro c inside
    have digit := Nat.isDigit_of_mem_toDigits (by decide) (by decide) inside
    constructor <;>
    · rintro rfl
      exact absurd digit (by decide)
  cases n with
  | ofNat k => exact digits k
  | negSucc k => exact oneLine_cons.mpr ⟨by decide, digits (k + 1)⟩

mutual
theorem oneLine_print : (v : Value) → OneLine (print v)
  | .null | .float _ | .bool true | .bool false => by simp [print, OneLine]
  | .integer n => oneLine_decimal n
  | .string text => oneLine_quoted text
  | .array [] | .object [] => by simp [print, OneLine]
  | .array (item :: rest) => by
    simp only [print, oneLine_cons, oneLine_append]
    exact ⟨by decide, oneLine_print item, oneLine_items rest⟩
  | .object ((key, value) :: rest) => by
    simp only [print, oneLine_cons, oneLine_append]
    exact ⟨by decide, oneLine_quoted key, by decide, oneLine_print value, oneLine_members rest⟩
theorem oneLine_items : (items : List Value) → OneLine (printItems items)
  | [] => by simp [printItems, OneLine]
  | item :: rest => by
    simp only [printItems, oneLine_cons, oneLine_append]
    exact ⟨by decide, oneLine_print item, oneLine_items rest⟩
theorem oneLine_members : (members : List (String × Value)) → OneLine (printMembers members)
  | [] => by simp [printMembers, OneLine]
  | (key, value) :: rest => by
    simp only [printMembers, oneLine_cons, oneLine_append]
    exact ⟨by decide, oneLine_quoted key, by decide, oneLine_print value, oneLine_members rest⟩
end

/-- The whole text read as one document that nests less than 128 deep. -/
def parse_limited (text : String) : Except String Value :=
  match parse text with
  | .ok v => if depth v ≤ 127 then .ok v else .error "recursion limit exceeded"
  | .error message => .error message

theorem parse_limited_ok {text : String} {v : Value} (found : parse_limited text = .ok v) :
    parse text = .ok v ∧ depth v ≤ 127 := by
  unfold parse_limited at found
  split at found
  · next w read =>
    split_ifs at found with shallow
    cases found
    exact ⟨read, shallow⟩
  · cases found

theorem parse_limited_print {v : Value} (plain : Plain v) (shallow : depth v ≤ 127) :
    parse_limited (String.ofList (print v)) = .ok v := by
  rw [parse_limited, parse_print plain]
  exact if_pos shallow

/-- The printer of `compact`, with the reader bounded. -/
def limited : JsonText where
  to_string v := String.ofList (print v)
  from_str := parse_limited
  reads_back _ plain shallow := parse_limited_print plain shallow
  reads_again key _ v found := by
    obtain ⟨read, shallow⟩ := parse_limited_ok found
    exact ⟨v.without key, parse_limited_print (plain_without key (plain_parse read)) (le_trans (depth_without key v) shallow)⟩

/-- Its documents have no binary64 numbers, and any is written as null. -/
def limited_reading : Reading limited where
  number _ := none
  reads_written v ordered shallow := by
    have written : limited.to_string v = String.ofList (print (reread (fun _ => none) v)) := by
      rw [print_reread_none]
      rfl
    rw [written]
    exact parse_limited_print ordered (by rw [depth_reread]; exact shallow)
  refuses_deep v ordered deep := by
    have read := parse_print ordered
    rw [print_reread_none] at read
    have past : ¬ depth (reread (fun _ => none) v) ≤ 127 := by
      rw [depth_reread]
      omega
    refine ⟨"recursion limit exceeded", ?_⟩
    change parse_limited (String.ofList (print v)) = _
    rw [parse_limited, read]
    exact if_neg past
  reads_ordered _ _ found := ordered_plain (plain_parse (parse_limited_ok found).1)
  one_line v c inside := oneLine_print v c (by simpa [limited] using inside)

end Riscdom.Json
