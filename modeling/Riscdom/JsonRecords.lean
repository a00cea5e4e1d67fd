import Mathlib.Algebra.Group.Int.Defs
import Mathlib.Algebra.GroupWithZero.Nat
import Riscdom.Json

/-!
Records as documents, the way derived writers and readers hold them: every field
has a kind that is written and read back, a field may be left out where it has a
value of its own then, and unknown members are passed over. A record may also
stand as the list of its fields.
-/
namespace Riscdom.Json
universe u v
variable {α : Type u}

/-- How values of one kind are written, and read back. -/
structure Codec (α : Type u) where
  write : α → Value
  read : Value → Option α

namespace Codec

/-- The value comes back as it was written. -/
def Keeps (codec : Codec α) (a : α) : Prop := codec.read (codec.write a) = some a

def text : Codec String := ⟨.string, Value.as_str⟩

def flag : Codec Bool where
  write := .bool
  read
    | .bool b => some b
    | _ => none

/-- The integers from one bound up to another. -/
def within (low high : Int) : Codec Int where
  write := .integer
  read
    | .integer n => if low ≤ n ∧ n < high then some n else none
    | _ => none

def i64 : Codec Int := within (-2 ^ 63) (2 ^ 63)

/-- The unsigned integers of so many bits. -/
def unsigned (bits : Nat) : Codec Nat where
  write n := .integer n
  read
    | .integer n => if 0 ≤ n ∧ n < 2 ^ bits then some n.toNat else none
    | _ => none

/-- A value that may be missing: null then. -/
def optional (codec : Codec α) : Codec (Option α) where
  write
    | none => .null
    | some a => codec.write a
  read
    | .null => some none
    | v => (codec.read v).map some

def list (codec : Codec α) : Codec (List α) where
  write items := .array (items.map codec.write)
  read
    | .array items => items.mapM codec.read
    | _ => none

/-- The entry of a map. -/
def entry (codec : Codec α) (row : String × α) : String × Value := (row.1, codec.write row.2)
def of_entry (codec : Codec α) (member : String × Value) : Option (String × α) := (codec.read member.2).map (member.1, ·)

/-- A map by text keys, its entries in any order. -/
def entries (codec : Codec α) : Codec (List (String × α)) where
  write rows := json (rows.map codec.entry)
  read
    | .object members => members.mapM codec.of_entry
    | _ => none

theorem Keeps.back {codec : Codec α} {a : α} (keeps : codec.Keeps a) : codec.read (codec.write a) = some a := keeps

@[simp] theorem text_back (t : String) : text.read (text.write t) = some t := rfl
@[simp] theorem flag_back (b : Bool) : flag.read (flag.write b) = some b := rfl

theorem within_keeps {low high n : Int} (above : low ≤ n) (below : n < high) : (within low high).Keeps n :=
  if_pos ⟨above, below⟩

theorem i64_keeps {n : Int} (above : -2 ^ 63 ≤ n) (below : n < 2 ^ 63) : i64.Keeps n := within_keeps above below

theorem unsigned_keeps {bits n : Nat} (fits : n < 2 ^ bits) : (unsigned bits).Keeps n := by
  have inside : (0 : Int) ≤ n ∧ (n : Int) < 2 ^ bits := ⟨Int.natCast_nonneg n, by exact_mod_cast fits⟩
  show (if (0 : Int) ≤ n ∧ (n : Int) < 2 ^ bits then some (n : Int).toNat else none) = some n
  rw [if_pos inside, Int.toNat_natCast]

/-- What is there must not be written as null. -/
theorem optional_keeps {codec : Codec α} {a : Option α} (keeps : ∀ b, a = some b → codec.Keeps b ∧ codec.write b ≠ .null) :
    codec.optional.Keeps a := by
  cases a with
  | none => rfl
  | some b =>
    obtain ⟨back, there⟩ := keeps b rfl
    show codec.optional.read (codec.write b) = some (some b)
    unfold optional
    dsimp only
    split
    · contradiction
    · rw [back, Option.map_some]

/-- Items that each come back, come back together. -/
theorem mapM_keeps {β : Type v} {write : α → β} {read : β → Option α} {items : List α}
    (keeps : ∀ a ∈ items, read (write a) = some a) : (items.map write).mapM read = some items := by
  induction items with
  | nil => rfl
  | cons a items ih =>
    have head := keeps a List.mem_cons_self
    have tail := ih fun b inside => keeps b (List.mem_cons_of_mem _ inside)
    rw [List.map_cons, List.mapM_cons, head, tail]
    rfl

@[simp] theorem text_optional_back (t : Option String) : text.optional.read (text.optional.write t) = some t :=
  optional_keeps fun _ _ => ⟨rfl, nofun⟩

theorem list_keeps {codec : Codec α} {items : List α} (keeps : ∀ a ∈ items, codec.Keeps a) : codec.list.Keeps items :=
  mapM_keeps keeps

end Codec

/-! ### Fields -/

/-- The record as an object: given as one, or as the list of its fields in their order. -/
def record (keys : List String) : Value → Option Value
  | .object members => some (.object members)
  | .array items => if items.length ≤ keys.length then some (.object (keys.zip items)) else none
  | _ => none

def required (codec : Codec α) (key : String) (fields : Value) : Option α := (fields.get key).bind codec.read

/-- A field that has a value where it is left out. -/
def defaulted (codec : Codec α) (fallback : α) (key : String) (fields : Value) : Option α :=
  (fields.get key).elim (some fallback) codec.read

@[simp] theorem record_json (keys : List String) (members : List (String × Value)) :
    record keys (json members) = some (json members) := rfl

@[simp] theorem record_object (keys : List String) (members : List (String × Value)) :
    record keys (.object members) = some (.object members) := rfl

theorem required_of {codec : Codec α} {key : String} {fields : Value} {a : α} (there : fields.get key = some (codec.write a))
    (keeps : codec.Keeps a) : required codec key fields = some a := by
  rw [required, there, Option.bind_some, keeps]

theorem defaulted_of {codec : Codec α} {fallback : α} {key : String} {fields : Value} {a : α}
    (there : fields.get key = some (codec.write a)) (keeps : codec.Keeps a) : defaulted codec fallback key fields = some a := by
  rw [defaulted, there, Option.elim_some, keeps]

/-- A reader goes on with the field it has read. -/
theorem reads {β : Type u} {field : Option α} {a : α} {rest : α → Option β} {b : Option β} (there : field = some a)
    (next : rest a = b) : (do rest (← field)) = b := by
  subst there
  exact next

/-- A reader sees no other member than its own. -/
theorem defaulted_congr (codec : Codec α) (fallback : α) {key : String} {fields others : Value}
    (same : fields.get key = others.get key) : defaulted codec fallback key fields = defaulted codec fallback key others := by
  rw [defaulted, defaulted, same]

/-! ### Maps -/

/-- Entries in the order of their keys, the last of each key. -/
def arranged (rows : List (String × α)) : List (String × α) := rows.foldl (fun object row => insert row.1 row.2 object) []

theorem sorted_arranged (rows : List (String × α)) : Sorted (arranged rows) := sorted_fold rows List.Pairwise.nil

theorem lookup_arranged (key : String) (rows : List (String × α)) : lookup key (arranged rows) = lookup key rows.reverse := by
  rw [arranged, lookup_fold, lookup, Option.or_none]

theorem insert_entry (codec : Codec α) (key : String) (a : α) (rows : List (String × α)) :
    insert key (codec.write a) (rows.map codec.entry) = (insert key a rows).map codec.entry := by
  induction rows with
  | nil => rfl
  | cons head rest ih =>
    obtain ⟨k, v⟩ := head
    rw [List.map_cons, Codec.entry, insert, insert]
    split_ifs
    · rfl
    · rfl
    · rw [List.map_cons, ih, Codec.entry]

theorem json_entries (codec : Codec α) (rows : List (String × α)) :
    json (rows.map codec.entry) = .object ((arranged rows).map codec.entry) := by
  have along (object : List (String × α)) :
      (rows.map codec.entry).foldl (fun object member => insert member.1 member.2 object) (object.map codec.entry) =
        (rows.foldl (fun object row => insert row.1 row.2 object) object).map codec.entry := by
    induction rows generalizing object with
    | nil => rfl
    | cons row rows ih => rw [List.map_cons, List.foldl_cons, List.foldl_cons, ← ih, ← insert_entry, Codec.entry]
  exact congrArg Value.object (along [])

/-- An entry of the arranged ones was one of the entries. -/
theorem mem_arranged {rows : List (String × α)} {row : String × α} (inside : row ∈ arranged rows) : row ∈ rows := by
  have along : ∀ object, row ∈ rows.foldl (fun object row => insert row.1 row.2 object) object → row ∈ rows ∨ row ∈ object := by
    clear inside
    induction rows with
    | nil => exact fun object inside => .inr inside
    | cons head rest ih =>
      intro object inside
      rcases ih _ inside with later | earlier
      · exact .inl (List.mem_cons_of_mem _ later)
      · rcases mem_insert earlier with rfl | old
        · exact .inl List.mem_cons_self
        · exact .inr old
  rcases along [] inside with there | none
  · exact there
  · cases none

/-- A map comes back with its entries in the order of their keys. -/
theorem entries_read {codec : Codec α} {rows : List (String × α)} (keeps : ∀ row ∈ rows, codec.Keeps row.2) :
    codec.entries.read (codec.entries.write rows) = some (arranged rows) := by
  show codec.entries.read (json (rows.map codec.entry)) = _
  rw [json_entries]
  refine Codec.mapM_keeps fun row inside => ?_
  have back : codec.read (codec.write row.2) = some row.2 := keeps row (mem_arranged inside)
  rw [Codec.entry, Codec.of_entry, back, Option.map_some]

theorem lookup_append (key : String) (first second : List (String × α)) :
    lookup key (first ++ second) = (lookup key first).or (lookup key second) := by
  induction first with
  | nil => rfl
  | cons head rest ih =>
    obtain ⟨k, v⟩ := head
    rw [List.cons_append, lookup, lookup, ih]
    split_ifs
    · rfl
    · rfl

theorem lookup_eq_none {key : String} {rows : List (String × α)} (missing : key ∉ rows.map Prod.fst) : lookup key rows = none := by
  induction rows with
  | nil => rfl
  | cons head rest ih =>
    obtain ⟨k, v⟩ := head
    rw [List.map_cons, List.mem_cons, not_or] at missing
    rw [lookup, if_neg missing.1, ih missing.2]

theorem lookup_of_mem {key : String} {value : α} {rows : List (String × α)} (distinct : (rows.map Prod.fst).Nodup)
    (inside : (key, value) ∈ rows) : lookup key rows = some value := by
  induction rows with
  | nil => cases inside
  | cons head rest ih =>
    obtain ⟨k, v⟩ := head
    rw [List.map_cons, List.nodup_cons] at distinct
    rcases List.mem_cons.mp inside with here | later
    · cases here
      rw [lookup, if_pos rfl]
    · have differs : key ≠ k := by
        rintro rfl
        exact distinct.1 (List.mem_map.mpr ⟨(key, value), later, rfl⟩)
      rw [lookup, if_neg differs, ih distinct.2 later]

theorem mem_of_lookup {key : String} {value : α} {rows : List (String × α)} (found : lookup key rows = some value) :
    (key, value) ∈ rows := by
  induction rows with
  | nil => cases found
  | cons head rest ih =>
    obtain ⟨k, v⟩ := head
    rw [lookup] at found
    split_ifs at found with same
    · cases found
      rw [same]
      exact List.mem_cons_self
    · exact List.mem_cons_of_mem _ (ih found)

/-- Where no key stands twice, the first entry of a key is the last. -/
theorem lookup_reverse (key : String) {rows : List (String × α)} (distinct : (rows.map Prod.fst).Nodup) :
    lookup key rows.reverse = lookup key rows := by
  induction rows with
  | nil => rfl
  | cons head rest ih =>
    obtain ⟨k, v⟩ := head
    rw [List.map_cons, List.nodup_cons] at distinct
    rw [List.reverse_cons, lookup_append, ih distinct.2, lookup, lookup, lookup]
    split_ifs with same
    · subst same
      rw [lookup_eq_none distinct.1, Option.none_or]
    · exact Option.or_none

/-- What stands above a key is not under it. -/
theorem lookup_above {key : String} {rows : List (String × α)} (above : ∀ row ∈ rows, key < row.1) : lookup key rows = none := by
  apply lookup_eq_none
  intro inside
  obtain ⟨row, there, rfl⟩ := List.mem_map.mp inside
  exact lt_irrefl _ (above row there)

/-- Members in the order of their keys are known by what stands under each key. -/
theorem sorted_ext {first second : List (String × α)} (sorted : Sorted first) (ordered : Sorted second)
    (same : ∀ key, lookup key first = lookup key second) : first = second := by
  induction first generalizing second with
  | nil =>
    cases second with
    | nil => rfl
    | cons other others =>
      have found := same other.1
      simp [lookup] at found
  | cons head rest ih =>
    obtain ⟨k, v⟩ := head
    obtain ⟨above, sortedRest⟩ := List.pairwise_cons.mp sorted
    cases second with
    | nil =>
      have found := same k
      simp [lookup] at found
    | cons other others =>
      obtain ⟨l, w⟩ := other
      obtain ⟨beyond, orderedRest⟩ := List.pairwise_cons.mp ordered
      rcases lt_trichotomy k l with below | equal | higher
      · have found := same k
        rw [lookup, if_pos rfl, lookup_above fun row inside => ?_] at found
        · cases found
        · rcases List.mem_cons.mp inside with rfl | later
          · exact below
          · exact below.trans (beyond row later)
      · subst equal
        have value := same k
        simp only [lookup, if_true, Option.some.injEq] at value
        subst value
        congr 1
        refine ih sortedRest orderedRest fun key => ?_
        by_cases here : key = k
        · rw [here, lookup_above above, lookup_above beyond]
        · simpa [lookup, here] using same key
      · have found := same l
        rw [lookup_above fun row inside => ?_, lookup, if_pos rfl] at found
        · cases found
        · rcases List.mem_cons.mp inside with rfl | later
          · exact higher
          · exact higher.trans (above row later)

/-- What stands in its place is put there again. -/
theorem insert_lookup {key : String} {value : α} {rows : List (String × α)} (sorted : Sorted rows)
    (there : lookup key rows = some value) : insert key value rows = rows := by
  induction rows with
  | nil => cases there
  | cons head rest ih =>
    obtain ⟨k, v⟩ := head
    obtain ⟨above, sortedRest⟩ := List.pairwise_cons.mp sorted
    rw [lookup] at there
    rw [insert]
    split_ifs at there ⊢ with same below
    · rw [same, Option.some.inj there]
    · -- the key stands further on, above the first
      have later : key ∈ rest.map Prod.fst := by
        by_contra missing
        rw [lookup_eq_none missing] at there
        cases there
      obtain ⟨row, inside, rfl⟩ := List.mem_map.mp later
      exact absurd (above row inside) (lt_asymm below)
    · rw [ih sortedRest there]

theorem get_json_mem {key : String} {value : Value} {members : List (String × Value)} (distinct : (members.map Prod.fst).Nodup)
    (inside : (key, value) ∈ members) : (json members).get key = some value := by
  rw [get_json, lookup_reverse key distinct, lookup_of_mem distinct inside]

end Riscdom.Json
