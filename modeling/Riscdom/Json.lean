import Mathlib.Data.List.Induction
import Mathlib.Data.String.Basic

/-!
JSON documents, as a map-backed JSON library holds them: the members of an
object stand in the order of their keys, no key twice. A number is an integer or
the bits of a binary64; only documents without the latter are read back exactly
from their text, so `Plain` leaves them out.
-/
namespace Riscdom.Json
universe u
variable {α : Type u}

/-! ### Members of an object -/

/-- Put a member at its place, in the stead of one with the same key. -/
def insert (key : String) (value : α) : List (String × α) → List (String × α)
  | [] => [(key, value)]
  | (k, v) :: rest =>
    if key = k then (key, value) :: rest else
    if key < k then (key, value) :: (k, v) :: rest else (k, v) :: insert key value rest

def lookup (key : String) : List (String × α) → Option α
  | [] => none
  | (k, v) :: rest => if key = k then some v else lookup key rest

def remove (key : String) : List (String × α) → List (String × α)
  | [] => []
  | (k, v) :: rest => if key = k then rest else (k, v) :: remove key rest

/-- The keys rise strictly. -/
def Sorted (members : List (String × α)) : Prop := members.Pairwise fun m n => m.1 < n.1

theorem mem_insert {key : String} {value : α} {members : List (String × α)} {m : String × α}
    (inside : m ∈ insert key value members) : m = (key, value) ∨ m ∈ members := by
  induction members with
  | nil => simpa [insert] using inside
  | cons head rest ih =>
    obtain ⟨k, v⟩ := head
    simp only [insert] at inside
    split_ifs at inside
    · exact (List.mem_cons.mp inside).imp_right (List.mem_cons_of_mem _)
    · exact List.mem_cons.mp inside
    · rcases List.mem_cons.mp inside with rfl | later
      · exact .inr List.mem_cons_self
      · exact (ih later).imp_right (List.mem_cons_of_mem _)

theorem sorted_insert (key : String) (value : α) {members : List (String × α)} (sorted : Sorted members) :
    Sorted (insert key value members) := by
  induction members with
  | nil => simp [insert, Sorted]
  | cons head rest ih =>
    obtain ⟨k, v⟩ := head
    obtain ⟨above, sortedRest⟩ := List.pairwise_cons.mp sorted
    simp only [insert]
    split_ifs with same below
    · subst same
      exact List.pairwise_cons.mpr ⟨above, sortedRest⟩
    · refine List.pairwise_cons.mpr ⟨fun m inside => ?_, sorted⟩
      rcases List.mem_cons.mp inside with rfl | later
      · exact below
      · exact lt_trans below (above m later)
    · refine List.pairwise_cons.mpr ⟨fun m inside => ?_, ih sortedRest⟩
      rcases mem_insert inside with rfl | later
      · exact lt_of_le_of_ne (not_lt.mp below) (Ne.symm same)
      · exact above m later

theorem lookup_insert (key other : String) (value : α) (members : List (String × α)) :
    lookup other (insert key value members) = if other = key then some value else lookup other members := by
  induction members with
  | nil => rfl
  | cons head rest ih =>
    obtain ⟨k, v⟩ := head
    simp only [insert]
    split_ifs with same below other_key <;> simp only [lookup, ih] <;> split_ifs <;> simp_all

theorem remove_sublist (key : String) (members : List (String × α)) : (remove key members).Sublist members := by
  induction members with
  | nil => exact .slnil
  | cons head rest ih =>
    obtain ⟨k, v⟩ := head
    simp only [remove]
    split_ifs
    · exact List.sublist_cons_self _ _
    · exact ih.cons_cons _

theorem lookup_remove {key other : String} (differs : other ≠ key) (members : List (String × α)) :
    lookup other (remove key members) = lookup other members := by
  induction members with
  | nil => rfl
  | cons head rest ih =>
    obtain ⟨k, v⟩ := head
    rw [remove]
    by_cases here : key = k
    · have other_key : ¬ other = k := by
        rw [← here]
        exact differs
      rw [if_pos here, lookup, if_neg other_key]
    · rw [if_neg here, lookup, lookup, ih]

/-! ### Documents -/

inductive Value
  | null
  | bool (b : Bool)
  | integer (n : Int)
  | float (bits : UInt64)
  | string (text : String)
  | array (items : List Value)
  | object (members : List (String × Value))
deriving Inhabited

/-- The object with these members, whatever their order. -/
def json (members : List (String × Value)) : Value :=
  .object (members.foldl (fun object member => insert member.1 member.2 object) [])

namespace Value

def get (key : String) : Value → Option Value
  | object members => lookup key members
  | _ => none

def as_str : Value → Option String
  | string text => some text
  | _ => none

/-- The document less one top-level member. -/
def without (key : String) : Value → Value
  | object members => object (remove key members)
  | other => other

/-- An optional text as a document: the text, or null. -/
def ofOption : Option String → Value
  | some text => string text
  | none => null

end Value

/-- Equality of numbers in binary64: the two zeros are one number. -/
def same_float (a b : UInt64) : Bool := a == b || (a <<< 1 == 0 && b <<< 1 == 0)

mutual
/-- Equality of documents. -/
def same : Value → Value → Bool
  | .null, .null => true
  | .bool a, .bool b => a == b
  | .integer a, .integer b => a == b
  | .float a, .float b => same_float a b
  | .string a, .string b => a == b
  | .array a, .array b => same_items a b
  | .object a, .object b => same_members a b
  | _, _ => false
def same_items : List Value → List Value → Bool
  | [], [] => true
  | a :: as, b :: bs => same a b && same_items as bs
  | _, _ => false
def same_members : List (String × Value) → List (String × Value) → Bool
  | [], [] => true
  | (k, a) :: as, (l, b) :: bs => k == l && same a b && same_members as bs
  | _, _ => false
end

mutual
/-- Objects with their keys sorted, at every depth. -/
def canonicalize : Value → Value
  | .array items => .array (canonicalize_items items)
  | .object members => .object (canonicalize_members members)
  | other => other
def canonicalize_items : List Value → List Value
  | [] => []
  | item :: rest => canonicalize item :: canonicalize_items rest
def canonicalize_members : List (String × Value) → List (String × Value)
  | [] => []
  | (key, value) :: rest => insert key (canonicalize value) (canonicalize_members rest)
end

mutual
/-- The objects and arrays around the deepest value. -/
def depth : Value → Nat
  | .array items => depth_items items + 1
  | .object members => depth_members members + 1
  | _ => 0
def depth_items : List Value → Nat
  | [] => 0
  | item :: rest => max (depth item) (depth_items rest)
def depth_members : List (String × Value) → Nat
  | [] => 0
  | (_, value) :: rest => max (depth value) (depth_members rest)
end

mutual
/-- No binary64 anywhere, and the keys of every object in order. -/
def Plain : Value → Prop
  | .float _ => False
  | .array items => PlainItems items
  | .object members => Sorted members ∧ PlainMembers members
  | _ => True
def PlainItems : List Value → Prop
  | [] => True
  | item :: rest => Plain item ∧ PlainItems rest
def PlainMembers : List (String × Value) → Prop
  | [] => True
  | (_, value) :: rest => Plain value ∧ PlainMembers rest
end

theorem depth_members_le {members : List (String × Value)} {d : Nat} :
    depth_members members ≤ d ↔ ∀ m ∈ members, depth m.2 ≤ d := by
  induction members with
  | nil => simp [depth_members]
  | cons head rest ih => simp [depth_members, ih]

theorem depth_items_le {items : List Value} {d : Nat} : depth_items items ≤ d ↔ ∀ v ∈ items, depth v ≤ d := by
  induction items with
  | nil => simp [depth_items]
  | cons head rest ih => simp [depth_items, ih]

theorem plainMembers_iff {members : List (String × Value)} : PlainMembers members ↔ ∀ m ∈ members, Plain m.2 := by
  induction members with
  | nil => simp [PlainMembers]
  | cons head rest ih => simp [PlainMembers, ih]

theorem plainItems_iff {items : List Value} : PlainItems items ↔ ∀ v ∈ items, Plain v := by
  induction items with
  | nil => simp [PlainItems]
  | cons head rest ih => simp [PlainItems, ih]

@[simp] theorem plain_null : Plain .null := trivial
@[simp] theorem plain_bool (b : Bool) : Plain (.bool b) := trivial
@[simp] theorem plain_integer (n : Int) : Plain (.integer n) := trivial
@[simp] theorem plain_string (text : String) : Plain (.string text) := trivial
@[simp] theorem depth_null : depth .null = 0 := by simp [depth]
@[simp] theorem depth_bool (b : Bool) : depth (.bool b) = 0 := by simp [depth]
@[simp] theorem depth_integer (n : Int) : depth (.integer n) = 0 := by simp [depth]
@[simp] theorem depth_string (text : String) : depth (.string text) = 0 := by simp [depth]
@[simp] theorem plain_ofOption (text : Option String) : Plain (.ofOption text) := by cases text <;> simp [Value.ofOption]
@[simp] theorem depth_ofOption (text : Option String) : depth (.ofOption text) = 0 := by
  cases text <;> simp [Value.ofOption]
@[simp] theorem as_str_string (text : String) : (Value.string text).as_str = some text := rfl
@[simp] theorem as_str_ofOption (text : Option String) : (Value.ofOption text).as_str = text := by cases text <;> rfl

theorem plain_without (key : String) {v : Value} (plain : Plain v) : Plain (v.without key) := by
  cases v with
  | object members =>
    simp only [Value.without, Plain, plainMembers_iff] at plain ⊢
    have sub := remove_sublist key members
    exact ⟨plain.1.sublist sub, fun m inside => plain.2 m (sub.subset inside)⟩
  | _ => exact plain

theorem depth_without (key : String) (v : Value) : depth (v.without key) ≤ depth v := by
  cases v with
  | object members =>
    simp only [Value.without, depth]
    have shallow := depth_members_le.mp (le_refl (depth_members members))
    have kept : depth_members (remove key members) ≤ depth_members members :=
      depth_members_le.mpr fun m inside => shallow m ((remove_sublist key members).subset inside)
    omega
  | _ => exact le_rfl

/-! ### Object literals -/

theorem sorted_fold (members : List (String × α)) {object : List (String × α)} (sorted : Sorted object) :
    Sorted (members.foldl (fun object member => insert member.1 member.2 object) object) := by
  induction members generalizing object with
  | nil => exact sorted
  | cons head rest ih => exact ih (sorted_insert head.1 head.2 sorted)

private theorem mem_fold (members : List (String × Value)) {object : List (String × Value)} {m : String × Value}
    (inside : m ∈ members.foldl (fun object member => insert member.1 member.2 object) object) :
    m ∈ members ∨ m ∈ object := by
  induction members generalizing object with
  | nil => exact .inr inside
  | cons head rest ih =>
    rcases ih inside with later | earlier
    · exact .inl (List.mem_cons_of_mem _ later)
    · rcases mem_insert earlier with rfl | old
      · exact .inl List.mem_cons_self
      · exact .inr old

theorem lookup_fold (key : String) (members object : List (String × α)) :
    lookup key (members.foldl (fun object member => insert member.1 member.2 object) object) =
      (lookup key members.reverse).or (lookup key object) := by
  induction members using List.reverseRecOn with
  | nil => rfl
  | append_singleton members last ih =>
    obtain ⟨k, v⟩ := last
    simp only [List.foldl_append, List.foldl_cons, List.foldl_nil, lookup_insert, ih, List.reverse_append,
      List.reverse_cons, List.reverse_nil, List.nil_append, List.singleton_append, lookup]
    split_ifs <;> rfl

theorem plain_json {members : List (String × Value)} (plain : ∀ m ∈ members, Plain m.2) : Plain (json members) := by
  refine ⟨sorted_fold members List.Pairwise.nil, plainMembers_iff.mpr fun m inside => ?_⟩
  rcases mem_fold members inside with given | none
  · exact plain m given
  · cases none

theorem depth_json {members : List (String × Value)} {d : Nat} (shallow : ∀ m ∈ members, depth m.2 ≤ d) :
    depth (json members) ≤ d + 1 := by
  refine Nat.succ_le_succ (depth_members_le.mpr fun m inside => ?_)
  rcases mem_fold members inside with given | none
  · exact shallow m given
  · cases none

/-- A member of an object literal is the last one written under its key. -/
theorem get_json (key : String) (members : List (String × Value)) :
    (json members).get key = lookup key members.reverse := by
  simp [json, Value.get, lookup_fold, lookup, Option.or_none]

theorem get_without {key other : String} (differs : other ≠ key) (v : Value) : (v.without key).get other = v.get other := by
  cases v with
  | object members => exact lookup_remove differs members
  | _ => rfl

/-! ### Canonical form -/

theorem lookup_canonicalize_members (key : String) (members : List (String × Value)) :
    lookup key (canonicalize_members members) = (lookup key members).map canonicalize := by
  induction members with
  | nil => rfl
  | cons head rest ih =>
    obtain ⟨k, v⟩ := head
    simp only [canonicalize_members, lookup_insert, lookup, ih]
    split_ifs <;> rfl

theorem get_canonicalize (key : String) (v : Value) : (canonicalize v).get key = (v.get key).map canonicalize := by
  cases v with
  | object members => exact lookup_canonicalize_members key members
  | _ => rfl

theorem canonicalize_items_eq_map (items : List Value) : canonicalize_items items = items.map canonicalize := by
  induction items with
  | nil => rfl
  | cons item rest ih => simp [canonicalize_items, ih]

mutual
theorem plain_canonicalize : (v : Value) → Plain v → Plain (canonicalize v)
  | .null, _ | .bool _, _ | .integer _, _ | .string _, _ => by simp [canonicalize]
  | .float _, plain => plain
  | .array items, plain => by
    simp only [canonicalize, Plain] at plain ⊢
    exact plain_canonicalize_items items plain
  | .object members, plain => by
    simp only [canonicalize, Plain] at plain ⊢
    exact plain_canonicalize_members members plain.2
theorem plain_canonicalize_items : (items : List Value) → PlainItems items → PlainItems (canonicalize_items items)
  | [], _ => by simp [canonicalize_items, PlainItems]
  | item :: rest, plain => by
    simp only [canonicalize_items, PlainItems] at plain ⊢
    exact ⟨plain_canonicalize item plain.1, plain_canonicalize_items rest plain.2⟩
theorem plain_canonicalize_members : (members : List (String × Value)) → PlainMembers members →
    Sorted (canonicalize_members members) ∧ PlainMembers (canonicalize_members members)
  | [], _ => by simp [canonicalize_members, PlainMembers, Sorted]
  | (key, value) :: rest, plain => by
    simp only [canonicalize_members, PlainMembers] at plain ⊢
    obtain ⟨sorted, plainRest⟩ := plain_canonicalize_members rest plain.2
    refine ⟨sorted_insert _ _ sorted, plainMembers_iff.mpr fun m inside => ?_⟩
    rcases mem_insert inside with rfl | old
    · exact plain_canonicalize value plain.1
    · exact plainMembers_iff.mp plainRest m old
end

mutual
theorem depth_canonicalize : (v : Value) → depth (canonicalize v) ≤ depth v
  | .null | .bool _ | .integer _ | .float _ | .string _ => by simp [canonicalize]
  | .array items => by simpa [canonicalize, depth] using depth_canonicalize_items items
  | .object members => by simpa [canonicalize, depth] using depth_canonicalize_members members
theorem depth_canonicalize_items : (items : List Value) → depth_items (canonicalize_items items) ≤ depth_items items
  | [] => le_rfl
  | item :: rest => max_le_max (depth_canonicalize item) (depth_canonicalize_items rest)
theorem depth_canonicalize_members : (members : List (String × Value)) →
    depth_members (canonicalize_members members) ≤ depth_members members
  | [] => le_rfl
  | (key, value) :: rest => by
    refine depth_members_le.mpr fun m inside => ?_
    rcases mem_insert inside with rfl | old
    · exact le_trans (depth_canonicalize value) (le_max_left _ _)
    · exact le_trans (depth_members_le.mp (depth_canonicalize_members rest) m old) (le_max_right _ _)
end

end Riscdom.Json
