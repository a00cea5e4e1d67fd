import Mathlib.Data.Set.Function
import Riscdom.JsonReading
import Riscdom.JsonRecords
import Riscdom.RunRecords

/-!
The canonical text of a document, against equality of documents that leaves the
order of an object's members out of account: two objects are alike when they have
the same keys and what stands under each key is alike. Equality of binary64
numbers is a parameter, since the two zeros are equal numbers with texts of their
own.
-/
namespace Riscdom.Json
open Riscdom.Audit (Crates canonical_json)

/-- Equality up to the order of the members of objects, at every depth; of two binary64 numbers, by the relation. -/
inductive AlikeBy (floats : UInt64 → UInt64 → Prop) : Value → Value → Prop
  | same (v : Value) : AlikeBy floats v v
  | float {a b : UInt64} (equal : floats a b) : AlikeBy floats (.float a) (.float b)
  | array {items others : List Value} (length : items.length = others.length)
      (each : ∀ (i : Nat) (v w : Value), items[i]? = some v → others[i]? = some w → AlikeBy floats v w) :
      AlikeBy floats (.array items) (.array others)
  | object {members others : List (String × Value)}
      (keys : ∀ key : String, (lookup key members).isSome = (lookup key others).isSome)
      (each : ∀ (key : String) (v w : Value), lookup key members = some v → lookup key others = some w → AlikeBy floats v w) :
      AlikeBy floats (.object members) (.object others)

/-- Two binary64 numbers are alike bit for bit, so that the two zeros are told apart. -/
abbrev Alike : Value → Value → Prop := AlikeBy Eq

/-- Two binary64 numbers are alike where `==` has them equal, so that the two zeros are one. -/
abbrev AlikeNumbers : Value → Value → Prop := AlikeBy fun a b => same_float a b = true

theorem sorted_canonicalize_members (members : List (String × Value)) : Sorted (canonicalize_members members) := by
  induction members with
  | nil => simp [canonicalize_members, Sorted]
  | cons head rest ih =>
    rw [canonicalize_members]
    exact sorted_insert head.1 (canonicalize head.2) ih

/-- Canonical members are known by the keys and by what stands under each. -/
theorem canonicalize_members_eq_iff (members others : List (String × Value)) :
    canonicalize_members members = canonicalize_members others ↔
      ∀ key, (lookup key members).map canonicalize = (lookup key others).map canonicalize := by
  constructor
  · intro same key
    rw [← lookup_canonicalize_members, same, lookup_canonicalize_members]
  · intro same
    refine sorted_ext (sorted_canonicalize_members members) (sorted_canonicalize_members others) fun key => ?_
    rw [lookup_canonicalize_members, lookup_canonicalize_members, same]

/-- The order of members leaves no trace. -/
theorem canonicalize_of_alike {v w : Value} (alike : Alike v w) : canonicalize v = canonicalize w := by
  induction alike with
  | same v => rfl
  | float equal => rw [equal]
  | @array items others length each ih =>
    simp only [Json.canonicalize, canonicalize_items_eq_map]
    congr 1
    refine List.ext_getElem (by simpa using length) fun i inside there => ?_
    simp only [List.length_map] at inside there
    simp only [List.getElem_map]
    exact ih i _ _ (List.getElem?_eq_getElem inside) (List.getElem?_eq_getElem there)
  | @object members others keys each ih =>
    simp only [Json.canonicalize]
    congr 1
    refine (canonicalize_members_eq_iff members others).mpr fun key => ?_
    have present := keys key
    cases found : lookup key members with
    | none =>
      rw [found] at present
      cases there : lookup key others with
      | none => rfl
      | some w =>
        rw [there] at present
        cases present
    | some v =>
      rw [found] at present
      cases there : lookup key others with
      | none =>
        rw [there] at present
        cases present
      | some w => exact congrArg some (ih key v w found there)

theorem depth_item {items : List Value} {i : Nat} {v : Value} (found : items[i]? = some v) : depth v < depth (.array items) := by
  have below : depth v ≤ depth_items items := depth_items_le.mp le_rfl v (List.mem_of_getElem? found)
  simp only [depth]
  omega

/-- What has one canonical form is alike: the induction is on the depth, an item or a member is less deep. -/
theorem alike_of_canonicalize {v w : Value} (same : canonicalize v = canonicalize w) : Alike v w := by
  induction deep : depth v using Nat.strongRecOn generalizing v w with
  | ind d ih =>
    subst deep
    cases v with
    | array items =>
      cases w with
      | array others =>
        simp only [canonicalize, canonicalize_items_eq_map, Value.array.injEq] at same
        have length : items.length = others.length := by simpa using congrArg List.length same
        refine .array length fun i v w found there => ih _ (depth_item found) ?_ rfl
        have each := congrArg (·[i]?) same
        simpa [found, there] using each
      | _ => simp [canonicalize] at same
    | object members =>
      cases w with
      | object others =>
        simp only [canonicalize, Value.object.injEq] at same
        have each := (canonicalize_members_eq_iff members others).mp same
        refine .object (fun key => ?_) fun key v w found there => ih _ (@depth_get key (.object members) v found) ?_ rfl
        · simpa using congrArg Option.isSome (each key)
        · simpa [found, there] using each key
      | _ => simp [canonicalize] at same
    | _ =>
      cases w with
      | array others => simp [canonicalize] at same
      | object others => simp [canonicalize] at same
      | _ => cases same <;> exact .same _

theorem alike_iff (v w : Value) : Alike v w ↔ canonicalize v = canonicalize w :=
  ⟨canonicalize_of_alike, alike_of_canonicalize⟩

theorem canonicalize_idem (v : Value) : canonicalize (canonicalize v) = canonicalize v := by
  induction deep : depth v using Nat.strongRecOn generalizing v with
  | ind d ih =>
    subst deep
    cases v with
    | array items =>
      simp only [canonicalize, canonicalize_items_eq_map, List.map_map]
      congr 1
      refine List.map_congr_left fun item inside => ?_
      obtain ⟨i, found⟩ := List.mem_iff_getElem?.mp inside
      exact ih _ (depth_item found) item rfl
    | object members =>
      simp only [canonicalize]
      congr 1
      refine (canonicalize_members_eq_iff _ _).mpr fun key => ?_
      rw [lookup_canonicalize_members]
      cases found : lookup key members with
      | none => rfl
      | some w => exact congrArg some (ih _ (@depth_get key (.object members) w found) w rfl)
    | _ => rfl

/-- On documents whose texts differ where they do, two canonical texts are one exactly for documents that are alike, their
    binary64 numbers bit for bit; and what is canonical stays as it is. -/
theorem canonical_json_eq_iff (crates : Crates) {documents : Set Value} (injective : Set.InjOn crates.json.to_string documents)
    (v w : Value) (inside : canonicalize v ∈ documents) (inside_too : canonicalize w ∈ documents) :
    (canonical_json crates v = canonical_json crates w ↔ Alike v w) ∧ canonicalize (canonicalize v) = canonicalize v := by
  refine ⟨?_, canonicalize_idem v⟩
  rw [alike_iff, canonical_json, canonical_json]
  exact injective.eq_iff inside inside_too

/-- Members in two orders, one of them within an array. -/
def in_order : Value := .object [("body", .array [.object [("a", .integer 1), ("b", .null)]]), ("ts", .integer 7)]
def out_of_order : Value := .object [("ts", .integer 7), ("body", .array [.object [("b", .null), ("a", .integer 1)]])]

theorem orders_one_text : ∃ crates : Crates,
    (canonical_json crates in_order = canonical_json crates out_of_order ↔ Alike in_order out_of_order) ∧
      canonicalize (canonicalize in_order) = canonicalize in_order := by
  have reads : Set.InjOn compact.to_string {v | Plain v ∧ depth v ≤ 127} := by
    intro v first w second same
    have read := compact.reads_back v first.1 first.2
    rw [same, compact.reads_back w second.1 second.2] at read
    exact (Except.ok.inj read).symm
  have order : "a" < "b" ∧ "body" < "ts" ∧ ¬"b" < "a" ∧ ¬"ts" < "body" := by decide
  have plain : Plain in_order ∧ depth in_order ≤ 127 := by
    simp only [in_order, Plain, PlainItems, PlainMembers, Sorted, depth, depth_items, depth_members]
    refine ⟨⟨?_, ⟨⟨?_, trivial, trivial, trivial⟩, trivial⟩, trivial, trivial⟩, by omega⟩
    · exact List.pairwise_pair.mpr order.2.1
    · exact List.pairwise_pair.mpr order.1
  have first : canonicalize in_order = in_order := by
    simp [order, in_order, canonicalize, canonicalize_items, canonicalize_members, insert]
  have second : canonicalize out_of_order = in_order := by
    simp [order, in_order, out_of_order, canonicalize, canonicalize_items, canonicalize_members, insert]
  exact ⟨⟨id, compact⟩, canonical_json_eq_iff ⟨id, compact⟩ reads in_order out_of_order (first ▸ plain) (second ▸ plain)⟩

/-- An object of the positive zero, and one of the negative. -/
def zero : Value := .object [("a", .float 0)]
def negative_zero : Value := .object [("a", .float 0x8000000000000000)]

/-- The printer of `compact`, which also writes a sign to the zero of an object that has nothing else. -/
def signed : JsonText where
  to_string
    | .object [(key, .float bits)] => "\x7b\"" ++ key ++ "\":" ++ (if bits = 0 then "0.0" else "-0.0") ++ "\x7d"
    | v => compact.to_string v
  from_str := compact.from_str
  reads_back := by
    rintro v plain shallow
    split
    · simp [Plain, PlainMembers] at plain
    · exact compact.reads_back v plain shallow
  reads_again := by
    rintro key text v found
    have plain := plain_without key (plain_parse found)
    refine ⟨v.without key, ?_⟩
    split
    · next same =>
      rw [same] at plain
      simp [Plain, PlainMembers] at plain
    · exact parse_print plain

/-- The two zeros are one number, and their canonical texts differ. -/
theorem zeros_apart : ∃ crates : Crates, Set.InjOn crates.json.to_string {canonicalize zero, canonicalize negative_zero} ∧
    AlikeNumbers zero negative_zero ∧ canonical_json crates zero ≠ canonical_json crates negative_zero := by
  have first : canonicalize zero = zero := by simp [zero, canonicalize, canonicalize_members, insert]
  have second : canonicalize negative_zero = negative_zero := by
    simp [negative_zero, canonicalize, canonicalize_members, insert]
  have differ : signed.to_string zero ≠ signed.to_string negative_zero := by decide
  refine ⟨⟨id, signed⟩, ?_, ?_, ?_⟩
  · rw [first, second]
    rintro v (rfl | rfl) w (rfl | rfl) same
    · rfl
    · exact absurd same differ
    · exact absurd same.symm differ
    · rfl
  · refine .object (fun key => ?_) fun key v w found there => ?_
    · simp only [lookup]
      split_ifs <;> rfl
    simp only [lookup] at found there
    split_ifs at found there
    cases found
    cases there
    exact .float (by decide)
  · rw [canonical_json, canonical_json, first, second]
    exact differ

end Riscdom.Json
