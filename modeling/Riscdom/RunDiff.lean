import Riscdom.Fingerprint
import Riscdom.JsonRecords

/-!
The comparison of two runs by their fingerprint documents: one row for every
declared field that either carries. Documents that the builder writes carry the
declared fields and no other, so the rows show a difference exactly where the
fingerprints differ.
-/
namespace Riscdom.Provenance
open Json Audit

/-- The fields of a fingerprint document, in the order they are written. -/
def FINGERPRINT_FIELDS : List String := ["schema", "llm", "agent", "vm", "toolchain", "policy", "prompt"]

/-- One field of two documents; a field that one of them lacks is null there. -/
structure FingerprintFieldDiff where
  field : String
  a : Value
  b : Value
  is_different : Bool

section
variable (crates : Crates)

def diff_fingerprints (a b : Value) : List FingerprintFieldDiff :=
  FINGERPRINT_FIELDS.filterMap fun name =>
    if (a.get name).isNone && (b.get name).isNone then none else
    let left := (a.get name).getD .null
    let right := (b.get name).getD .null
    some { field := name, a := left, b := right
           is_different := canonical_json crates left != canonical_json crates right }

/-- An object of the declared fields and no other, which the text of its canonical form is read back as. -/
structure Declared (document : Value) : Prop where
  object : ∃ members, document = .object members
  plain : Plain document
  shallow : depth document ≤ 127
  carries : ∀ name ∈ FINGERPRINT_FIELDS, (document.get name).isSome
  fields : ∀ name, name ∉ FINGERPRINT_FIELDS → document.get name = none

variable {crates}

/-! ### Canonical texts -/

/-- One canonical text is of one canonical form. -/
theorem canonical_json_inj {v w : Value} (plain : Plain v) (shallow : depth v ≤ 127) (other : Plain w) (too : depth w ≤ 127) :
    canonical_json crates v = canonical_json crates w ↔ canonicalize v = canonicalize w := by
  have read {v : Value} (plain : Plain v) (shallow : depth v ≤ 127) :
      crates.json.from_str (canonical_json crates v) = .ok (canonicalize v) :=
    crates.json.reads_back _ (plain_canonicalize _ plain) (le_trans (depth_canonicalize _) shallow)
  constructor
  · intro same
    have first := read plain shallow
    rw [same, read other too] at first
    exact (Except.ok.inj first).symm
  · intro same
    rw [canonical_json, canonical_json, same]

theorem field_plain {document value : Value} {name : String} (plain : Plain document) (shallow : depth document ≤ 127)
    (found : document.get name = some value) : Plain value ∧ depth value ≤ 127 := by
  cases document with
  | object members =>
    have inside : (name, value) ∈ members := mem_of_lookup found
    refine ⟨plainMembers_iff.mp plain.2 _ inside, ?_⟩
    have below : depth value ≤ depth_members members := depth_members_le.mp (le_refl (depth_members members)) _ inside
    simp only [depth] at shallow
    omega
  | _ => cases found

/-- Objects have one canonical form where they have one under every key. -/
theorem canonicalize_ext {a b : Value} (declared : Declared a) (declared_too : Declared b)
    (same : ∀ name, (a.get name).map canonicalize = (b.get name).map canonicalize) : canonicalize a = canonicalize b := by
  obtain ⟨members, rfl⟩ := declared.object
  obtain ⟨others, rfl⟩ := declared_too.object
  have sorted := (plain_canonicalize_members members declared.plain.2).1
  have ordered := (plain_canonicalize_members others declared_too.plain.2).1
  simp only [canonicalize]
  rw [sorted_ext sorted ordered fun name => ?_]
  rw [lookup_canonicalize_members, lookup_canonicalize_members]
  exact same name

/-! ### Rows -/

/-- Declared documents have a row for every declared field. -/
theorem diff_rows {a b : Value} (declared : Declared a) (declared_too : Declared b) (row : FingerprintFieldDiff) :
    row ∈ diff_fingerprints crates a b ↔ ∃ name ∈ FINGERPRINT_FIELDS, ∃ v w, a.get name = some v ∧ b.get name = some w ∧
      row = ⟨name, v, w, canonical_json crates v != canonical_json crates w⟩ := by
  rw [diff_fingerprints, List.mem_filterMap]
  refine exists_congr fun name => and_congr_right fun inside => ?_
  obtain ⟨v, left⟩ := Option.isSome_iff_exists.mp (declared.carries name inside)
  obtain ⟨w, right⟩ := Option.isSome_iff_exists.mp (declared_too.carries name inside)
  simp [left, right, eq_comm]

/-- No row shows a difference exactly where the canonical forms are one. -/
theorem same_rows_iff {a b : Value} (declared : Declared a) (declared_too : Declared b) :
    (∀ row ∈ diff_fingerprints crates a b, row.is_different = false) ↔ canonicalize a = canonicalize b := by
  constructor
  · intro same
    refine canonicalize_ext declared declared_too fun name => ?_
    by_cases inside : name ∈ FINGERPRINT_FIELDS
    · obtain ⟨v, left⟩ := Option.isSome_iff_exists.mp (declared.carries name inside)
      obtain ⟨w, right⟩ := Option.isSome_iff_exists.mp (declared_too.carries name inside)
      have row := same _ ((diff_rows declared declared_too _).mpr ⟨name, inside, v, w, left, right, rfl⟩)
      have texts : canonical_json crates v = canonical_json crates w := by simpa using row
      obtain ⟨plain, shallow⟩ := field_plain declared.plain declared.shallow left
      obtain ⟨other, too⟩ := field_plain declared_too.plain declared_too.shallow right
      rw [left, right, Option.map_some, Option.map_some, (canonical_json_inj plain shallow other too).mp texts]
    · rw [declared.fields name inside, declared_too.fields name inside]
  · intro same row inside
    obtain ⟨name, -, v, w, left, right, rfl⟩ := (diff_rows declared declared_too row).mp inside
    have values := congrArg (Value.get name) same
    rw [get_canonicalize, get_canonicalize, left, right, Option.map_some, Option.map_some, Option.some.injEq] at values
    simp [canonical_json, values]

theorem fingerprint_iff (collision_free : Function.Injective crates.sha256_hex) {a b : Value} (declared : Declared a)
    (declared_too : Declared b) : fingerprint crates a = fingerprint crates b ↔ canonicalize a = canonicalize b := by
  rw [fingerprint, fingerprint, collision_free.eq_iff]
  exact canonical_json_inj declared.plain declared.shallow declared_too.plain declared_too.shallow

/-! ### The documents of runs -/

/-- The builder writes the declared fields and no other. -/
theorem run_fingerprint_declared (setup : RunSetup) (crates : Crates) : Declared (setup.run_fingerprint crates) := by
  obtain ⟨plain, shallow⟩ := setup.run_fingerprint_plain crates
  refine ⟨⟨_, rfl⟩, plain, shallow, ?_, ?_⟩
  · intro name inside
    simp only [FINGERPRINT_FIELDS, List.mem_cons, List.not_mem_nil, or_false] at inside
    rcases inside with rfl | rfl | rfl | rfl | rfl | rfl | rfl
    all_goals simp [RunSetup.run_fingerprint, get_json, lookup]
  · intro name outside
    rw [RunSetup.run_fingerprint, get_json]
    apply lookup_eq_none
    intro inside
    rw [List.map_reverse, List.mem_reverse] at inside
    exact outside inside

/-- No row of the comparison of two runs shows a difference exactly where their fingerprints are one. -/
theorem diff_explains_fingerprints (crates : Crates) (collision_free : Function.Injective crates.sha256_hex)
    (first second : RunSetup) :
    (∀ row ∈ diff_fingerprints crates (first.run_fingerprint crates) (second.run_fingerprint crates), row.is_different = false) ↔
      fingerprint crates (first.run_fingerprint crates) = fingerprint crates (second.run_fingerprint crates) := by
  have declared := run_fingerprint_declared first crates
  have declared_too := run_fingerprint_declared second crates
  rw [same_rows_iff declared declared_too, fingerprint_iff collision_free declared declared_too]

end

/-- The node as it is, and with another model. -/
theorem models_compared :
    (∀ row ∈ diff_fingerprints document_crates (plain_setup.run_fingerprint document_crates)
      (coder_setup.run_fingerprint document_crates), row.is_different = false) ↔
    fingerprint document_crates (plain_setup.run_fingerprint document_crates) =
      fingerprint document_crates (coder_setup.run_fingerprint document_crates) :=
  diff_explains_fingerprints document_crates (digest_of_injective (by decide) (by decide)) plain_setup coder_setup

end Riscdom.Provenance
