import Mathlib.Data.List.Basic
import Mathlib.Data.List.Forall2

/-!
Hash chains over any rows: each row names the hash of the row before it and
carries a hash of its own, which a digest of the row recomputes. `Linked` is the
property an auditor walks the rows for, `tip` the hash the next row has to name.
-/
namespace Riscdom.HashChain
universe u v
variable {Row : Type u} {Hash : Type v} (prev hash digest : Row → Hash)

/-- The rows continue from `first`, and every hash is the digest of its row. -/
def Linked (first : Hash) : List Row → Prop
  | [] => True
  | r :: rest => prev r = first ∧ hash r = digest r ∧ Linked (hash r) rest

/-- The hash that the row after these has to name. -/
def tip (first : Hash) : List Row → Hash
  | [] => first
  | r :: rest => tip (hash r) rest

variable {prev hash digest}

@[simp] theorem linked_nil (first : Hash) : Linked prev hash digest first [] := trivial
@[simp] theorem linked_cons (first : Hash) (r : Row) (rest : List Row) :
    Linked prev hash digest first (r :: rest) ↔
      prev r = first ∧ hash r = digest r ∧ Linked prev hash digest (hash r) rest := Iff.rfl
@[simp] theorem tip_nil (first : Hash) : tip hash first [] = first := rfl
@[simp] theorem tip_cons (first : Hash) (r : Row) (rest : List Row) :
    tip hash first (r :: rest) = tip hash (hash r) rest := rfl

theorem tip_eq_getLast (first : Hash) (rows : List Row) :
    tip hash first rows = (rows.getLast?.map hash).getD first := by
  induction rows generalizing first with
  | nil => rfl
  | cons r rows ih =>
    rw [tip_cons, ih]
    cases rows <;> simp [List.getLast?_cons]

theorem linked_append (first : Hash) (rows more : List Row) :
    Linked prev hash digest first (rows ++ more) ↔
      Linked prev hash digest first rows ∧ Linked prev hash digest (tip hash first rows) more := by
  induction rows generalizing first with
  | nil => simp
  | cons r rows ih => simp [ih, and_assoc]

/-- A row that names the tip and carries its digest extends the chain. -/
theorem linked_snoc {first : Hash} {rows : List Row} {r : Row} (linked : Linked prev hash digest first rows)
    (names : prev r = tip hash first rows) (digested : hash r = digest r) :
    Linked prev hash digest first (rows ++ [r]) :=
  (linked_append first rows [r]).mpr ⟨linked, names, digested, trivial⟩

/-- In a chain every row names the hash of the row before it, the first row `first`. -/
theorem linked_predecessor {first : Hash} {rows : List Row} (linked : Linked prev hash digest first rows)
    (before : List Row) (r : Row) (after : List Row) (split : rows = before ++ r :: after) :
    prev r = (before.getLast?.map hash).getD first ∧ hash r = digest r := by
  subst split
  obtain ⟨_, names, digested, _⟩ := (linked_append first before (r :: after)).mp linked
  exact ⟨by rw [names, tip_eq_getLast], digested⟩

/-- Two rows with the same links. -/
def SameLinks (prev hash : Row → Hash) (r s : Row) : Prop := prev s = prev r ∧ hash s = hash r

/-- Rows rewritten under the links of a chain are a chain exactly when no digest changed. -/
theorem linked_rewrite_iff {first : Hash} {rows rewritten : List Row} (linked : Linked prev hash digest first rows)
    (same : List.Forall₂ (SameLinks prev hash) rows rewritten) :
    Linked prev hash digest first rewritten ↔ List.Forall₂ (fun r s => digest s = digest r) rows rewritten := by
  induction same generalizing first with
  | nil => simp
  | @cons r s rows rewritten link _ ih =>
    obtain ⟨names, digested, rest⟩ := linked
    have tail := ih rest
    simp only [linked_cons, List.forall₂_cons, link.1, link.2, names, digested, true_and, eq_comm (a := digest r)] at tail ⊢
    rw [← tail]

end Riscdom.HashChain
