import Mathlib.Data.Finset.Sort
import Mathlib.Data.List.Nodup
import Mathlib.Tactic.SplitIfs

/-!
Tables with a primary key: rows of distinct keys, with the four writes of such a
table. Every write is described by what is found under each key afterwards.
-/
namespace Riscdom.KeyedTable
universe u v
variable {Row : Type u} {Key : Type v} [DecidableEq Key]

structure Table (key : Row → Key) where
  rows : List Row
  distinct : (rows.map key).Nodup

namespace Table
variable {key : Row → Key}

def empty : Table key := ⟨[], List.nodup_nil⟩

def find (table : Table key) (k : Key) : Option Row := table.rows.find? fun r => key r = k

def delete (table : Table key) (k : Key) : Table key where
  rows := table.rows.filter fun r => key r ≠ k
  distinct := (table.rows.filter_sublist.map key).nodup table.distinct

/-- A row put under its key, in the stead of the row that stood there. -/
def replace (table : Table key) (r : Row) : Table key where
  rows := (table.delete (key r)).rows ++ [r]
  distinct := by
    rw [List.map_append]
    refine List.Nodup.append (table.delete (key r)).distinct (by simp) ?_
    intro k old new
    obtain ⟨row, inside, rfl⟩ := List.mem_map.mp old
    have other := (List.mem_filter.mp inside).2
    simp only [List.map_cons, List.map_nil, List.mem_singleton] at new
    simp [new] at other

/-- The row under a key rewritten, its key kept. -/
def update (table : Table key) (k : Key) (rewrite : Row → Row) (keeps : ∀ r, key (rewrite r) = key r) : Table key where
  rows := table.rows.map fun r => if key r = k then rewrite r else r
  distinct := by
    have same : key ∘ (fun r => if key r = k then rewrite r else r) = key := by
      funext r
      by_cases here : key r = k <;> simp [here, keeps]
    rw [List.map_map, same]
    exact table.distinct

@[simp] theorem find_empty (k : Key) : (empty : Table key).find k = none := rfl

theorem find_eq_some {table : Table key} {k : Key} {r : Row} : table.find k = some r ↔ r ∈ table.rows ∧ key r = k := by
  constructor
  · intro found
    exact ⟨List.mem_of_find?_eq_some found, by simpa using List.find?_some found⟩
  · rintro ⟨inside, rfl⟩
    cases found : table.find (key r) with
    | none =>
      have differs := List.find?_eq_none.mp found r inside
      simp at differs
    | some s =>
      have same : key s = key r := by simpa using List.find?_some found
      rw [List.inj_on_of_nodup_map table.distinct (List.mem_of_find?_eq_some found) inside same]

theorem find_eq_none {table : Table key} {k : Key} : table.find k = none ↔ ∀ r ∈ table.rows, key r ≠ k := by
  simp [find]

theorem key_of_find {table : Table key} {k : Key} {r : Row} (found : table.find k = some r) : key r = k :=
  (find_eq_some.mp found).2

theorem find_delete (table : Table key) (k other : Key) :
    (table.delete k).find other = if other = k then none else table.find other := by
  split_ifs with same
  · subst same
    rw [find_eq_none]
    intro r inside
    simpa using (List.mem_filter.mp inside).2
  · cases found : table.find other with
    | none =>
      rw [find_eq_none] at found ⊢
      intro r inside
      exact found r (List.mem_filter.mp inside).1
    | some r =>
      obtain ⟨inside, here⟩ := find_eq_some.mp found
      rw [find_eq_some]
      exact ⟨List.mem_filter.mpr ⟨inside, by simpa [here] using same⟩, here⟩

theorem find_replace (table : Table key) (r : Row) (k : Key) :
    (table.replace r).find k = if k = key r then some r else table.find k := by
  have split : (table.replace r).find k = ((table.delete (key r)).find k).or ([r].find? fun s => key s = k) :=
    List.find?_append
  rw [split, find_delete]
  by_cases same : k = key r
  · simp [same]
  · cases table.find k <;> simp [same, Ne.symm same]

/-- A row under a new key put in and taken out again. -/
theorem delete_replace {table : Table key} {r : Row} (fresh : table.find (key r) = none) :
    (table.replace r).delete (key r) = table := by
  have others : ∀ row ∈ table.rows, key row ≠ key r := find_eq_none.mp fresh
  have kept : table.rows.filter (fun row => key row ≠ key r) = table.rows :=
    List.filter_eq_self.mpr fun row inside => by simpa using others row inside
  have rows : ((table.replace r).delete (key r)).rows = table.rows := by
    show ((table.rows.filter fun row => key row ≠ key r) ++ [r]).filter (fun row => key row ≠ key r) = table.rows
    rw [List.filter_append, kept, kept]
    simp
  cases table
  simpa [delete, replace] using rows

/-- A row that is taken out need not be rewritten before. -/
theorem delete_update (table : Table key) (k : Key) (rewrite : Row → Row) (keeps : ∀ r, key (rewrite r) = key r) :
    (table.update k rewrite keeps).delete k = table.delete k := by
  have stays (r : Row) : key (if key r = k then rewrite r else r) = key r := by
    by_cases here : key r = k <;> simp [here, keeps]
  have rows : ((table.update k rewrite keeps).delete k).rows = (table.delete k).rows := by
    show (table.rows.map fun r => if key r = k then rewrite r else r).filter (fun r => key r ≠ k) =
      table.rows.filter fun r => key r ≠ k
    rw [List.filter_map, show (fun r => decide (key r ≠ k)) ∘ (fun r => if key r = k then rewrite r else r) =
      fun r => decide (key r ≠ k) from funext fun r => by simp [stays]]
    refine (List.map_congr_left fun r inside => ?_).trans (List.map_id _)
    rw [if_neg (by simpa using (List.mem_filter.mp inside).2)]
    rfl
  simpa [delete] using rows

theorem find_update (table : Table key) (k other : Key) (rewrite : Row → Row) (keeps : ∀ r, key (rewrite r) = key r) :
    (table.update k rewrite keeps).find other =
      if other = k then (table.find other).map rewrite else table.find other := by
  have stays (r : Row) : key (if key r = k then rewrite r else r) = key r := by
    by_cases here : key r = k <;> simp [here, keeps]
  cases found : table.find other with
  | none =>
    rw [find_eq_none] at found
    have absent : (table.update k rewrite keeps).find other = none := by
      rw [find_eq_none]
      intro r inside
      obtain ⟨old, was, rfl⟩ := List.mem_map.mp inside
      rw [stays]
      exact found old was
    rw [absent]
    split_ifs <;> rfl
  | some r =>
    obtain ⟨inside, here⟩ := find_eq_some.mp found
    have rewritten : (table.update k rewrite keeps).find other = some (if key r = k then rewrite r else r) := by
      rw [find_eq_some]
      exact ⟨List.mem_map.mpr ⟨r, inside, rfl⟩, by rw [stays, here]⟩
    rw [rewritten, here]
    split_ifs <;> rfl

section Sorted
variable {Place : Type v} [LinearOrder Place] {place : Row → Place}

/-- The rows by key: for each key, from the least on, the row under it. -/
theorem sorted_rows (table : Table place) (keys : Finset Place) (present : ∀ k, k ∈ keys ↔ ∃ row, table.find k = some row) :
    (table.rows.mergeSort fun a b => place a ≤ place b) = (keys.sort (· ≤ ·)).filterMap table.find := by
  have in_order : (table.rows.mergeSort fun a b => place a ≤ place b).Pairwise fun a b => place a ≤ place b := by
    simpa using @List.pairwise_mergeSort Row (fun a b => place a ≤ place b)
      (fun a b c below above => by simpa using le_trans (by simpa using below) (by simpa using above))
      (fun a b => by simpa using le_total (place a) (place b)) table.rows
  have by_key : ((keys.sort (· ≤ ·)).filterMap table.find).Pairwise fun a b => place a ≤ place b := by
    rw [List.pairwise_filterMap]
    refine (keys.pairwise_sort (· ≤ ·)).imp ?_
    intro k l below a first b second
    rwa [key_of_find first, key_of_find second]
  have same (row : Row) : row ∈ table.rows.mergeSort (fun a b => place a ≤ place b) ↔
      row ∈ (keys.sort (· ≤ ·)).filterMap table.find := by
    rw [List.mem_mergeSort, List.mem_filterMap]
    constructor
    · intro inside
      have found : table.find (place row) = some row := find_eq_some.mpr ⟨inside, rfl⟩
      exact ⟨place row, (keys.mem_sort _).mpr ((present _).mpr ⟨row, found⟩), found⟩
    · rintro ⟨k, -, found⟩
      exact (find_eq_some.mp found).1
  have once : (table.rows.mergeSort fun a b => place a ≤ place b).Nodup :=
    (List.mergeSort_perm ..).symm.nodup table.distinct.of_map
  have once_by_key : ((keys.sort (· ≤ ·)).filterMap table.find).Nodup :=
    List.Nodup.filterMap (fun k l row first second => by rw [← key_of_find first, ← key_of_find second])
      (keys.sort_nodup (· ≤ ·))
  refine List.Perm.eq_of_pairwise (fun a b inside other below above => ?_) in_order by_key
    ((List.perm_ext_iff_of_nodup once once_by_key).mpr same)
  have there : b ∈ table.rows := List.mem_mergeSort.mp ((same b).mpr other)
  exact List.inj_on_of_nodup_map table.distinct (List.mem_mergeSort.mp inside) there (le_antisymm below above)

end Sorted

end Table
end Riscdom.KeyedTable
