import Mathlib.Data.List.Nodup

/-!
A merge in which what is known wins: rows under a new key are added behind, and a
row under a known key is compared with the row there and changes nothing. Every
row is looked up among the rows known at first, not among those added since.
-/
namespace Riscdom.LocalWins

/-- What a merge did: how many rows it added, how many were there already, and those that disagree. -/
structure Report (Conflict : Type) where
  added : Nat
  unchanged : Nat
  conflicts : List Conflict
deriving DecidableEq

def Report.empty {Conflict : Type} : Report Conflict := ⟨0, 0, []⟩

variable {Row Key Conflict : Type} [DecidableEq Key] (key : Row → Key) (agrees : Row → Row → Bool)
  (conflict : Row → Row → Conflict)

def lookup (rows : List Row) (k : Key) : Option Row := rows.find? fun row => decide (key row = k)

/-- One row of the incoming ones. -/
def merge_row (known : List Row) (merged : List Row × Report Conflict) (row : Row) : List Row × Report Conflict :=
  let (rows, report) := merged
  match lookup key known (key row) with
  | some held =>
    if agrees held row then (rows, { report with unchanged := report.unchanged + 1 })
    else (rows, { report with conflicts := report.conflicts ++ [conflict held row] })
  | none => (rows ++ [row], { report with added := report.added + 1 })

def merge (known incoming : List Row) : List Row × Report Conflict :=
  incoming.foldl (merge_row key agrees conflict known) (known, .empty)

/-- The rows under keys that are not known, in their order. -/
def news (known incoming : List Row) : List Row := incoming.filter fun row => (lookup key known (key row)).isNone

/-- The incoming rows under known keys, each with the row that is known. -/
def meetings (known incoming : List Row) : List (Row × Row) :=
  incoming.filterMap fun row => (lookup key known (key row)).map fun held => (held, row)

/-- How many rows a report accounts for. -/
def Report.total (report : Report Conflict) : Nat := report.added + report.unchanged + report.conflicts.length

section
variable {key agrees conflict}

theorem lookup_eq_none {rows : List Row} {k : Key} : lookup key rows k = none ↔ k ∉ rows.map key := by
  simp [lookup]

theorem mem_news {known incoming : List Row} {row : Row} :
    row ∈ news key known incoming ↔ row ∈ incoming ∧ key row ∉ known.map key := by
  rw [news, List.mem_filter, Option.isNone_iff_eq_none, lookup_eq_none]

/-- From any point on, the merge adds the news among the rows still to come, and accounts for each of them once. -/
theorem foldl_merge_row (known incoming rows : List Row) (report : Report Conflict) :
    (incoming.foldl (merge_row key agrees conflict known) (rows, report)).1 = rows ++ news key known incoming ∧
      (incoming.foldl (merge_row key agrees conflict known) (rows, report)).2.added =
        report.added + (news key known incoming).length ∧
      (incoming.foldl (merge_row key agrees conflict known) (rows, report)).2.total = report.total + incoming.length := by
  induction incoming generalizing rows report with
  | nil => simp [news]
  | cons row incoming ih =>
    rw [List.foldl_cons]
    cases looked : lookup key known (key row) with
    | none =>
      have step : merge_row key agrees conflict known (rows, report) row =
          (rows ++ [row], { report with added := report.added + 1 }) := by rw [merge_row, looked]
      have more : news key known (row :: incoming) = row :: news key known incoming := by
        rw [news, List.filter_cons_of_pos (by simp [looked]), news]
      obtain ⟨rest, added, total⟩ := ih (rows ++ [row]) { report with added := report.added + 1 }
      rw [step, more, rest, added, total]
      refine ⟨by simp, ?_, ?_⟩
      · simp only [List.length_cons]
        omega
      · simp only [Report.total, List.length_cons]
        omega
    | some held =>
      have same : news key known (row :: incoming) = news key known incoming := by
        rw [news, List.filter_cons_of_neg (by simp [looked]), news]
      rw [same]
      by_cases agree : agrees held row
      · have step : merge_row key agrees conflict known (rows, report) row =
            (rows, { report with unchanged := report.unchanged + 1 }) := by simp [merge_row, looked, agree]
        obtain ⟨rest, added, total⟩ := ih rows { report with unchanged := report.unchanged + 1 }
        rw [step]
        refine ⟨rest, added, ?_⟩
        rw [total]
        simp only [Report.total, List.length_cons]
        omega
      · have step : merge_row key agrees conflict known (rows, report) row =
            (rows, { report with conflicts := report.conflicts ++ [conflict held row] }) := by
          simp [merge_row, looked, agree]
        obtain ⟨rest, added, total⟩ := ih rows { report with conflicts := report.conflicts ++ [conflict held row] }
        rw [step]
        refine ⟨rest, added, ?_⟩
        rw [total]
        simp only [Report.total, List.length_cons, List.length_append, List.length_nil]
        omega

/-- A report counts the meetings where the rows agree, and holds the others as conflicts, in their order. -/
theorem foldl_reports (known incoming rows : List Row) (report : Report Conflict) :
    (incoming.foldl (merge_row key agrees conflict known) (rows, report)).2.unchanged =
        report.unchanged + (meetings key known incoming).countP (fun met => agrees met.1 met.2) ∧
      (incoming.foldl (merge_row key agrees conflict known) (rows, report)).2.conflicts =
        report.conflicts ++
          ((meetings key known incoming).filter (fun met => !agrees met.1 met.2)).map fun met => conflict met.1 met.2 := by
  induction incoming generalizing rows report with
  | nil => simp [meetings]
  | cons row incoming ih =>
    rw [List.foldl_cons]
    cases looked : lookup key known (key row) with
    | none =>
      have more : meetings key known (row :: incoming) = meetings key known incoming := by simp [meetings, looked]
      rw [merge_row, looked, more]
      exact ih _ _
    | some held =>
      have more : meetings key known (row :: incoming) = (held, row) :: meetings key known incoming := by
        simp [meetings, looked]
      rw [merge_row, looked, more]
      by_cases agree : agrees held row
      · obtain ⟨unchanged, conflicts⟩ := ih rows { report with unchanged := report.unchanged + 1 }
        simp only [agree, if_true]
        rw [unchanged, conflicts, List.countP_cons_of_pos (by exact agree), List.filter_cons_of_neg (by simp [agree])]
        refine ⟨?_, rfl⟩
        dsimp only
        omega
      · obtain ⟨unchanged, conflicts⟩ := ih rows { report with conflicts := report.conflicts ++ [conflict held row] }
        simp only [agree, if_false, Bool.false_eq_true]
        rw [unchanged, conflicts, List.countP_cons_of_neg (by exact agree), List.filter_cons_of_pos (by simp [agree])]
        exact ⟨rfl, by simp⟩

variable (key agrees conflict)

theorem merge_rows (known incoming : List Row) :
    (merge key agrees conflict known incoming).1 = known ++ news key known incoming :=
  (foldl_merge_row known incoming known .empty).1

theorem merge_added (known incoming : List Row) :
    (merge key agrees conflict known incoming).2.added = (news key known incoming).length := by
  rw [merge, (foldl_merge_row known incoming known .empty).2.1]
  exact Nat.zero_add _

theorem merge_total (known incoming : List Row) : (merge key agrees conflict known incoming).2.total = incoming.length := by
  rw [merge, (foldl_merge_row known incoming known .empty).2.2]
  exact Nat.zero_add _

/-- Every key of a merge is known afterwards. -/
theorem merge_knows (known incoming : List Row) {row : Row} (inside : row ∈ incoming) :
    key row ∈ (merge key agrees conflict known incoming).1.map key := by
  rw [merge_rows, List.map_append, List.mem_append]
  by_cases held : key row ∈ known.map key
  · exact .inl held
  · exact .inr (List.mem_map_of_mem (mem_news.mpr ⟨inside, held⟩))

/-- Where every key is known, nothing is new. -/
theorem news_of_known {known incoming : List Row} (all : ∀ row ∈ incoming, key row ∈ known.map key) :
    news key known incoming = [] := by
  rw [news, List.filter_eq_nil_iff]
  intro row inside
  rw [Option.isNone_iff_eq_none, lookup_eq_none]
  exact fun unknown => unknown (all row inside)

/-- The keys of a merge are distinct where those known are, and those of the news. -/
theorem merge_distinct (known incoming : List Row) :
    ((merge key agrees conflict known incoming).1.map key).Nodup ↔
      (known.map key).Nodup ∧ ((news key known incoming).map key).Nodup := by
  rw [merge_rows, List.map_append, List.nodup_append]
  constructor
  · exact fun distinct => ⟨distinct.1, distinct.2.1⟩
  · rintro ⟨held, added⟩
    refine ⟨held, added, fun k first l second same => ?_⟩
    obtain ⟨row, inside, rfl⟩ := List.mem_map.mp second
    exact (mem_news.mp inside).2 (same ▸ first)

theorem merge_reports (known incoming : List Row) :
    (merge key agrees conflict known incoming).2.unchanged =
        (meetings key known incoming).countP (fun met => agrees met.1 met.2) ∧
      (merge key agrees conflict known incoming).2.conflicts =
        ((meetings key known incoming).filter (fun met => !agrees met.1 met.2)).map fun met => conflict met.1 met.2 := by
  obtain ⟨unchanged, conflicts⟩ := @foldl_reports _ _ _ _ key agrees conflict known incoming known .empty
  rw [merge, unchanged, conflicts]
  exact ⟨Nat.zero_add _, List.nil_append _⟩

end

end Riscdom.LocalWins
