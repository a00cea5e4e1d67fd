import Mathlib
import Riscdom.AuditEvent
import Riscdom.HashChain

/-!
The hash of a row, the walk that verifies a chain, and what the walk notices of
a row edited in place. The fields are joined with a bare bar, so an edit that
only moves text across a bar keeps the hash.
-/
namespace Riscdom.Audit
open Riscdom.Json Riscdom.HashChain

/-- What the first row names as the hash before it. -/
def GENESIS_PREV_HASH : String := "0000000000000000000000000000000000000000000000000000000000000000"

/-- The text whose bytes are hashed. -/
def hash_input (prev_hash : String) (event : AuditEvent) (detail_json : String) : String :=
  prev_hash ++ "|" ++ toString event.timestamp_ms ++ "|" ++ event.actor ++ "|" ++ event.action ++ "|" ++ detail_json

variable (crates : Crates)

def compute_hash (prev_hash : String) (event : AuditEvent) (detail_json : String) : String :=
  crates.sha256_hex (hash_input prev_hash event detail_json)

inductive ChainStatus
  | Intact (length : Nat)
  | Broken (at_id : Int) (reason : String)
deriving DecidableEq

/-- The hash recomputed from a row, from its stored text. -/
def recompute (row : RawRow) : String :=
  compute_hash crates row.prev_hash
    { timestamp_ms := row.timestamp_ms, actor := row.actor, action := row.action, detail := .null, agent_id := none }
    row.detail_json

/-- The walk over the rows, from the hash the next row has to name. -/
def verify_from (length : Nat) (expected_prev : String) : List RawRow → ChainStatus
  | [] => .Intact length
  | row :: rest =>
    if row.prev_hash ≠ expected_prev then
      .Broken row.id ("prev_hash mismatch: expected " ++ expected_prev ++ ", found " ++ row.prev_hash)
    else if recompute crates row ≠ row.hash then
      .Broken row.id ("hash mismatch: expected " ++ recompute crates row ++ ", found " ++ row.hash)
    else verify_from length row.hash rest

/-- The verdict on the rows of a store. -/
def verify_rows (rows : List RawRow) : ChainStatus := verify_from crates rows.length GENESIS_PREV_HASH rows

/-- The rows form one chain from the genesis hash. -/
abbrev Chained (rows : List RawRow) : Prop :=
  Linked RawRow.prev_hash RawRow.hash (recompute crates) GENESIS_PREV_HASH rows

/-! ### The walk and the chain -/

theorem verify_from_intact_iff (length m : Nat) (expected_prev : String) (rows : List RawRow) :
    verify_from crates length expected_prev rows = .Intact m ↔
      m = length ∧ Linked RawRow.prev_hash RawRow.hash (recompute crates) expected_prev rows := by
  induction rows generalizing expected_prev with
  | nil => simp [verify_from, eq_comm]
  | cons row rest ih =>
    simp only [verify_from, linked_cons]
    by_cases names : row.prev_hash = expected_prev
    · by_cases digested : row.hash = recompute crates row
      · rw [if_neg (not_not.mpr names), if_neg (not_not.mpr digested.symm), ih]
        simp only [names, digested, true_and]
      · rw [if_neg (not_not.mpr names), if_pos (Ne.symm digested)]
        simp only [digested, false_and, and_false, reduceCtorEq]
    · rw [if_pos names]
      simp only [names, false_and, and_false, reduceCtorEq]

/-- The verdict is intact exactly on a chain, and then counts its rows. -/
theorem verify_rows_intact_iff (m : Nat) (rows : List RawRow) :
    verify_rows crates rows = .Intact m ↔ m = rows.length ∧ Chained crates rows :=
  verify_from_intact_iff crates rows.length m GENESIS_PREV_HASH rows

theorem verify_rows_intact {rows : List RawRow} (chained : Chained crates rows) :
    verify_rows crates rows = .Intact rows.length :=
  (verify_rows_intact_iff crates _ rows).mpr ⟨rfl, chained⟩

/-- Where there is no chain the verdict is a break. -/
theorem verify_rows_broken_iff (rows : List RawRow) :
    (∃ at_id reason, verify_rows crates rows = .Broken at_id reason) ↔ ¬ Chained crates rows := by
  constructor
  · rintro ⟨at_id, reason, broken⟩ chained
    rw [verify_rows_intact crates chained] at broken
    cases broken
  · intro unchained
    cases verdict : verify_rows crates rows with
    | Intact m => exact absurd ((verify_rows_intact_iff crates m rows).mp verdict).2 unchained
    | Broken at_id reason => exact ⟨at_id, reason, rfl⟩

/-- The break named is the first row that does not continue the rows before it. -/
theorem verify_rows_broken_at {rows : List RawRow} {at_id : Int} {reason : String}
    (broken : verify_rows crates rows = .Broken at_id reason) :
    ∃ before row after, rows = before ++ row :: after ∧ row.id = at_id ∧ Chained crates before ∧
      ¬ Chained crates (before ++ [row]) := by
  suffices walk : ∀ (length : Nat) (expected_prev : String) (rows : List RawRow),
      verify_from crates length expected_prev rows = .Broken at_id reason →
      ∃ before row after, rows = before ++ row :: after ∧ row.id = at_id ∧
        Linked RawRow.prev_hash RawRow.hash (recompute crates) expected_prev before ∧
        ¬ Linked RawRow.prev_hash RawRow.hash (recompute crates) expected_prev (before ++ [row]) from
    walk _ _ rows broken
  intro length expected_prev rows
  induction rows generalizing expected_prev with
  | nil =>
    intro none
    cases none
  | cons row rest ih =>
    intro found
    simp only [verify_from] at found
    split_ifs at found with names digested
    · cases found
      exact ⟨[], row, rest, rfl, rfl, trivial, by simp [names]⟩
    · cases found
      exact ⟨[], row, rest, rfl, rfl, trivial, by simp [Ne.symm digested]⟩
    · obtain ⟨before, last, after, rfl, same, linked, unlinked⟩ := ih row.hash found
      have kept : row.prev_hash = expected_prev ∧ row.hash = recompute crates row :=
        ⟨not_not.mp names, (not_not.mp digested).symm⟩
      exact ⟨row :: before, last, after, rfl, same, ⟨kept.1, kept.2, linked⟩, fun whole => unlinked whole.2.2⟩

/-! ### What the hashed text determines -/

/-- The texts between the bars of the actor, the action and the detail. -/
def pieces (row : RawRow) : List (List Char) :=
  [row.actor, row.action, row.detail_json].flatMap fun text => text.toList.splitOn '|'

theorem toString_int_no_bar (n : Int) : '|' ∉ (toString n).toList := by
  have digits (k : Nat) : '|' ∉ k.repr.toList := by
    intro inside
    rw [Nat.toList_repr] at inside
    exact absurd (Nat.isDigit_of_mem_toDigits (by decide) (by decide) inside) (by decide)
  rw [Int.toString_eq_repr, Int.repr_eq_if]
  split_ifs
  · exact digits _
  · rw [String.toList_append]
    intro inside
    rcases List.mem_append.mp inside with sign | digit
    · exact absurd sign (by decide)
    · exact digits _ digit

theorem splitOn_hash_input (prev_hash : String) (event : AuditEvent) (detail_json : String) :
    (hash_input prev_hash event detail_json).toList.splitOn '|' =
      prev_hash.toList.splitOn '|' ++ (toString event.timestamp_ms).toList ::
        [event.actor, event.action, detail_json].flatMap fun text => text.toList.splitOn '|' := by
  have bar : "|".toList = ['|'] := rfl
  have stamp := List.splitOn_eq_singleton (toString_int_no_bar event.timestamp_ms)
  simp only [hash_input, String.toList_append, bar, List.append_assoc, List.cons_append, List.nil_append,
    List.splitOn_append_cons_self, stamp, List.flatMap_cons, List.flatMap_nil, List.append_nil]

/-- Two rows that name the same predecessor hash the same text exactly when their times and the texts between
    their bars are the same. -/
theorem hash_input_eq_iff {r s : RawRow} (same : s.prev_hash = r.prev_hash) :
    hash_input s.prev_hash ⟨s.timestamp_ms, s.actor, s.action, .null, none⟩ s.detail_json =
        hash_input r.prev_hash ⟨r.timestamp_ms, r.actor, r.action, .null, none⟩ r.detail_json ↔
      s.timestamp_ms = r.timestamp_ms ∧ pieces s = pieces r := by
  have texts := splitOn_hash_input s.prev_hash ⟨s.timestamp_ms, s.actor, s.action, .null, none⟩ s.detail_json
  have others := splitOn_hash_input r.prev_hash ⟨r.timestamp_ms, r.actor, r.action, .null, none⟩ r.detail_json
  rw [same] at texts ⊢
  constructor
  · intro equal
    rw [equal, others] at texts
    obtain ⟨stamp, rest⟩ := List.cons.inj (List.append_cancel_left texts)
    exact ⟨(Int.repr_injective (String.toList_injective stamp)).symm, rest.symm⟩
  · rintro ⟨stamp, rest⟩
    apply String.toList_injective
    have joined (text : List Char) : ['|'].intercalate (text.splitOn '|') = text := List.intercalate_splitOn '|'
    have together := congrArg (fun tail => ['|'].intercalate
      (r.prev_hash.toList.splitOn '|' ++ (toString r.timestamp_ms).toList :: tail)) rest
    rw [← joined (hash_input _ ⟨s.timestamp_ms, _, _, _, _⟩ _).toList, texts, ← joined (hash_input _ _ _).toList, others,
      stamp]
    exact together

/-! ### Rows edited in place -/

/-- The second row is the first with its hashed fields rewritten and its links kept. -/
def Edited (r s : RawRow) : Prop :=
  ∃ timestamp_ms actor action detail_json, s = { r with timestamp_ms, actor, action, detail_json }

/-- An edit that the hash notices: another time, or other texts between the bars. -/
def Noticed (r s : RawRow) : Prop := s.timestamp_ms ≠ r.timestamp_ms ∨ pieces s ≠ pieces r

theorem Edited.sameLinks {r s : RawRow} (edited : Edited r s) : SameLinks RawRow.prev_hash RawRow.hash r s := by
  obtain ⟨_, _, _, _, rfl⟩ := edited
  exact ⟨rfl, rfl⟩

/-- With no two texts of one hash, a row edited in place keeps its hash exactly when the edit goes unnoticed. -/
theorem recompute_eq_iff (collision_free : Function.Injective crates.sha256_hex) {r s : RawRow} (edited : Edited r s) :
    recompute crates s = recompute crates r ↔ ¬ Noticed r s := by
  rw [recompute, recompute, compute_hash, compute_hash, collision_free.eq_iff, hash_input_eq_iff edited.sameLinks.1]
  simp [Noticed]

/-- The verdict on a chain whose rows were edited in place is a break exactly when some row's edit is noticed. -/
theorem tampering_noticed_iff (collision_free : Function.Injective crates.sha256_hex) (rows tampered : List RawRow)
    (intact : verify_rows crates rows = .Intact rows.length) (edited : List.Forall₂ Edited rows tampered) :
    (∃ at_id reason, verify_rows crates tampered = .Broken at_id reason) ↔
      ∃ pair ∈ rows.zip tampered, Noticed pair.1 pair.2 := by
  have chained := ((verify_rows_intact_iff crates _ rows).mp intact).2
  have rewritten := linked_rewrite_iff chained (edited.imp fun _ _ same => same.sameLinks)
  rw [verify_rows_broken_iff, Chained, rewritten]
  clear intact chained rewritten
  induction edited with
  | nil => simp
  | @cons r s rows tampered same _ ih =>
    rw [List.forall₂_cons, recompute_eq_iff crates collision_free same, not_and_or, not_not, List.zip_cons_cons]
    simp only [List.mem_cons, exists_eq_or_imp]
    exact or_congr Iff.rfl ih

/-- A first row, and the row after its action was edited in place. -/
def request_row : RawRow :=
  { id := 1, timestamp_ms := 7, actor := "agent", action := "llm.request", detail_json := "\x7b\"n\":1\x7d",
    prev_hash := GENESIS_PREV_HASH, hash := "de9932fea4af7d9cee5cd15565ecbc386aad6af1fbc4efe2713361450d3082cf",
    agent_id := none }
def response_row : RawRow := { request_row with action := "llm.response" }

/-- SHA-256 on the texts of the two rows. -/
def request_crates : Crates where
  sha256_hex := digest_of
    [(GENESIS_PREV_HASH ++ "|7|agent|llm.request|\x7b\"n\":1\x7d",
        "de9932fea4af7d9cee5cd15565ecbc386aad6af1fbc4efe2713361450d3082cf"),
      (GENESIS_PREV_HASH ++ "|7|agent|llm.response|\x7b\"n\":1\x7d",
        "ba2db50b142f82f9e382d1b6d875c88b64ea28a26a82f4f9f392affb703170be")]
  json := compact

theorem request_tampering_noticed : ∃ at_id reason, verify_rows request_crates [response_row] = .Broken at_id reason :=
  (tampering_noticed_iff request_crates (digest_of_injective (by decide) (by decide)) [request_row] [response_row]
    (by decide) (.cons ⟨7, "agent", "llm.response", "\x7b\"n\":1\x7d", rfl⟩ .nil)).mpr
    ⟨(request_row, response_row), by simp, .inr (by decide)⟩

/-- Whatever the hash, a bar in the detail lets text move between the action and the detail unnoticed. -/
theorem moved_bar_unnoticed : ¬ ∃ crates : Crates, ∀ rows tampered : List RawRow,
    verify_rows crates rows = .Intact rows.length → List.Forall₂ Edited rows tampered → rows ≠ tampered →
    ∃ at_id reason, verify_rows crates tampered = .Broken at_id reason := by
  rintro ⟨crates, noticed⟩
  let row : RawRow :=
    { id := 1, timestamp_ms := 7, actor := "agent", action := "llm.request", detail_json := "\x7b\"q\":\"a|b\"\x7d",
      prev_hash := GENESIS_PREV_HASH, agent_id := none,
      hash := crates.sha256_hex (GENESIS_PREV_HASH ++ "|7|agent|llm.request|\x7b\"q\":\"a|b\"\x7d") }
  let moved : RawRow := { row with action := "llm.request|\x7b\"q\":\"a", detail_json := "b\"\x7d" }
  have text : hash_input GENESIS_PREV_HASH ⟨7, "agent", "llm.request", .null, none⟩ "\x7b\"q\":\"a|b\"\x7d" =
      GENESIS_PREV_HASH ++ "|7|agent|llm.request|\x7b\"q\":\"a|b\"\x7d" := by decide
  have other : hash_input GENESIS_PREV_HASH ⟨7, "agent", "llm.request|\x7b\"q\":\"a", .null, none⟩ "b\"\x7d" =
      GENESIS_PREV_HASH ++ "|7|agent|llm.request|\x7b\"q\":\"a|b\"\x7d" := by decide
  have digest : recompute crates row = row.hash := congrArg crates.sha256_hex text
  have same : recompute crates moved = moved.hash := congrArg crates.sha256_hex other
  have intact : verify_rows crates [row] = .Intact 1 :=
    verify_rows_intact crates ⟨rfl, digest.symm, trivial⟩
  have passed : verify_rows crates [moved] = .Intact 1 :=
    verify_rows_intact crates ⟨rfl, same.symm, trivial⟩
  have differ : [row] ≠ [moved] := by
    intro equal
    have actions : "llm.request" = "llm.request|\x7b\"q\":\"a" := congrArg RawRow.action (List.cons.inj equal).1
    exact absurd actions (by decide)
  obtain ⟨at_id, reason, broken⟩ := noticed [row] [moved] intact (.cons ⟨7, "agent", _, _, rfl⟩ .nil) differ
  rw [passed] at broken
  cases broken

end Riscdom.Audit
