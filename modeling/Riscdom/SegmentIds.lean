import Riscdom.Segments

/-!
The ids that two owners give to their segments, each on a store of its own. An id
is the owner's safe name, the time and at times a suffix, with dashes between
them, and a safe name may hold dashes and digits itself.
-/
namespace Riscdom.Audit
open Riscdom.KeyedTable

/-- No segment of the one owner bears the id of a segment of the other, whatever their stores hold. Times are of 64 bits. -/
def Apart (one other : String) : Prop :=
  ∀ t u : Nat, t < 2 ^ 63 → u < 2 ^ 63 → ∀ (own foreign : SegmentTable) (id name : String),
    AuditStore.free_id own t (some one) = .ok id → AuditStore.free_id foreign u (some other) = .ok name → id ≠ name

/-- The name goes on with a dash and a time. -/
def Timed (name longer : String) : Prop := ∃ t : Nat, t < 2 ^ 63 ∧ longer = name ++ "-" ++ toString t

/-! ### A text, a dash and a number -/

theorem digit_ne_dash (n : Nat) : ∀ c ∈ (toString n).toList.reverse, (c != '-') = true := by
  intro c inside
  have digits : (toString n).toList = Nat.toDigits 10 n := by simp [Nat.repr]
  rw [List.mem_reverse, digits] at inside
  have digit := Nat.isDigit_of_mem_toDigits (by decide) (by decide) inside
  simp only [bne_iff_ne, ne_eq]
  rintro rfl
  exact absurd digit (by decide)

theorem toList_dashed (text : String) (n : Nat) :
    (text ++ "-" ++ toString n).toList.reverse = (toString n).toList.reverse ++ '-' :: text.toList.reverse := by
  have dash : "-".toList = ['-'] := rfl
  simp [dash]

theorem dashed_injective {text other : String} {m n : Nat} (same : text ++ "-" ++ toString m = other ++ "-" ++ toString n) :
    text = other ∧ m = n := by
  have reversed := congrArg (fun s : String => s.toList.reverse) same
  simp only [toList_dashed] at reversed
  have number (text : List Char) (n : Nat) :
      ((toString n).toList.reverse ++ '-' :: text).takeWhile (· != '-') = (toString n).toList.reverse := by
    rw [List.takeWhile_append_of_pos (digit_ne_dash n)]
    simp
  have digits : (toString m).toList.reverse = (toString n).toList.reverse := by
    rw [← number text.toList.reverse m, reversed, number]
  have equal : m = n := Nat.repr_injective (String.toList_injective (List.reverse_injective digits))
  subst equal
  have rest := List.append_cancel_left reversed
  simp only [List.cons.injEq, true_and] at rest
  exact ⟨String.toList_injective (List.reverse_injective rest), rfl⟩

/-! ### The ids of one owner -/

namespace AuditStore

theorem mint_base (t : Nat) (owner : String) : mint t (some owner) none = "seg-" ++ safe_owner owner ++ "-" ++ toString t := by
  have time : toString (t : Int) = toString t := rfl
  simp [mint, time, String.append_assoc]

theorem mint_suffix (t : Nat) (owner : String) (n : Nat) :
    mint t (some owner) (some n) = "seg-" ++ safe_owner owner ++ "-" ++ toString t ++ "-" ++ toString n := by
  have time : toString (t : Int) = toString t := rfl
  simp [mint, time, String.append_assoc]

theorem first_free_some {taken : String → Bool} {mint : Option Nat → String} {left n : Nat} {id : String}
    (found : first_free taken mint left n = some id) : ∃ m, n ≤ m ∧ m < n + left ∧ id = mint (some m) := by
  induction left generalizing n with
  | zero => cases found
  | succ left ih =>
    rw [first_free] at found
    by_cases used : taken (mint (some n)) = true
    · rw [if_pos used] at found
      obtain ⟨m, above, below, same⟩ := ih found
      exact ⟨m, by omega, by omega, same⟩
    · rw [if_neg used] at found
      cases found
      exact ⟨n, by omega, by omega, rfl⟩

/-- An id is the owner's name with the time, and a suffix of 32 bits from the second on. -/
theorem free_id_shape {segments : SegmentTable} {now : Int} {owner : Option String} {id : String}
    (minted : free_id segments now owner = .ok id) :
    id = mint now owner none ∨ ∃ n, 2 ≤ n ∧ n < 2 ^ 32 ∧ id = mint now owner (some n) := by
  rw [free_id] at minted
  simp only at minted
  split_ifs at minted with used
  · cases found : first_free (fun id => (segments.find id).isSome) (mint now owner) 4294967294 2 with
    | none =>
      rw [found] at minted
      cases minted
    | some name =>
      rw [found] at minted
      cases minted
      obtain ⟨n, above, below, same⟩ := first_free_some found
      exact .inr ⟨n, above, by omega, same⟩
  · cases minted
    exact .inl rfl

/-- On an empty store the time alone makes the id. -/
theorem free_id_empty (now : Int) (owner : Option String) : free_id .empty now owner = .ok (mint now owner none) := by
  simp [free_id]

/-- A store that holds the segment an owner opened at a time. -/
def opened_at (t : Nat) (owner : String) : SegmentTable :=
  Table.empty.replace
    { segment_id := mint t (some owner) none, kind := .Temporary, head_hash := none, head_prev_chain := none,
      head_prev_length := none, opened_at_ms := some t, closed_at_ms := none, state := .Open, note := none }

/-- The second segment of one time has the suffix 2. -/
theorem free_id_second (t : Nat) (owner : String) :
    free_id (opened_at t owner) t (some owner) = .ok (mint t (some owner) (some 2)) := by
  have differs : mint t (some owner) (some 2) ≠ mint t (some owner) none := by
    rw [mint_base, mint_suffix]
    intro same
    have longer := congrArg String.length same
    simp only [String.length_append] at longer
    have dash : "-".length = 1 := rfl
    omega
  have base : ((opened_at t owner).find (mint t (some owner) none)).isSome = true := by
    rw [opened_at, Table.find_replace, if_pos rfl]
    rfl
  have free : ((opened_at t owner).find (mint t (some owner) (some 2))).isSome = false := by
    rw [opened_at, Table.find_replace, if_neg differs]
    rfl
  have second : first_free (fun id => ((opened_at t owner).find id).isSome) (mint t (some owner))
      (4294967293 + 1) 2 = some (mint t (some owner) (some 2)) := by
    rw [first_free]
    simp [free]
  simp only [free_id, base, if_true]
  rw [second]

end AuditStore

/-! ### Two owners -/

theorem Apart.symm {one other : String} (apart : Apart one other) : Apart other one :=
  fun t u below under own foreign id name minted named same => apart u t under below foreign own name id named minted same.symm

/-- Owners of one safe name open segments of one time under one id. -/
theorem apart_names {one other : String} (apart : Apart one other) : safe_owner one ≠ safe_owner other := by
  intro same
  refine apart 0 0 (by decide) (by decide) .empty .empty _ _ (AuditStore.free_id_empty _ _) (AuditStore.free_id_empty _ _) ?_
  rw [AuditStore.mint_base, AuditStore.mint_base, same]

/-- The second segment of a time, and the segment of an owner who is named like the first of that time, opened at 2. -/
theorem apart_times {one other : String} (apart : Apart one other) : ¬Timed (safe_owner one) (safe_owner other) := by
  rintro ⟨t, below, longer⟩
  refine apart t 2 below (by decide) _ .empty _ _ (AuditStore.free_id_second t one) (AuditStore.free_id_empty _ _) ?_
  rw [AuditStore.mint_base, AuditStore.mint_suffix, longer]
  simp [String.append_assoc]

/-- Two owners never open segments of one id, at whatever times and in whatever stores, exactly when their safe names differ
    and neither reads as the other's with a time before it. -/
theorem segment_ids_apart_iff (one other : String) :
    Apart one other ↔ safe_owner one ≠ safe_owner other ∧ ¬Timed (safe_owner one) (safe_owner other) ∧
      ¬Timed (safe_owner other) (safe_owner one) := by
  constructor
  · intro apart
    exact ⟨apart_names apart, apart_times apart, apart_times apart.symm⟩
  · rintro ⟨names, timed, timed_too⟩ t u below under own foreign id name minted named same
    subst same
    rcases AuditStore.free_id_shape minted with first | ⟨n, -, few, first⟩
    · rcases AuditStore.free_id_shape named with second | ⟨m, -, fewer, second⟩
      · rw [first, AuditStore.mint_base, AuditStore.mint_base] at second
        exact names (String.append_right_inj _ |>.mp (dashed_injective second).1)
      · rw [first, AuditStore.mint_base, AuditStore.mint_suffix] at second
        obtain ⟨text, -⟩ := dashed_injective second
        rw [String.append_assoc, String.append_assoc, String.append_right_inj] at text
        exact timed_too ⟨u, under, by rw [text, String.append_assoc]⟩
    · rcases AuditStore.free_id_shape named with second | ⟨m, -, fewer, second⟩
      · rw [first, AuditStore.mint_base, AuditStore.mint_suffix] at second
        obtain ⟨text, -⟩ := dashed_injective second
        rw [String.append_assoc, String.append_assoc, String.append_right_inj] at text
        exact timed ⟨t, below, by rw [← text, String.append_assoc]⟩
      · rw [first, AuditStore.mint_suffix, AuditStore.mint_suffix] at second
        obtain ⟨text, -⟩ := dashed_injective (dashed_injective second).1
        exact names ((String.append_right_inj _).mp text)

/-- A separator and the sign that stands for it make one safe name. -/
theorem slash_taken_for_underscore : ¬ ∀ one other : String, one ≠ other → Apart one other := by
  intro apart
  exact apart_names (apart "a/b" "a_b" (by decide)) (by decide)

end Riscdom.Audit
