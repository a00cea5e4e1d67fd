import Mathlib.Data.List.DropRight
import Riscdom.Machine

/-!
Logs of the newest entries: at most so many, in the order they arrived, and an
entry that is like one still held is left out. An entry whose like has fallen
out of the log counts as new again.
-/
namespace Riscdom.RecentLog
open Riscdom.Machine
universe u
variable {α : Type u} (alike : α → α → Prop) [DecidableRel alike] (bound : Nat)

/-- An entry like this one is held. -/
def Holds (log : List α) (entry : α) : Prop := ∃ held ∈ log, alike held entry

instance (log : List α) (entry : α) : Decidable (Holds alike log entry) := by unfold Holds; infer_instance

/-- The log with one more entry, unless its like is held; the oldest go first. -/
def push (log : List α) (entry : α) : List α :=
  if Holds alike log entry then log else (log ++ [entry]).rtake bound

/-- The arrivals that are not left out, one after another. -/
def taken : List α → List α → List α
  | _, [] => []
  | log, entry :: arrivals =>
    if Holds alike log entry then taken log arrivals else entry :: taken (push alike bound log entry) arrivals

/-! ### The newest of a list -/

theorem length_rtake (entries : List α) : (entries.rtake bound).length = min bound entries.length := by
  rw [List.rtake, List.length_drop]
  omega

theorem rtake_of_length_le {entries : List α} (short : entries.length ≤ bound) : entries.rtake bound = entries := by
  rw [List.rtake, Nat.sub_eq_zero_of_le short, List.drop_zero]

/-- The newest of what is appended to the newest are the newest of the whole. -/
theorem rtake_append (entries more : List α) : (entries.rtake bound ++ more).rtake bound = (entries ++ more).rtake bound := by
  by_cases short : entries.length ≤ bound
  · rw [rtake_of_length_le bound short]
  · have cut : entries.rtake bound ++ more = (entries ++ more).drop (entries.length - bound) := by
      rw [List.rtake, List.drop_append_of_le_length (by omega)]
    rw [cut, List.rtake, List.rtake, List.drop_drop, List.length_drop, List.length_append]
    congr 1
    omega

variable {alike bound}

/-! ### One entry -/

theorem push_held {log : List α} {entry : α} (held : Holds alike log entry) : push alike bound log entry = log := if_pos held

theorem push_new {log : List α} {entry : α} (new : ¬ Holds alike log entry) :
    push alike bound log entry = (log ++ [entry]).rtake bound := if_neg new

theorem length_push {log : List α} (fits : log.length ≤ bound) (entry : α) : (push alike bound log entry).length ≤ bound := by
  by_cases held : Holds alike log entry
  · rw [push_held held]
    exact fits
  · rw [push_new held, length_rtake]
    omega

theorem getLast?_push {log : List α} {entry : α} (new : ¬ Holds alike log entry) (room : 0 < bound) :
    (push alike bound log entry).getLast? = some entry := by
  obtain ⟨less, rfl⟩ := Nat.exists_eq_add_one.mpr room
  rw [push_new new, List.rtake_concat_succ, List.getLast?_concat]

/-- The log stays as it is exactly where the like of an entry is held. -/
theorem push_eq_self_iff (self : ∀ entry, alike entry entry) (room : 0 < bound) (log : List α) (entry : α) :
    push alike bound log entry = log ↔ Holds alike log entry := by
  constructor
  · intro still
    by_contra new
    have last := getLast?_push new room
    rw [still] at last
    exact new ⟨entry, List.mem_of_getLast? last, self entry⟩
  · exact push_held

/-- No two entries of the log are alike. -/
theorem push_apart {log : List α} (apart : log.Pairwise fun first second => ¬ alike first second) (entry : α) :
    (push alike bound log entry).Pairwise fun first second => ¬ alike first second := by
  by_cases held : Holds alike log entry
  · rw [push_held held]
    exact apart
  · rw [push_new held]
    refine List.Pairwise.sublist (List.drop_sublist _ _) (List.pairwise_append.mpr ⟨apart, List.pairwise_singleton _ _, ?_⟩)
    intro first inside second only like
    rw [List.mem_singleton.mp only] at like
    exact held ⟨first, inside, like⟩

/-! ### Any arrivals -/

theorem run_length (arrivals : List α) {log : List α} (fits : log.length ≤ bound) :
    (run (push alike bound) log arrivals).length ≤ bound := by
  have keeps (log : List α) (entry : α) (fits : log.length ≤ bound) : (push alike bound log entry).length ≤ bound :=
    length_push fits entry
  exact run_invariant keeps fits arrivals

theorem run_apart (arrivals : List α) {log : List α} (apart : log.Pairwise fun first second => ¬ alike first second) :
    (run (push alike bound) log arrivals).Pairwise fun first second => ¬ alike first second := by
  have keeps (log : List α) (entry : α) (apart : log.Pairwise fun first second => ¬ alike first second) :
      (push alike bound log entry).Pairwise fun first second => ¬ alike first second := push_apart apart entry
  exact run_invariant keeps apart arrivals

/-- The log holds the newest of what it held and what it took since. -/
theorem run_push (arrivals : List α) {log : List α} (fits : log.length ≤ bound) :
    run (push alike bound) log arrivals = (log ++ taken alike bound log arrivals).rtake bound := by
  induction arrivals generalizing log with
  | nil => rw [run_nil, taken, List.append_nil, rtake_of_length_le bound fits]
  | cons entry arrivals ih =>
    rw [run_cons, ih (length_push fits entry), taken]
    by_cases held : Holds alike log entry
    · rw [if_pos held, push_held held]
    · rw [if_neg held, push_new held, rtake_append, List.append_assoc, List.singleton_append]

end Riscdom.RecentLog
