import Mathlib.Data.List.Basic

/-!
Counters with fixed windows: so many are let through, until a time that is past
the window begins the next one. A window begins with its first time, so two
windows that follow each other may be used up close together, and three may not.
-/
namespace Riscdom.FixedWindow
universe u
variable {Time : Type u} (past : Time → Time → Prop) [DecidableRel past] (limit : Nat)

/-- How many were let through in a window, and its begin. -/
structure Count (Time : Type u) where
  used : Nat
  start : Time
deriving DecidableEq

/-- A time begins a window where none is open, or the open one is past. -/
def Begins (held : Option (Count Time)) (now : Time) : Prop := ∀ count ∈ held, past count.start now

instance (held : Option (Count Time)) (now : Time) : Decidable (Begins past held now) := by
  unfold Begins
  infer_instance

/-- The count of the window a time falls into. -/
def count_at (held : Option (Count Time)) (now : Time) : Count Time :=
  if Begins past held now then ⟨0, now⟩ else held.getD ⟨0, now⟩

/-- One more is let through, or not, and the count after it. -/
def turn (held : Option (Count Time)) (now : Time) : Bool × Count Time :=
  let count := count_at past held now
  if count.used < limit then (true, { count with used := count.used + 1 }) else (false, count)

/-- The number of the window a time falls into. -/
def window_at (held : Option (Count Time)) (opened : Nat) (now : Time) : Nat :=
  if Begins past held now then opened + 1 else opened

/-- A time, the number of its window, and whether it was let through. -/
structure Mark (Time : Type u) where
  now : Time
  window : Nat
  admitted : Bool

/-- What comes of the times, from a count in the window of this number on. -/
def marks : Option (Count Time) → Nat → List Time → List (Mark Time)
  | _, _, [] => []
  | held, opened, now :: rest =>
    ⟨now, window_at past held opened now, (turn past limit held now).1⟩ ::
      marks (some (turn past limit held now).2) (window_at past held opened now) rest

variable {past limit}

theorem turn_admitted {held : Option (Count Time)} {now : Time} (room : (count_at past held now).used < limit) :
    turn past limit held now = (true, { count_at past held now with used := (count_at past held now).used + 1 }) := if_pos room

theorem turn_refused {held : Option (Count Time)} {now : Time} (full : ¬ (count_at past held now).used < limit) :
    turn past limit held now = (false, count_at past held now) := if_neg full

theorem turn_start (held : Option (Count Time)) (now : Time) :
    (turn past limit held now).2.start = (count_at past held now).start := by
  by_cases room : (count_at past held now).used < limit
  · rw [turn_admitted room]
  · rw [turn_refused room]

theorem count_at_begins {held : Option (Count Time)} {now : Time} (begins : Begins past held now) :
    count_at past held now = ⟨0, now⟩ := if_pos begins

theorem not_begins {held : Option (Count Time)} {now : Time} (goes_on : ¬ Begins past held now) :
    ∃ count, held = some count ∧ ¬ past count.start now ∧ count_at past held now = count := by
  cases held with
  | none => exact absurd (fun count none => by cases none) goes_on
  | some count =>
    refine ⟨count, rfl, ?_, if_neg goes_on⟩
    intro lapsed
    apply goes_on
    rintro _ ⟨⟩
    exact lapsed

/-! ### One window -/

/-- What may still be let through in a window. -/
def rest_of (limit : Nat) (held : Option (Count Time)) (opened window : Nat) : Nat :=
  if window < opened then 0 else if window = opened then limit - held.elim 0 Count.used else limit

/-- What a turn takes of what may still be let through. -/
theorem rest_of_turn (held : Option (Count Time)) (opened window : Nat) (now : Time) :
    rest_of limit (some (turn past limit held now).2) (window_at past held opened now) window +
        (if (turn past limit held now).1 = true ∧ window_at past held opened now = window then 1 else 0) ≤
      rest_of limit held opened window := by
  have counted : limit - (turn past limit held now).2.used + (if (turn past limit held now).1 = true then 1 else 0) ≤
      limit - (count_at past held now).used := by
    by_cases room : (count_at past held now).used < limit
    · simp only [turn_admitted room, if_true]
      omega
    · simp [turn_refused room]
  simp only [rest_of, window_at, Option.elim_some]
  generalize turn past limit held now = turned at counted ⊢
  obtain ⟨admitted, after⟩ := turned
  by_cases begins : Begins past held now
  · rw [count_at_begins begins] at counted
    simp only [if_pos begins]
    cases admitted with
    | true =>
      simp only [true_and, if_true] at counted ⊢
      split_ifs <;> omega
    | false =>
      simp only [Bool.false_eq_true, false_and, if_false] at counted ⊢
      split_ifs <;> omega
  · obtain ⟨count, rfl, -, same⟩ := not_begins begins
    rw [same] at counted
    simp only [if_neg begins, Option.elim_some]
    cases admitted with
    | true =>
      simp only [true_and, if_true] at counted ⊢
      split_ifs <;> omega
    | false =>
      simp only [Bool.false_eq_true, false_and, if_false] at counted ⊢
      split_ifs <;> omega

/-- In no window more are let through than may be. -/
theorem admitted_in_window (held : Option (Count Time)) (opened : Nat) (times : List Time) (window : Nat) :
    ((marks past limit held opened times).countP fun mark => mark.admitted && mark.window == window) ≤
      rest_of limit held opened window := by
  induction times generalizing held opened with
  | nil => simp [marks]
  | cons now rest ih =>
    have later := ih (some (turn past limit held now).2) (window_at past held opened now)
    have taken := @rest_of_turn _ past _ limit held opened window now
    rw [marks, List.countP_cons]
    simp only [Bool.and_eq_true, beq_iff_eq]
    exact Nat.le_trans (Nat.add_le_add_right later _) taken

/-! ### Windows that follow each other -/

theorem window_le (held : Option (Count Time)) (opened : Nat) (times : List Time) {mark : Mark Time}
    (inside : mark ∈ marks past limit held opened times) : opened ≤ mark.window := by
  induction times generalizing held opened with
  | nil => cases inside
  | cons now rest ih =>
    have later : opened ≤ window_at past held opened now := by
      rw [window_at]
      split <;> omega
    rw [marks] at inside
    rcases List.mem_cons.mp inside with rfl | behind
    · exact later
    · exact Nat.le_trans later (ih _ _ behind)

theorem now_mem (held : Option (Count Time)) (opened : Nat) (times : List Time) {mark : Mark Time}
    (inside : mark ∈ marks past limit held opened times) : mark.now ∈ times := by
  induction times generalizing held opened with
  | nil => cases inside
  | cons now rest ih =>
    rw [marks] at inside
    rcases List.mem_cons.mp inside with rfl | behind
    · exact List.mem_cons_self
    · exact List.mem_cons_of_mem _ (ih _ _ behind)

/-- A mark in the next window, or a later one, stands behind a time that is past this one. -/
theorem begun_before {le : Time → Time → Prop} (self : ∀ t, le t t) {times : List Time} (ordered : times.Pairwise le)
    (count : Count Time) (opened : Nat) {mark : Mark Time} (inside : mark ∈ marks past limit (some count) opened times)
    (next : opened < mark.window) : ∃ begin ∈ times, past count.start begin ∧ le begin mark.now := by
  induction times generalizing count with
  | nil => cases inside
  | cons now rest ih =>
    obtain ⟨first, ordered⟩ := List.pairwise_cons.mp ordered
    have from_now : le now mark.now := by
      rcases List.mem_cons.mp (now_mem _ _ _ inside) with same | behind
      · rw [same]
        exact self now
      · exact first _ behind
    by_cases lapsed : past count.start now
    · exact ⟨now, List.mem_cons_self, lapsed, from_now⟩
    · have goes_on : ¬ Begins past (some count) now := fun begins => lapsed (begins count rfl)
      have still : (turn past limit (some count) now).2.start = count.start := by
        rw [turn_start, count_at, if_neg goes_on, Option.getD_some]
      rw [marks, window_at, if_neg goes_on] at inside
      rcases List.mem_cons.mp inside with rfl | behind
      · exact absurd next (Nat.lt_irrefl opened)
      · obtain ⟨begin, among, passed, before⟩ := ih ordered _ behind
        rw [still] at passed
        exact ⟨begin, List.mem_cons_of_mem _ among, passed, before⟩

/-- A mark two windows on stands behind a time that is past this one, and another that is past the next. -/
theorem begun_twice {le : Time → Time → Prop} (self : ∀ t, le t t) {times : List Time} (ordered : times.Pairwise le)
    (count : Count Time) (opened : Nat) {mark : Mark Time} (inside : mark ∈ marks past limit (some count) opened times)
    (after : opened + 1 < mark.window) :
    ∃ second ∈ times, past count.start second ∧ ∃ third, past second third ∧ le second third ∧ le third mark.now := by
  induction times generalizing count with
  | nil => cases inside
  | cons now rest ih =>
    obtain ⟨first, ordered⟩ := List.pairwise_cons.mp ordered
    rw [marks] at inside
    by_cases lapsed : past count.start now
    · have begins : Begins past (some count) now := by
        rintro _ ⟨⟩
        exact lapsed
      rw [window_at, if_pos begins] at inside
      rcases List.mem_cons.mp inside with rfl | behind
      · exact absurd after (Nat.lt_irrefl _)
      · obtain ⟨third, among, passed, before⟩ := begun_before self ordered _ _ behind after
        rw [turn_start, count_at_begins begins] at passed
        exact ⟨now, List.mem_cons_self, lapsed, third, passed, first third among, before⟩
    · have goes_on : ¬ Begins past (some count) now := fun begins => lapsed (begins count rfl)
      have still : (turn past limit (some count) now).2.start = count.start := by
        rw [turn_start, count_at, if_neg goes_on, Option.getD_some]
      rw [window_at, if_neg goes_on] at inside
      rcases List.mem_cons.mp inside with rfl | behind
      · exact absurd after (Nat.not_lt.mpr (Nat.le_succ opened))
      · obtain ⟨second, among, passed, later⟩ := ih ordered _ behind
        rw [still] at passed
        exact ⟨second, List.mem_cons_of_mem _ among, passed, later⟩

/-- A time in a window is far from every time that is two windows on: the next window begins behind the one,
and the window after it before the other. -/
structure Spaced (past le far : Time → Time → Prop) : Prop where
  self : ∀ t, le t t
  fresh : ∀ t, ¬ past t t
  apart : ∀ {start first second third last}, le start first → ¬ past start first → le first second → past start second →
    le second third → past second third → le third last → far first last

/-- Marks two windows apart are far apart. -/
theorem far_apart {le far : Time → Time → Prop} (spaced : Spaced past le far) {times : List Time} (ordered : times.Pairwise le)
    (held : Option (Count Time)) (since : ∀ count ∈ held, ∀ now ∈ times, le count.start now) (opened : Nat) :
    (marks past limit held opened times).Pairwise fun first last =>
      first.window ≤ last.window ∧ (first.window + 1 < last.window → far first.now last.now) := by
  induction times generalizing held opened with
  | nil => exact List.Pairwise.nil
  | cons now rest ih =>
    obtain ⟨behind, ordered⟩ := List.pairwise_cons.mp ordered
    have started : le (count_at past held now).start now ∧ ¬ past (count_at past held now).start now := by
      by_cases begins : Begins past held now
      · rw [count_at_begins begins]
        exact ⟨spaced.self now, spaced.fresh now⟩
      · obtain ⟨count, rfl, goes_on, same⟩ := not_begins begins
        rw [same]
        exact ⟨since count rfl now List.mem_cons_self, goes_on⟩
    have later : ∀ count ∈ some (turn past limit held now).2, ∀ other ∈ rest, le count.start other := by
      rintro _ ⟨⟩ other among
      rw [turn_start]
      by_cases begins : Begins past held now
      · rw [count_at_begins begins]
        exact behind other among
      · obtain ⟨count, rfl, -, same⟩ := not_begins begins
        rw [same]
        exact since count rfl other (List.mem_cons_of_mem _ among)
    rw [marks, List.pairwise_cons]
    refine ⟨fun last inside => ⟨window_le _ _ _ inside, fun after => ?_⟩, ih ordered _ later _⟩
    obtain ⟨second, among, passed, third, again, between, before⟩ := begun_twice spaced.self ordered _ _ inside after
    rw [turn_start] at passed
    exact spaced.apart started.1 started.2 (behind second among) passed between again before

theorem rest_of_le (held : Option (Count Time)) (opened window : Nat) : rest_of limit held opened window ≤ limit := by
  rw [rest_of]
  split_ifs <;> omega

/-- What is in one of two parts is counted in them. -/
theorem countP_le_add {α : Type u} {whole left right : α → Bool} {entries : List α}
    (covered : ∀ entry ∈ entries, whole entry = true → left entry = true ∨ right entry = true) :
    entries.countP whole ≤ entries.countP left + entries.countP right := by
  induction entries with
  | nil => simp
  | cons entry rest ih =>
    have tail := ih fun other among => covered other (List.mem_cons_of_mem _ among)
    have head := covered entry List.mem_cons_self
    simp only [List.countP_cons]
    by_cases here : whole entry = true
    · rcases head here with inside | inside
      · simp only [here, inside, if_true]
        omega
      · simp only [here, inside, if_true]
        omega
    · rw [if_neg here]
      omega

/-- Among times of which no two are far apart, at most twice as many are let through as in one window. -/
theorem admitted_in_interval {le far : Time → Time → Prop} (spaced : Spaced past le far) {times : List Time}
    (ordered : times.Pairwise le) (held : Option (Count Time)) (since : ∀ count ∈ held, ∀ now ∈ times, le count.start now)
    (opened : Nat) (within : Time → Bool)
    (close : ∀ first last, within first = true → within last = true → ¬ far first last) :
    ((marks past limit held opened times).countP fun mark => mark.admitted && within mark.now) ≤ 2 * limit := by
  have apart := (@far_apart _ past _ limit _ _ spaced _ ordered held since opened).filter fun mark => mark.admitted && within mark.now
  have window_limit (window : Nat) := Nat.le_trans
    (@admitted_in_window _ past _ limit held opened times window) (rest_of_le held opened window)
  generalize marks past limit held opened times = all at apart window_limit ⊢
  cases kept : all.filter fun mark => mark.admitted && within mark.now with
  | nil => simp [List.countP_eq_length_filter, kept]
  | cons first others =>
    rw [kept, List.pairwise_cons] at apart
    have chosen_first : first ∈ all.filter fun mark => mark.admitted && within mark.now := by
      rw [kept]
      exact List.mem_cons_self
    have first_within := (Bool.and_eq_true_iff.mp (List.mem_filter.mp chosen_first).2).2
    have in_two : ∀ mark ∈ all, (mark.admitted && within mark.now) = true →
        (mark.admitted && mark.window == first.window) = true ∨ (mark.admitted && mark.window == first.window + 1) = true := by
      intro mark inside chosen
      have among : mark ∈ first :: others := kept ▸ List.mem_filter.mpr ⟨inside, chosen⟩
      obtain ⟨admitted, its⟩ := Bool.and_eq_true_iff.mp chosen
      simp only [admitted, Bool.true_and, beq_iff_eq]
      rcases List.mem_cons.mp among with rfl | behind
      · exact .inl rfl
      · obtain ⟨monotone, near⟩ := apart.1 mark behind
        have next : ¬ first.window + 1 < mark.window := fun after => close _ _ first_within its (near after)
        omega
    have first_window := window_limit first.window
    have second_window := window_limit (first.window + 1)
    have both := countP_le_add in_two
    omega

end Riscdom.FixedWindow
