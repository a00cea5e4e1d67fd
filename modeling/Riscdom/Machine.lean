import Mathlib.Data.List.Basic

/-!
Machines that take one step for every act, and what holds along their runs.
A run is a list of acts; a property of every state it reaches follows from what
one step preserves, here also when only the steps of a given kind preserve it.
-/
namespace Riscdom.Machine
universe u v
variable {State : Type u} {Act : Type v} (step : State → Act → State)

/-- The state after the acts, taken in order. -/
def run (s : State) (acts : List Act) : State := acts.foldl step s

@[simp] theorem run_nil (s : State) : run step s [] = s := rfl
@[simp] theorem run_cons (s : State) (a : Act) (acts : List Act) :
    run step s (a :: acts) = run step (step s a) acts := rfl
theorem run_append (s : State) (first second : List Act) :
    run step s (first ++ second) = run step (run step s first) second := by
  simp [run]

/-- Every act of the run is allowed in the state it is taken in. -/
def Allowed (allow : State → Act → Prop) : State → List Act → Prop
  | _, [] => True
  | s, a :: acts => allow s a ∧ Allowed allow (step s a) acts

variable {step} {allow : State → Act → Prop}

@[simp] theorem allowed_nil (s : State) : Allowed step allow s [] := trivial
@[simp] theorem allowed_cons (s : State) (a : Act) (acts : List Act) :
    Allowed step allow s (a :: acts) ↔ allow s a ∧ Allowed step allow (step s a) acts := Iff.rfl
theorem allowed_append (s : State) (first second : List Act) :
    Allowed step allow s (first ++ second) ↔
      Allowed step allow s first ∧ Allowed step allow (run step s first) second := by
  induction first generalizing s with
  | nil => simp
  | cons a first ih => simp [ih, and_assoc]

/-- A run is allowed exactly where every act is, in the state the acts before it lead to. -/
theorem allowed_iff (s : State) (acts : List Act) :
    Allowed step allow s acts ↔ ∀ before a after, acts = before ++ a :: after → allow (run step s before) a := by
  constructor
  · rintro allowed before a after rfl
    exact ((allowed_append s before _).mp allowed).2.1
  · intro each
    induction acts generalizing s with
    | nil => trivial
    | cons a acts ih =>
      refine ⟨each [] a acts rfl, ih (step s a) fun before b after split => ?_⟩
      exact each (a :: before) b after (by rw [split, List.cons_append])

/-- What every allowed step keeps, every run of allowed steps keeps. -/
theorem run_keeps {Good : State → Prop} (keeps : ∀ s a, Good s → allow s a → Good (step s a)) {s : State}
    {acts : List Act} (good : Good s) (allowed : Allowed step allow s acts) : Good (run step s acts) := by
  induction acts generalizing s with
  | nil => exact good
  | cons a acts ih => exact ih (keeps s a good allowed.1) allowed.2

/-- What every step keeps, every run keeps. -/
theorem run_invariant {Good : State → Prop} (keeps : ∀ s a, Good s → Good (step s a)) {s : State} (good : Good s)
    (acts : List Act) : Good (run step s acts) := by
  induction acts generalizing s with
  | nil => exact good
  | cons a acts ih => exact ih (keeps s a good)

/-- A preorder that every step climbs relates the ends of every run. -/
theorem run_climbs {Le : State → State → Prop} (refl : ∀ s, Le s s) (trans : ∀ {r s t}, Le r s → Le s t → Le r t)
    (climbs : ∀ s a, Le s (step s a)) (s : State) (acts : List Act) : Le s (run step s acts) := by
  induction acts generalizing s with
  | nil => exact refl s
  | cons a acts ih => exact trans (climbs s a) (ih (step s a))

end Riscdom.Machine
