import Mathlib.Logic.Basic

/-!
Computations that read and write a state and may fail. A failure keeps what was
written before it: the state comes out of a failed computation as well, and
`attempt` lets the caller look at the failure and go on from there.
-/
namespace Riscdom.Fallible
universe u
variable {State Error α β : Type u}

def Act (State Error α : Type u) : Type u := State → Except Error α × State

namespace Act

instance : Monad (Act State Error) where
  pure a := fun s => (.ok a, s)
  bind x f := fun s =>
    match x s with
    | (.ok a, t) => f a t
    | (.error e, t) => (.error e, t)

def fail (e : Error) : Act State Error α := fun s => (.error e, s)
/-- The computation, its failure handed to the caller. -/
def attempt (x : Act State Error α) : Act State Error (Except Error α) := fun s => (.ok (x s).1, (x s).2)
def ofExcept (result : Except Error α) : Act State Error α := fun s => (result, s)
def get (view : State → α) : Act State Error α := fun s => (.ok (view s), s)
def modify (change : State → State) : Act State Error PUnit := fun s => (.ok ⟨⟩, change s)

@[simp] theorem pure_run (a : α) (s : State) : (pure a : Act State Error α) s = (.ok a, s) := rfl
@[simp] theorem fail_run (e : Error) (s : State) : (fail e : Act State Error α) s = (.error e, s) := rfl
@[simp] theorem attempt_run (x : Act State Error α) (s : State) : attempt x s = (.ok (x s).1, (x s).2) := rfl
@[simp] theorem ofExcept_run (result : Except Error α) (s : State) : ofExcept result s = (result, s) := rfl
@[simp] theorem get_run (view : State → α) (s : State) : (get view : Act State Error α) s = (.ok (view s), s) := rfl
@[simp] theorem modify_run (change : State → State) (s : State) :
    (modify change : Act State Error PUnit) s = (.ok ⟨⟩, change s) := rfl
theorem bind_run (x : Act State Error α) (f : α → Act State Error β) (s : State) :
    (x >>= f) s = match x s with
      | (.ok a, t) => f a t
      | (.error e, t) => (.error e, t) := rfl

/-- Where the first part succeeds, the second goes on. -/
theorem bind_of_ok {x : Act State Error α} {f : α → Act State Error β} {s t : State} {a : α} (first : x s = (.ok a, t)) :
    (x >>= f) s = f a t := by
  rw [bind_run, first]

/-- Where the first part fails, so does the whole. -/
theorem bind_of_error {x : Act State Error α} {f : α → Act State Error β} {s t : State} {e : Error}
    (first : x s = (.error e, t)) : (x >>= f) s = (.error e, t) := by
  rw [bind_run, first]

theorem bind_eq_ok {x : Act State Error α} {f : α → Act State Error β} {s t : State} {b : β} :
    (x >>= f) s = (.ok b, t) ↔ ∃ a r, x s = (.ok a, r) ∧ f a r = (.ok b, t) := by
  constructor
  · intro whole
    cases first : x s with
    | mk result r =>
      cases result with
      | ok a => exact ⟨a, r, rfl, by rw [← whole, bind_of_ok first]⟩
      | error e =>
        rw [bind_of_error first] at whole
        cases whole
  · rintro ⟨a, r, first, second⟩
    rw [bind_of_ok first, second]

/-! ### What a computation does to the state, whether it fails or not -/

/-- The state before and the state after are related. -/
def Does (Rel : State → State → Prop) (x : Act State Error α) : Prop := ∀ s, Rel s (x s).2

section Does
variable {Rel : State → State → Prop} (refl : ∀ s, Rel s s) (trans : ∀ {r s t}, Rel r s → Rel s t → Rel r t)
include refl

theorem does_pure (a : α) : Does Rel (pure a : Act State Error α) := refl
theorem does_fail (e : Error) : Does Rel (fail e : Act State Error α) := refl
theorem does_ofExcept (result : Except Error α) : Does Rel (ofExcept result : Act State Error α) := refl
theorem does_get (view : State → α) : Does Rel (get view : Act State Error α) := refl

omit refl
theorem does_attempt {x : Act State Error α} (does : Does Rel x) : Does Rel (attempt x) := does

include trans
theorem does_bind {x : Act State Error α} {f : α → Act State Error β} (first : Does Rel x) (second : ∀ a, Does Rel (f a)) :
    Does Rel (x >>= f) := by
  intro s
  have step := first s
  rw [bind_run]
  cases result : x s with
  | mk outcome t =>
    rw [result] at step
    cases outcome with
    | ok a => exact trans step (second a t)
    | error e => exact step

end Does

/-! ### What a computation ends in -/

/-- The result and the state after satisfy the postcondition. -/
def EndsIn (x : Act State Error α) (s : State) (post : Except Error α → State → Prop) : Prop := post (x s).1 (x s).2

section EndsIn
variable {s : State} {post mid : Except Error α → State → Prop}

theorem ends_mono {x : Act State Error α} (ends : EndsIn x s mid) (weaker : ∀ result t, mid result t → post result t) :
    EndsIn x s post := weaker _ _ ends

theorem ends_of_does {Rel : State → State → Prop} {x : Act State Error α} (does : Does Rel x) (s : State) :
    EndsIn x s fun _ t => Rel s t := does s

/-- The first part ends somewhere; from there the whole has failed, or the second part goes on. -/
theorem ends_bind (mid : Except Error α → State → Prop) {x : Act State Error α} {f : α → Act State Error β}
    {post : Except Error β → State → Prop} (first : EndsIn x s mid) (failed : ∀ e t, mid (.error e) t → post (.error e) t)
    (next : ∀ a t, mid (.ok a) t → EndsIn (f a) t post) : EndsIn (x >>= f) s post := by
  rw [EndsIn, bind_run]
  rw [EndsIn] at first
  cases result : x s with
  | mk outcome t =>
    rw [result] at first
    cases outcome with
    | ok a => exact next a t first
    | error e => exact failed e t first

end EndsIn

end Act
end Riscdom.Fallible
