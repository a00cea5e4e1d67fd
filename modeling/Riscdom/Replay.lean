import Mathlib.Data.Finset.Insert
import Mathlib.Data.List.Nodup
import Mathlib.Logic.Function.Basic
import Riscdom.Machine

/-!
The record of what was received: for each peer the highest time accepted from
it, and the payloads accepted at that time. Times are 64-bit integers, with the
arithmetic of the source.
-/
namespace Riscdom.Net
open Riscdom.Machine

/-! ### The record -/

/-- How far behind and ahead of the clock a time may be. -/
structure Window where
  back_ms : Int64
  ahead_ms : Int64
deriving DecidableEq

def REPLAY_WINDOW_BACK_MS : Int64 := 5 * 60 * 1000
def REPLAY_WINDOW_AHEAD_MS : Int64 := 60 * 1000

def Window.default : Window := ⟨REPLAY_WINDOW_BACK_MS, REPLAY_WINDOW_AHEAD_MS⟩

inductive ReplayError
  | Stale (ts now back_ms : Int64)
  | Future (ts now ahead_ms : Int64)
  | Replay (sender : String) (ts : Int64)
deriving DecidableEq

/-- The highest time accepted from a peer, and the payloads seen at it. -/
structure PeerRecord where
  high_water : Int64
  at_water : Finset String
deriving DecidableEq

def PeerRecord.default : PeerRecord := ⟨0, ∅⟩

structure ReplayGuard where
  window : Window
  peers : String → Option PeerRecord

/-- What `accept` is asked. -/
structure Call where
  sender : String
  ts : Int64
  body_hash : String
  now : Int64
deriving DecidableEq

def Call.triple (call : Call) : String × Int64 × String := (call.sender, call.ts, call.body_hash)

namespace ReplayGuard

def with_window (window : Window) : ReplayGuard := ⟨window, fun _ => none⟩
def new : ReplayGuard := with_window .default

variable (guard : ReplayGuard)

def high_water (sender : String) : Option Int64 := (guard.peers sender).map PeerRecord.high_water

/-- The record with the entry of one peer written. -/
def write (sender : String) (record : PeerRecord) : ReplayGuard :=
  { guard with peers := Function.update guard.peers sender (some record) }

/-- A message accepted at the clock's time, or why it is not. -/
def accept (call : Call) : Except ReplayError Unit × ReplayGuard :=
  if call.ts < call.now - guard.window.back_ms then
    (.error (.Stale call.ts call.now guard.window.back_ms), guard)
  else if call.ts > call.now + guard.window.ahead_ms then
    (.error (.Future call.ts call.now guard.window.ahead_ms), guard)
  else
    let record := (guard.peers call.sender).getD .default
    -- the entry is there from here on, whatever comes of the message
    let guard := guard.write call.sender record
    if call.ts < record.high_water then (.error (.Replay call.sender call.ts), guard)
    else if call.ts = record.high_water ∧ call.body_hash ∈ record.at_water then
      (.error (.Replay call.sender call.ts), guard)
    else
      let record := if call.ts > record.high_water then ⟨call.ts, ∅⟩ else record
      (.ok (), guard.write call.sender { record with at_water := insert call.body_hash record.at_water })

def step (call : Call) : ReplayGuard := (guard.accept call).2

/-- Every call of a run with its answer. -/
def outcomes : ReplayGuard → List Call → List (Call × Except ReplayError Unit)
  | _, [] => []
  | guard, call :: calls => (call, (guard.accept call).1) :: outcomes (guard.step call) calls

/-- The triples that a run accepts. -/
def accepted (calls : List Call) : List (String × Int64 × String) :=
  ((guard.outcomes calls).filter fun outcome => outcome.2.toBool).map fun outcome => outcome.1.triple

/-! ### One call -/

/-- The time of a call stands inside the window. -/
def Inside (call : Call) : Prop :=
  ¬ call.ts < call.now - guard.window.back_ms ∧ ¬ call.ts > call.now + guard.window.ahead_ms

/-- The record refuses the triple, at whatever time it comes. -/
def Spent (triple : String × Int64 × String) : Prop :=
  ∃ record, guard.peers triple.1 = some record ∧
    (triple.2.1 < record.high_water ∨ triple.2.1 = record.high_water ∧ triple.2.2 ∈ record.at_water)

/-- The record of a peer nothing was accepted from is asked about a time before its first mark. -/
def Conjures (call : Call) : Prop := guard.Inside call ∧ guard.peers call.sender = none ∧ call.ts < 0

instance (call : Call) : Decidable (guard.Inside call) := by unfold Inside; infer_instance
instance (call : Call) : Decidable (guard.Conjures call) := by unfold Conjures; infer_instance

variable {guard} {call : Call}

@[simp] theorem write_window (sender : String) (record : PeerRecord) :
    (guard.write sender record).window = guard.window := rfl

theorem write_peers (sender other : String) (record : PeerRecord) :
    (guard.write sender record).peers other = if other = sender then some record else guard.peers other := by
  by_cases same : other = sender
  · simp [write, same]
  · simp [write, same]

theorem write_write (sender : String) (first second : PeerRecord) :
    (guard.write sender first).write sender second = guard.write sender second := by
  simp [write]

/-- The answers of a call: outside the window, refused by the entry, or accepted into it. -/
theorem accept_cases (guard : ReplayGuard) (call : Call) :
    (¬ guard.Inside call ∧ guard.step call = guard ∧ (guard.accept call).1.toBool = false) ∨
      (guard.Inside call ∧ (guard.accept call).1 = .error (.Replay call.sender call.ts) ∧
        guard.step call = guard.write call.sender ((guard.peers call.sender).getD .default) ∧
          (call.ts < ((guard.peers call.sender).getD .default).high_water ∨
            call.ts = ((guard.peers call.sender).getD .default).high_water ∧
              call.body_hash ∈ ((guard.peers call.sender).getD .default).at_water)) ∨
      (guard.Inside call ∧ (guard.accept call).1 = .ok () ∧ ∃ seen,
        guard.step call = guard.write call.sender ⟨call.ts, insert call.body_hash seen⟩ ∧
          (((guard.peers call.sender).getD .default).high_water < call.ts ∨
            ((guard.peers call.sender).getD .default).high_water = call.ts ∧
              seen = ((guard.peers call.sender).getD .default).at_water ∧ call.body_hash ∉ seen)) := by
  simp only [step, accept, Inside]
  by_cases stale : call.ts < call.now - guard.window.back_ms
  · exact .inl ⟨fun inside => inside.1 stale, by simp only [if_pos stale], by simp only [if_pos stale]; rfl⟩
  · by_cases future : call.ts > call.now + guard.window.ahead_ms
    · refine .inl ⟨fun inside => inside.2 future, ?_, ?_⟩
      · simp only [if_neg stale, if_pos future]
      · simp only [if_neg stale, if_pos future]
        rfl
    · simp only [if_neg stale, if_neg future]
      generalize (guard.peers call.sender).getD .default = record
      refine .inr ?_
      by_cases older : call.ts < record.high_water
      · simp only [if_pos older]
        exact .inl ⟨⟨stale, future⟩, trivial, trivial, .inl older⟩
      · simp only [if_neg older]
        by_cases seen : call.ts = record.high_water ∧ call.body_hash ∈ record.at_water
        · simp only [if_pos seen]
          exact .inl ⟨⟨stale, future⟩, trivial, trivial, .inr seen⟩
        · simp only [if_neg seen]
          refine .inr ⟨⟨stale, future⟩, trivial, ?_⟩
          by_cases newer : call.ts > record.high_water
          · simp only [if_pos newer]
            exact ⟨∅, write_write _ _ _, .inl newer⟩
          · have same : call.ts = record.high_water := Int64.le_antisymm (by simpa using newer) (by simpa using older)
            simp only [if_neg newer]
            refine ⟨record.at_water, ?_, .inr ⟨same.symm, rfl, fun inside => seen ⟨same, inside⟩⟩⟩
            rw [write_write, same]

/-- The entry of the sender, or the one it starts with, has had the call's time or payload already. -/
def Replayed (guard : ReplayGuard) (call : Call) : Prop :=
  call.ts < ((guard.peers call.sender).getD .default).high_water ∨
    call.ts = ((guard.peers call.sender).getD .default).high_water ∧
      call.body_hash ∈ ((guard.peers call.sender).getD .default).at_water

instance (guard : ReplayGuard) (call : Call) : Decidable (guard.Replayed call) := by unfold Replayed; infer_instance

/-- What is accepted: a call inside the window that is no replay. -/
theorem accept_toBool_iff : (guard.accept call).1.toBool = true ↔ guard.Inside call ∧ ¬ guard.Replayed call := by
  constructor
  · intro accepted
    rcases accept_cases guard call with ⟨-, -, refused⟩ | ⟨-, refused, -⟩ | ⟨inside, -, seen, -, raised⟩
    · rw [refused] at accepted
      cases accepted
    · rw [refused] at accepted
      cases accepted
    · refine ⟨inside, ?_⟩
      rcases raised with newer | ⟨same, rfl, unseen⟩
      · rintro (older | ⟨same, -⟩)
        · exact Int64.lt_asymm newer older
        · exact Int64.lt_irrefl (same ▸ newer)
      · rintro (older | ⟨-, held⟩)
        · exact Int64.lt_irrefl (same ▸ older)
        · exact unseen held
  · rintro ⟨inside, fresh⟩
    rcases accept_cases guard call with ⟨outside, -, -⟩ | ⟨-, -, -, replayed⟩ | ⟨-, taken, -⟩
    · exact absurd inside outside
    · exact absurd replayed fresh
    · rw [taken]
      rfl

/-- A call writes nothing but the entry of its sender. -/
theorem step_other {peer : String} (other : peer ≠ call.sender) : (guard.step call).peers peer = guard.peers peer := by
  rcases accept_cases guard call with ⟨-, still, -⟩ | ⟨-, -, written, -⟩ | ⟨-, -, seen, written, -⟩
  · rw [still]
  · rw [written, write_peers, if_neg other]
  · rw [written, write_peers, if_neg other]

@[simp] theorem step_window (guard : ReplayGuard) (call : Call) : (guard.step call).window = guard.window := by
  rcases accept_cases guard call with ⟨-, still, -⟩ | ⟨-, -, written, -⟩ | ⟨-, -, seen, written, -⟩
  · rw [still]
  · rw [written, write_window]
  · rw [written, write_window]

theorem accept_eq_ok (accepted : (guard.accept call).1.toBool = true) :
    guard.Inside call ∧ (guard.accept call).1 = .ok () ∧ ∃ seen,
      guard.step call = guard.write call.sender ⟨call.ts, insert call.body_hash seen⟩ ∧
        (((guard.peers call.sender).getD .default).high_water < call.ts ∨
          ((guard.peers call.sender).getD .default).high_water = call.ts ∧
            seen = ((guard.peers call.sender).getD .default).at_water ∧ call.body_hash ∉ seen) := by
  rcases accept_cases guard call with ⟨-, -, refused⟩ | ⟨-, refused, -⟩ | taken
  · rw [refused] at accepted
    cases accepted
  · rw [refused] at accepted
    cases accepted
  · exact taken

/-- A mark stands, or is raised. -/
theorem step_mark {peer : String} {mark : Int64} (marked : guard.high_water peer = some mark) (call : Call) :
    ∃ raised, (guard.step call).high_water peer = some raised ∧ mark ≤ raised := by
  by_cases own : peer = call.sender
  · subst own
    obtain ⟨record, held, rfl⟩ := Option.map_eq_some_iff.mp marked
    rcases accept_cases guard call with ⟨-, still, -⟩ | ⟨-, -, written, -⟩ | ⟨-, -, seen, written, raised⟩
    · exact ⟨record.high_water, by rw [still, marked], Int64.le_refl _⟩
    · refine ⟨record.high_water, ?_, Int64.le_refl _⟩
      rw [written, high_water, write_peers, if_pos rfl, held]
      rfl
    · refine ⟨call.ts, ?_, ?_⟩
      · rw [written, high_water, write_peers, if_pos rfl]
        rfl
      · rw [held] at raised
        rcases raised with newer | ⟨same, -⟩
        · exact Int64.le_of_lt newer
        · exact Int64.le_of_eq same
  · exact ⟨mark, by rw [high_water, step_other own, ← high_water, marked], Int64.le_refl _⟩

/-! ### What is spent stays spent -/

theorem not_spent_of_accepted (accepted : (guard.accept call).1.toBool = true) : ¬ guard.Spent call.triple := by
  obtain ⟨-, -, seen, -, raised⟩ := accept_eq_ok accepted
  rintro ⟨record, held, spent⟩
  have held : guard.peers call.sender = some record := held
  have spent : call.ts < record.high_water ∨ call.ts = record.high_water ∧ call.body_hash ∈ record.at_water := spent
  simp only [held, Option.getD_some] at raised
  rcases raised with newer | ⟨same, rfl, unseen⟩
  · rcases spent with older | ⟨same, -⟩
    · exact Int64.lt_asymm newer older
    · exact Int64.lt_irrefl (same ▸ newer)
  · rcases spent with older | ⟨-, inside⟩
    · exact Int64.lt_irrefl (same ▸ older)
    · exact unseen inside

theorem spent_of_accepted (accepted : (guard.accept call).1.toBool = true) : (guard.step call).Spent call.triple := by
  obtain ⟨-, -, seen, written, -⟩ := accept_eq_ok accepted
  refine ⟨⟨call.ts, insert call.body_hash seen⟩, ?_, .inr ⟨rfl, Finset.mem_insert_self _ _⟩⟩
  rw [written]
  exact (write_peers _ _ _).trans (if_pos rfl)

theorem spent_step {triple : String × Int64 × String} (spent : guard.Spent triple) (call : Call) :
    (guard.step call).Spent triple := by
  obtain ⟨sender, ts, body_hash⟩ := triple
  obtain ⟨record, held, spent⟩ := spent
  have held : guard.peers sender = some record := held
  have spent : ts < record.high_water ∨ ts = record.high_water ∧ body_hash ∈ record.at_water := spent
  by_cases own : sender = call.sender
  · subst own
    rcases accept_cases guard call with ⟨-, still, -⟩ | ⟨-, -, written, -⟩ | ⟨-, -, seen, written, raised⟩
    · exact ⟨record, by rw [still]; exact held, spent⟩
    · refine ⟨record, ?_, spent⟩
      rw [written, held]
      exact (write_peers _ _ _).trans (if_pos rfl)
    · refine ⟨⟨call.ts, insert call.body_hash seen⟩, ?_, ?_⟩
      · rw [written]
        exact (write_peers _ _ _).trans (if_pos rfl)
      · simp only [held, Option.getD_some] at raised
        rcases raised with newer | ⟨same, rfl, -⟩
        · rcases spent with older | ⟨rfl, -⟩
          · exact .inl (Int64.lt_trans older newer)
          · exact .inl newer
        · rcases spent with older | ⟨rfl, inside⟩
          · exact .inl (same ▸ older)
          · exact .inr ⟨same, Finset.mem_insert_of_mem inside⟩
  · exact ⟨record, by rw [step_other own]; exact held, spent⟩

/-- A call that is spent is refused, and leaves no trace. -/
theorem step_of_spent (spent : guard.Spent call.triple) :
    guard.step call = guard ∧ (guard.accept call).1.toBool = false := by
  rcases accept_cases guard call with ⟨-, still, refused⟩ | ⟨-, refused, written, -⟩ | ⟨-, taken, -⟩
  · exact ⟨still, refused⟩
  · obtain ⟨record, held, -⟩ := spent
    have held : guard.peers call.sender = some record := held
    refine ⟨?_, by rw [refused]; rfl⟩
    rw [written, write, held, Option.getD_some, Function.update_eq_self_iff.mpr held.symm]
  · exact absurd spent (not_spent_of_accepted (by rw [taken]; rfl))

theorem accepted_cons (guard : ReplayGuard) (call : Call) (calls : List Call) :
    guard.accepted (call :: calls) =
      if (guard.accept call).1.toBool then call.triple :: (guard.step call).accepted calls
      else (guard.step call).accepted calls := by
  rw [accepted, outcomes]
  by_cases taken : (guard.accept call).1.toBool
  · rw [if_pos taken, List.filter_cons_of_pos (by simpa using taken)]
    rfl
  · rw [if_neg taken, List.filter_cons_of_neg (by simpa using taken)]
    rfl

theorem not_mem_accepted {triple : String × Int64 × String} (spent : guard.Spent triple) (calls : List Call) :
    triple ∉ guard.accepted calls := by
  induction calls generalizing guard with
  | nil => simp [accepted, outcomes]
  | cons call calls ih =>
    rw [accepted_cons]
    by_cases taken : (guard.accept call).1.toBool
    · rw [if_pos taken, List.mem_cons]
      rintro (rfl | later)
      · exact not_spent_of_accepted taken spent
      · exact ih (spent_step spent call) later
    · rw [if_neg taken]
      exact ih (spent_step spent call)

/-- No run accepts a triple twice. -/
theorem accepted_nodup (guard : ReplayGuard) (calls : List Call) : (guard.accepted calls).Nodup := by
  induction calls generalizing guard with
  | nil => exact List.nodup_nil
  | cons call calls ih =>
    rw [accepted_cons]
    by_cases taken : (guard.accept call).1.toBool
    · rw [if_pos taken]
      exact List.nodup_cons.mpr ⟨not_mem_accepted (spent_of_accepted taken) calls, ih _⟩
    · rw [if_neg taken]
      exact ih _

/-! ### One peer beside the others -/

/-- Two records that a peer cannot tell apart. -/
def Alike (peer : String) (first second : ReplayGuard) : Prop :=
  first.window = second.window ∧ first.peers peer = second.peers peer

theorem accept_alike {peer : String} {first second : ReplayGuard} (alike : Alike peer first second)
    (own : call.sender = peer) :
    (first.accept call).1 = (second.accept call).1 ∧ Alike peer (first.step call) (second.step call) := by
  subst own
  obtain ⟨window, entry⟩ := alike
  simp only [step, accept, Alike, window, entry]
  split_ifs
  all_goals
    refine ⟨rfl, ?_, ?_⟩
    all_goals simp [write, window, entry]

/-- A run answers a peer as if the others had never called. -/
theorem outcomes_filter {peer : String} {first second : ReplayGuard} (alike : Alike peer first second) (calls : List Call) :
    (first.outcomes calls).filter (fun outcome => outcome.1.sender = peer) =
      second.outcomes (calls.filter fun call => call.sender = peer) := by
  induction calls generalizing first second with
  | nil => rfl
  | cons call calls ih =>
    rw [outcomes]
    by_cases own : call.sender = peer
    · obtain ⟨answer, after⟩ := accept_alike alike own
      rw [List.filter_cons_of_pos (by simpa using own), List.filter_cons_of_pos (by simpa using own), outcomes, answer, ih after]
    · rw [List.filter_cons_of_neg (by simpa using own), List.filter_cons_of_neg (by simpa using own)]
      apply ih
      exact ⟨(step_window first call).trans alike.1, (step_other (Ne.symm own)).trans alike.2⟩

/-! ### The law of the record -/

/-- Beside one call: no mark falls, an error leaves the record as it was, and no other peer's entry is touched. -/
def Settles (guard : ReplayGuard) (call : Call) : Prop :=
  (∀ peer mark, guard.high_water peer = some mark → ∃ raised, (guard.step call).high_water peer = some raised ∧ mark ≤ raised) ∧
    ((guard.accept call).1.toBool = false → guard.step call = guard) ∧
      ∀ peer, peer ≠ call.sender → (guard.step call).peers peer = guard.peers peer

/-- Over a run: no triple is accepted twice, every call settles, and no peer's answers hang on the others' calls. -/
def Lawful (guard : ReplayGuard) (calls : List Call) : Prop :=
  (guard.accepted calls).Nodup ∧ Allowed step Settles guard calls ∧
    ∀ peer, (guard.outcomes calls).filter (fun outcome => outcome.1.sender = peer) =
      guard.outcomes (calls.filter fun call => call.sender = peer)

/-- A refused call leaves the record as it was, if the record had an entry to look at. -/
theorem refused_still_iff (guard : ReplayGuard) (call : Call) :
    ((guard.accept call).1.toBool = false → guard.step call = guard) ↔ ¬ guard.Conjures call := by
  constructor
  · rintro still ⟨inside, absent, before⟩
    rcases accept_cases guard call with ⟨outside, -, -⟩ | ⟨-, refused, written, -⟩ | ⟨-, -, seen, -, raised⟩
    · exact outside inside
    · have entry := congrArg (fun guard => guard.peers call.sender) (still (by rw [refused]; rfl))
      simp only [written, write_peers, if_true, absent] at entry
      cases entry
    · have default_mark : ((guard.peers call.sender).getD .default).high_water = 0 := by
        rw [absent]
        rfl
      rw [default_mark] at raised
      rcases raised with newer | ⟨same, -⟩
      · exact Int64.lt_asymm newer before
      · exact Int64.lt_irrefl (same ▸ before)
  · intro known refused
    rcases accept_cases guard call with ⟨-, still, -⟩ | ⟨inside, -, written, spent⟩ | ⟨-, taken, -⟩
    · exact still
    · rw [written]
      cases entry : guard.peers call.sender with
      | some record =>
        rw [write, Option.getD_some, Function.update_eq_self_iff.mpr entry.symm]
      | none =>
        rw [entry] at spent
        rcases spent with before | ⟨-, inside_set⟩
        · exact absurd ⟨inside, entry, before⟩ known
        · exact absurd inside_set (Finset.notMem_empty _)
    · rw [taken] at refused
      cases refused

theorem settles_iff (guard : ReplayGuard) (call : Call) : guard.Settles call ↔ ¬ guard.Conjures call := by
  rw [← refused_still_iff]
  constructor
  · exact fun settles => settles.2.1
  · intro still
    exact ⟨fun _ _ marked => step_mark marked call, still, fun _ other => step_other other⟩

/-- A run is lawful exactly when no call in it asks about a time before the first mark of a peer without an entry. -/
theorem accept_lawful_iff (guard : ReplayGuard) (calls : List Call) :
    guard.Lawful calls ↔ Allowed step (fun guard call => ¬ guard.Conjures call) guard calls := by
  have same : Settles = fun guard call => ¬ guard.Conjures call := by
    funext guard call
    exact propext (settles_iff guard call)
  constructor
  · rintro ⟨-, settles, -⟩
    rwa [same] at settles
  · intro known
    refine ⟨accepted_nodup guard calls, ?_, fun peer => outcomes_filter ⟨rfl, rfl⟩ calls⟩
    rwa [same]

/-- A message from before the epoch, to a machine whose clock has just been reset to it. -/
def early_call : Call := ⟨"dev-a", -1, "hash-1", 0⟩

/-- The refused message leaves an entry with a mark that nothing was accepted at. -/
theorem refused_call_leaves_mark : ¬ ∀ (window : Window) (calls : List Call), (with_window window).Lawful calls := by
  intro law
  obtain ⟨-, ⟨⟨-, still, -⟩, -⟩, -⟩ := law .default [early_call]
  have entry := congrArg (fun guard => guard.high_water "dev-a") (still (by decide))
  exact absurd entry (by decide)

end ReplayGuard
end Riscdom.Net
