import Riscdom.Liveness
import Riscdom.Machine

/-!
The three layers before a node stands in for its centre: the wait, the
confirmation of the witnesses, and the backoff. Times are 64-bit integers; the
sums and differences of the source saturate.
-/
namespace Riscdom.Net
open Riscdom.KeyedTable Riscdom.Machine

/-! ### Saturating times -/

def saturating_add (a b : Int64) : Int64 := .ofIntClamp (a.toInt + b.toInt)
def saturating_sub (a b : Int64) : Int64 := .ofIntClamp (a.toInt - b.toInt)

theorem le_saturating_add {a b : Int64} (forward : 0 ≤ b.toInt) : a ≤ saturating_add a b := by
  have upper : a.toInt ≤ Int64.maxValue.toInt := a.toInt_le
  have lower : Int64.minValue.toInt ≤ a.toInt := a.minValue_le_toInt
  rw [Int64.le_iff_toInt_le, saturating_add]
  by_cases fits : a.toInt + b.toInt ≤ Int64.maxValue.toInt
  · rw [Int64.toInt_ofIntClamp (by omega) fits]
    omega
  · rw [Int64.ofIntClamp, dif_pos (by omega), dif_neg fits]
    exact upper

theorem le_sub_of_le_saturating_sub {a b least : Int64} (above : 0 < least.toInt) (reached : least ≤ saturating_sub a b) :
    least.toInt ≤ a.toInt - b.toInt := by
  have upper : least.toInt ≤ Int64.maxValue.toInt := least.toInt_le
  have bottom : Int64.minValue.toInt = -2 ^ 63 := Int64.toInt_minValue
  rw [Int64.le_iff_toInt_le, saturating_sub] at reached
  by_cases high : a.toInt - b.toInt ≤ Int64.maxValue.toInt
  · by_cases low : Int64.minValue.toInt ≤ a.toInt - b.toInt
    · rwa [Int64.toInt_ofIntClamp low high] at reached
    · rw [Int64.ofIntClamp, dif_neg low] at reached
      omega
  · omega

/-! ### The machine -/

def SUPPRESSION_WAIT : Int64 := 60 * 1000
def SUPPRESSION_BACKOFF_MAX : Int64 := 30 * 1000

inductive SuppressionPhase
  | Candidate
  | Waiting
  | Confirming
  | BackingOff
  | StandingIn
deriving DecidableEq

structure Suppression where
  node_id : String
  phase : SuppressionPhase
  since_ms : Int64
  deadline_ms : Option Int64
deriving DecidableEq

def to_le_bytes (n : Int64) : List UInt8 := (List.range 8).map fun i => (n.toUInt64 >>> (8 * i).toUInt64).toUInt8

/-- The backoff of a node at a moment: FNV-1a over both, folded into the window. -/
def backoff_delay_ms (node_id : String) (now : Int64) : Int64 :=
  let hash : UInt64 := (node_id.toUTF8.data.toList ++ to_le_bytes now).foldl
    (fun hash byte => (hash ^^^ byte.toUInt64) * 0x00000100000001b3) 0xcbf29ce484222325
  let window := SUPPRESSION_BACKOFF_MAX.toUInt64
  (hash % (window + 1)).toInt64

def is_first_in_line (node_id : String) (others : List String) : Bool := !others.any fun other => decide (other < node_id)

/-- The backoff lies in its window. -/
theorem backoff_delay_ms_bounds (node_id : String) (now : Int64) :
    0 ≤ (backoff_delay_ms node_id now).toInt ∧ (backoff_delay_ms node_id now).toInt ≤ SUPPRESSION_BACKOFF_MAX.toInt := by
  rw [backoff_delay_ms]
  generalize (node_id.toUTF8.data.toList ++ to_le_bytes now).foldl
    (fun hash byte => (hash ^^^ byte.toUInt64) * 0x00000100000001b3) 0xcbf29ce484222325 = hash
  have window : (SUPPRESSION_BACKOFF_MAX.toUInt64 + 1).toNat = 30001 := by decide
  have limit : SUPPRESSION_BACKOFF_MAX.toInt = 30000 := by decide
  have small : (hash % (SUPPRESSION_BACKOFF_MAX.toUInt64 + 1)).toNat < 30001 := by
    rw [UInt64.toNat_mod, window]
    exact Nat.mod_lt _ (by decide)
  have value : (hash % (SUPPRESSION_BACKOFF_MAX.toUInt64 + 1)).toInt64.toInt =
      (hash % (SUPPRESSION_BACKOFF_MAX.toUInt64 + 1)).toNat := BitVec.toInt_eq_toNat_of_lt (by
    rw [UInt64.toBitVec_toInt64, UInt64.toNat_toBitVec]
    omega)
  rw [value, limit]
  omega

namespace Suppression

def new (node_id : String) (now : Int64) : Suppression := ⟨node_id, .Candidate, now, none⟩

variable (machine : Suppression) (now : Int64)

/-- What the node itself sees of the centre. -/
def observe (centre_reachable : Bool) : Suppression :=
  if centre_reachable then { machine with phase := .Candidate, since_ms := now, deadline_ms := none }
  else
    match machine.phase with
    | .Candidate => { machine with phase := .Waiting, since_ms := now }
    | .Waiting =>
      if saturating_sub now machine.since_ms ≥ SUPPRESSION_WAIT then { machine with phase := .Confirming, since_ms := now }
      else machine
    | _ => machine

/-- The verdict of the witnesses on the centre; it is asked for while confirming, and nowhere else. -/
def confirm (table : WitnessTable) (centre : String) (witness_online : String → Bool) : Option Judgement × Suppression :=
  if machine.phase ≠ .Confirming then (none, machine)
  else
    match table.judge centre now witness_online with
    | none => (none, machine)
    | some judgement =>
      (some judgement,
        { machine with
          phase := .BackingOff
          since_ms := now
          deadline_ms := some (saturating_add now (backoff_delay_ms machine.node_id now)) })

/-- A takeover was heard of. -/
def stand_down : Suppression := { machine with phase := .Candidate, since_ms := now, deadline_ms := none }

def backoff_elapsed : Bool :=
  match machine.phase, machine.deadline_ms with
  | .BackingOff, some deadline => decide (now ≥ deadline)
  | _, _ => false

/-- Past the backoff, the node stands in; says whether it just did. -/
def maybe_stand_in : Bool × Suppression :=
  if machine.phase ≠ .BackingOff ∨ ¬ machine.backoff_elapsed now then (false, machine)
  else (true, { machine with phase := .StandingIn, since_ms := now, deadline_ms := none })

inductive Event
  | unreachable (now : Int64)
  | reachable (now : Int64)
  | verdict (table : WitnessTable) (centre : String) (now : Int64) (witness_online : String → Bool)
  | stand_down (now : Int64)
  | tick (now : Int64)

def step (machine : Suppression) : Event → Suppression
  | .unreachable now => machine.observe now false
  | .reachable now => machine.observe now true
  | .verdict table centre now witness_online => (machine.confirm now table centre witness_online).2
  | .stand_down now => machine.stand_down now
  | .tick now => (machine.maybe_stand_in now).2

/-! ### What a phase stands for -/

/-- The centre is heard of, or somebody else stands in. -/
def Event.resets : Event → Bool
  | .reachable _ => true
  | .stand_down _ => true
  | _ => false

def Quiet (events : List Event) : Prop := ∀ event ∈ events, event.resets = false

/-- The centre was out of reach, and nothing was heard of it since. -/
def Missed (events : List Event) (missed_at : Int64) : Prop :=
  ∃ before after, events = before ++ .unreachable missed_at :: after ∧ Quiet after

/-- It was still out of reach when the wait was over, and nothing was heard of it since. -/
def Waited (events : List Event) (waited_at : Int64) : Prop :=
  ∃ before after missed_at, events = before ++ .unreachable waited_at :: after ∧ Quiet after ∧ Missed before missed_at ∧
    SUPPRESSION_WAIT.toInt ≤ waited_at.toInt - missed_at.toInt

/-- The witnesses then judged it gone, and nothing was heard of it since. -/
def Confirmed (events : List Event) (confirmed_at : Int64) : Prop :=
  ∃ before after table centre witness_online waited_at,
    events = before ++ .verdict table centre confirmed_at witness_online :: after ∧ Quiet after ∧ Waited before waited_at ∧
      (table.judge centre confirmed_at witness_online).isSome = true

/-- What the node has been through, by the phase it is in. -/
def Traced (machine : Suppression) (events : List Event) : Prop :=
  match machine.phase with
  | .Candidate => True
  | .Waiting => Missed events machine.since_ms
  | .Confirming => Waited events machine.since_ms
  | .BackingOff => Confirmed events machine.since_ms ∧
      machine.deadline_ms = some (saturating_add machine.since_ms (backoff_delay_ms machine.node_id machine.since_ms))
  | .StandingIn => True

theorem quiet_append {events : List Event} {event : Event} (quiet : Quiet events) (calm : event.resets = false) :
    Quiet (events ++ [event]) := by
  intro other inside
  rcases List.mem_append.mp inside with old | new
  · exact quiet other old
  · rwa [List.mem_singleton.mp new]

theorem missed_append {events : List Event} {event : Event} {missed_at : Int64} (missed : Missed events missed_at)
    (calm : event.resets = false) : Missed (events ++ [event]) missed_at := by
  obtain ⟨before, after, rfl, quiet⟩ := missed
  exact ⟨before, after ++ [event], by simp, quiet_append quiet calm⟩

theorem waited_append {events : List Event} {event : Event} {waited_at : Int64} (waited : Waited events waited_at)
    (calm : event.resets = false) : Waited (events ++ [event]) waited_at := by
  obtain ⟨before, after, missed_at, rfl, quiet, missed, wait⟩ := waited
  exact ⟨before, after ++ [event], missed_at, by simp, quiet_append quiet calm, missed, wait⟩

theorem confirmed_append {events : List Event} {event : Event} {confirmed_at : Int64}
    (confirmed : Confirmed events confirmed_at) (calm : event.resets = false) :
    Confirmed (events ++ [event]) confirmed_at := by
  obtain ⟨before, after, table, centre, witness_online, waited_at, rfl, quiet, waited, judged⟩ := confirmed
  exact ⟨before, after ++ [event], table, centre, witness_online, waited_at, by simp, quiet_append quiet calm, waited, judged⟩

theorem step_node_id (machine : Suppression) (event : Event) : (machine.step event).node_id = machine.node_id := by
  cases event with
  | unreachable now =>
    rw [step, observe, if_neg (by decide)]
    split
    · rfl
    · split_ifs
      · rfl
      · rfl
    · rfl
  | reachable now => rfl
  | verdict table centre now witness_online =>
    rw [step, confirm]
    split_ifs
    · rfl
    · split <;> rfl
  | stand_down now => rfl
  | tick now =>
    rw [step, maybe_stand_in]
    split_ifs <;> rfl

variable {machine : Suppression} {events : List Event}

/-- A step that keeps the phase, its time and its deadline keeps what the phase stands for. -/
theorem traced_append {event : Event} (traced : machine.Traced events) (calm : event.resets = false) :
    machine.Traced (events ++ [event]) := by
  unfold Traced at traced ⊢
  split
  · trivial
  · next phase =>
    rw [phase] at traced
    exact missed_append traced calm
  · next phase =>
    rw [phase] at traced
    exact waited_append traced calm
  · next phase =>
    rw [phase] at traced
    exact ⟨confirmed_append traced.1 calm, traced.2⟩
  · trivial

theorem observe_traced (traced : machine.Traced events) (now : Int64) :
    (machine.observe now false).Traced (events ++ [.unreachable now]) := by
  have calm : (Event.unreachable now).resets = false := rfl
  rw [observe, if_neg (by decide)]
  split
  · exact ⟨events, [], rfl, nofun⟩
  · next phase =>
    split_ifs with lapsed
    · have missed : Missed events machine.since_ms := by
        rw [Traced, phase] at traced
        exact traced
      have wait : SUPPRESSION_WAIT.toInt ≤ now.toInt - machine.since_ms.toInt :=
        le_sub_of_le_saturating_sub (by decide) lapsed
      exact ⟨events, [], machine.since_ms, rfl, nofun, missed, wait⟩
    · exact traced_append traced calm
  · exact traced_append traced calm

theorem confirm_traced (traced : machine.Traced events) (table : WitnessTable) (centre : String) (now : Int64)
    (witness_online : String → Bool) :
    (machine.confirm now table centre witness_online).2.Traced (events ++ [.verdict table centre now witness_online]) := by
  have calm : (Event.verdict table centre now witness_online).resets = false := rfl
  rw [confirm]
  split_ifs with other
  · exact traced_append traced calm
  · split
    · exact traced_append traced calm
    · next judgement judged =>
      have phase : machine.phase = .Confirming := Decidable.not_not.mp other
      have waited : Waited events machine.since_ms := by
        rw [Traced, phase] at traced
        exact traced
      exact ⟨⟨events, [], table, centre, witness_online, machine.since_ms, rfl, nofun, waited, by rw [judged]; rfl⟩, rfl⟩

theorem step_traced (traced : machine.Traced events) (event : Event) : (machine.step event).Traced (events ++ [event]) := by
  cases event with
  | unreachable now => exact observe_traced traced now
  | reachable now => trivial
  | verdict table centre now witness_online => exact confirm_traced traced table centre now witness_online
  | stand_down now => trivial
  | tick now =>
    rw [step, maybe_stand_in]
    split_ifs
    · exact traced_append traced rfl
    · trivial

theorem run_traced (traced : machine.Traced events) (later : List Event) :
    (run step machine later).Traced (events ++ later) ∧ (run step machine later).node_id = machine.node_id := by
  induction later generalizing machine events with
  | nil => exact ⟨by rwa [List.append_nil], rfl⟩
  | cons event later ih =>
    obtain ⟨after, same⟩ := ih (step_traced traced event)
    exact ⟨by simpa using after, same.trans (step_node_id machine event)⟩

/-! ### Standing in -/

/-- At the end of the events, the wait, the verdict and the backoff of the node are all behind it. -/
def Suppressed (node_id : String) (events : List Event) (now : Int64) : Prop :=
  ∃ confirmed_at, Confirmed events confirmed_at ∧ confirmed_at ≤ now ∧
    saturating_add confirmed_at (backoff_delay_ms node_id confirmed_at) ≤ now

theorem suppressed_of_stand_in {now : Int64} (traced : machine.Traced events)
    (entered : (machine.maybe_stand_in now).1 = true) : Suppressed machine.node_id events now := by
  rw [maybe_stand_in] at entered
  split_ifs at entered with early
  rw [not_or, Decidable.not_not, Decidable.not_not] at early
  obtain ⟨phase, lapsed⟩ := early
  rw [Traced, phase] at traced
  obtain ⟨confirmed, deadline⟩ := traced
  have reached : saturating_add machine.since_ms (backoff_delay_ms machine.node_id machine.since_ms) ≤ now := by
    rw [backoff_elapsed, phase, deadline] at lapsed
    exact of_decide_eq_true lapsed
  have before : machine.since_ms ≤ saturating_add machine.since_ms (backoff_delay_ms machine.node_id machine.since_ms) :=
    le_saturating_add (backoff_delay_ms_bounds machine.node_id machine.since_ms).1
  exact ⟨machine.since_ms, confirmed, Int64.le_trans before reached, reached⟩

/-- A node stands in only after the wait, the verdict and the backoff, with nothing heard of the centre in between;
    and when it stands in again, all of them lie after the time before. -/
theorem stand_in_suppressed (node_id : String) (since now : Int64) (events : List Event)
    (entered : ((run step (.new node_id since) events).maybe_stand_in now).1 = true) :
    Suppressed node_id events now ∧ ∀ before earlier after, events = before ++ .tick earlier :: after →
      ((run step (.new node_id since) before).maybe_stand_in earlier).1 = true → Suppressed node_id after now := by
  constructor
  · obtain ⟨traced, same⟩ := @run_traced (.new node_id since) [] trivial events
    have name : (run step (.new node_id since) events).node_id = node_id := same
    rw [← name]
    exact suppressed_of_stand_in traced entered
  · rintro before earlier after rfl first
    obtain ⟨-, same⟩ := @run_traced (.new node_id since) [] trivial before
    rw [run_append, run_cons] at entered
    have standing : ((run step (.new node_id since) before).step (.tick earlier)).Traced [] := by
      rw [maybe_stand_in] at first
      split_ifs at first with early
      rw [step, maybe_stand_in, if_neg early]
      trivial
    obtain ⟨traced, still⟩ := run_traced standing after
    have name : (run step ((run step (.new node_id since) before).step (.tick earlier)) after).node_id = node_id := by
      rw [still, step_node_id, same]
      rfl
    rw [← name]
    exact suppressed_of_stand_in traced entered

/-- What one witness tells of a centre that is gone. -/
def lost_centre : WitnessTable := WitnessTable.new.record "centre" 1700000050000 "dev-b" false

/-- Two misses a minute apart, and the verdict of the one witness. -/
def lost : List Event :=
  [.unreachable 1700000000000, .unreachable 1700000060000, .verdict lost_centre "centre" 1700000060000 fun _ => true]

theorem lost_stands_in : Suppressed "dev-a" lost 1700000090000 :=
  (stand_in_suppressed "dev-a" 1700000000000 1700000090000 lost (by decide)).1

end Suppression
end Riscdom.Net
