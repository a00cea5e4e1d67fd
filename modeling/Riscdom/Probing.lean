import Mathlib.Data.List.DropRight
import Riscdom.Liveness
import Riscdom.Machine

/-!
A prober's own view of its peers: the misses in a row of each, and the two
reports it makes of them, one at the third miss and one at the answer that ends
such a silence.
-/
namespace Riscdom.Net
open Riscdom.Json Riscdom.Machine

structure PeerView where
  last_answer_ms : Option Int64
  consecutive_misses : UInt32
  reachable : Bool
deriving DecidableEq

/-- One more, or the greatest number where there is none. -/
def saturating_inc (n : UInt32) : UInt32 := if n = 0xffffffff then n else n + 1

/-- The views of the peers, in the order of their names. -/
structure Prober where
  views : List (String × PeerView)
  sorted : Sorted views

namespace Prober

def write (prober : Prober) (peer : String) (view : PeerView) : Prober :=
  ⟨insert peer view prober.views, sorted_insert peer view prober.sorted⟩

def empty : Prober := ⟨[], .nil⟩

/-- A prober watching peers, each held reachable. -/
def new (peers : List String) : Prober := peers.foldl (fun prober peer => prober.write peer ⟨none, 0, true⟩) empty

/-- What comes of one probe. -/
inductive Act
  | Answer (peer : String) (now : Int64)
  | Miss (peer : String)
deriving DecidableEq

def Act.peer : Act → String
  | .Answer peer _ => peer
  | .Miss peer => peer

def Act.is_miss : Act → Bool
  | .Answer _ _ => false
  | .Miss _ => true

variable (prober : Prober) (peer : String)

def peers : List String := prober.views.map Prod.fst

def view : Option PeerView := lookup peer prober.views

def record_answer (now : Int64) : Option Report × Prober :=
  match prober.view peer with
  | none => (none, prober)
  | some view =>
    let view := { view with last_answer_ms := some now, consecutive_misses := 0 }
    if view.reachable then (none, prober.write peer view)
    else (some (.Reachable peer), prober.write peer { view with reachable := true })

def record_miss : Option Report × Prober :=
  match prober.view peer with
  | none => (none, prober)
  | some view =>
    let view := { view with consecutive_misses := saturating_inc view.consecutive_misses }
    if ¬ view.reachable ∨ view.consecutive_misses.toNat < PROBE_MISSES then (none, prober.write peer view)
    else (some (.Unreachable peer), prober.write peer { view with reachable := false })

/-- The report a probe leads to, and the prober after it. -/
def record : Act → Option Report × Prober
  | .Answer peer now => prober.record_answer peer now
  | .Miss peer => prober.record_miss peer

def step (act : Act) : Prober := (prober.record act).2

/-- The misses of a peer since its last answer. -/
def misses (acts : List Act) : Nat := ((acts.filter fun act => act.peer = peer).rtakeWhile Act.is_miss).length

/-! ### Views -/

variable {prober peer}

theorem view_write (other : String) (view : PeerView) :
    (prober.write other view).view peer = if peer = other then some view else prober.view peer :=
  lookup_insert other peer view prober.views

theorem view_new {watched : List String} (inside : peer ∈ watched) : (new watched).view peer = some ⟨none, 0, true⟩ := by
  induction watched using List.reverseRecOn with
  | nil => cases inside
  | append_singleton watched last ih =>
    rw [new, List.foldl_append, List.foldl_cons, List.foldl_nil, view_write]
    by_cases here : peer = last
    · rw [if_pos here]
    · rw [if_neg here]
      apply ih
      simpa [here] using inside

/-! ### Misses -/

theorem misses_other {act : Act} (acts : List Act) (other : act.peer ≠ peer) : misses peer (acts ++ [act]) = misses peer acts := by
  simp [misses, other]

@[simp] theorem misses_answer (acts : List Act) (now : Int64) : misses peer (acts ++ [.Answer peer now]) = 0 := by
  simp [misses, Act.peer, Act.is_miss]

@[simp] theorem misses_miss (acts : List Act) : misses peer (acts ++ [.Miss peer]) = misses peer acts + 1 := by
  simp [misses, Act.peer, List.rtakeWhile_concat, Act.is_miss]

/-- Without an answer the misses do not become fewer. -/
theorem misses_climb (acts : List Act) {later : List Act} (silent : ∀ now, .Answer peer now ∉ later) :
    misses peer acts ≤ misses peer (acts ++ later) := by
  induction later using List.reverseRecOn with
  | nil => rw [List.append_nil]
  | append_singleton later last ih =>
    have before := ih fun now inside => silent now (List.mem_append_left _ inside)
    rw [← List.append_assoc]
    by_cases own : last.peer = peer
    · cases last with
      | Answer other now =>
        obtain rfl : other = peer := own
        exact absurd (List.mem_append_right _ (List.mem_singleton.mpr rfl)) (silent now)
      | Miss other =>
        obtain rfl : other = peer := own
        rw [misses_miss]
        omega
    · rw [misses_other _ own]
      exact before

theorem saturating_inc_toNat (n : UInt32) : (saturating_inc n).toNat = min (n.toNat + 1) 0xffffffff := by
  have bound := n.toNat_lt
  by_cases full : n = 0xffffffff
  · subst full
    rfl
  · have below : n.toNat ≠ 0xffffffff := fun same => full (UInt32.toNat_inj.mp same)
    rw [saturating_inc, if_neg full, UInt32.toNat_add]
    simp
    omega

/-! ### The view after any probes -/

/-- A view that counts the misses since the last answer, and holds the peer reachable while they are fewer than three. -/
structure Counted (view : PeerView) (missed : Nat) : Prop where
  misses : view.consecutive_misses.toNat = min missed 0xffffffff
  reachable : view.reachable = decide (missed < PROBE_MISSES)

theorem counted_start (last : Option Int64) : Counted ⟨last, 0, true⟩ 0 := ⟨rfl, rfl⟩

/-- The report of an answer, and the view after it. -/
theorem record_answer_counted {view : PeerView} {missed : Nat} (held : prober.view peer = some view)
    (counted : Counted view missed) (now : Int64) :
    (prober.record_answer peer now).1 = (if PROBE_MISSES ≤ missed then some (.Reachable peer) else none) ∧
      ∃ after, (prober.record_answer peer now).2 = prober.write peer after ∧ Counted after 0 := by
  rw [record_answer, held]
  by_cases reached : PROBE_MISSES ≤ missed
  · have gone : view.reachable = false := by
      rw [counted.reachable]
      exact decide_eq_false (by omega)
    simp only [gone, Bool.false_eq_true, if_false, if_pos reached, true_and]
    exact ⟨_, rfl, rfl, rfl⟩
  · have there : view.reachable = true := by
      rw [counted.reachable]
      exact decide_eq_true (by omega)
    simp only [there, if_true, if_neg reached, true_and]
    exact ⟨_, rfl, rfl, rfl⟩

/-- The report of a miss, and the view after it. -/
theorem record_miss_counted {view : PeerView} {missed : Nat} (held : prober.view peer = some view) (counted : Counted view missed) :
    (prober.record_miss peer).1 = (if missed + 1 = PROBE_MISSES then some (.Unreachable peer) else none) ∧
      ∃ after, (prober.record_miss peer).2 = prober.write peer after ∧ Counted after (missed + 1) := by
  have count : (saturating_inc view.consecutive_misses).toNat = min (missed + 1) 0xffffffff := by
    rw [saturating_inc_toNat, counted.misses]
    omega
  rw [record_miss, held]
  simp only [count, counted.reachable, decide_eq_true_eq]
  by_cases third : missed + 1 = PROBE_MISSES
  · have quiet : ¬ (¬ missed < PROBE_MISSES ∨ min (missed + 1) 0xffffffff < PROBE_MISSES) := by
      simp only [PROBE_MISSES] at third ⊢
      omega
    rw [if_neg quiet, if_pos third]
    refine ⟨rfl, _, rfl, count, ?_⟩
    exact (decide_eq_false (by omega)).symm
  · have known : ¬ missed < PROBE_MISSES ∨ min (missed + 1) 0xffffffff < PROBE_MISSES := by
      simp only [PROBE_MISSES] at third ⊢
      omega
    rw [if_pos known, if_neg third]
    refine ⟨rfl, _, rfl, count, ?_⟩
    rw [decide_eq_decide]
    omega

/-- A probe of another peer leaves the view as it is. -/
theorem step_other {act : Act} (other : act.peer ≠ peer) : (prober.step act).view peer = prober.view peer := by
  have away (view : PeerView) : (prober.write act.peer view).view peer = prober.view peer := by
    rw [view_write, if_neg (Ne.symm other)]
  cases act with
  | Answer name now =>
    rw [step, record, record_answer]
    split
    · rfl
    · simp only
      split_ifs
      · exact away _
      · exact away _
  | Miss name =>
    rw [step, record, record_miss]
    split
    · rfl
    · simp only
      split_ifs
      · exact away _
      · exact away _

/-- After any probes the view of a watched peer counts its misses since its last answer. -/
theorem run_counted {watched : List String} (inside : peer ∈ watched) (acts : List Act) :
    ∃ view, (run step (new watched) acts).view peer = some view ∧ Counted view (misses peer acts) := by
  induction acts using List.reverseRecOn with
  | nil => exact ⟨_, view_new inside, counted_start none⟩
  | append_singleton acts act ih =>
    obtain ⟨view, held, counted⟩ := ih
    rw [run_append, run_cons, run_nil]
    by_cases own : act.peer = peer
    · cases act with
      | Answer name now =>
        obtain rfl : name = peer := own
        obtain ⟨-, after, written, fits⟩ := record_answer_counted held counted now
        refine ⟨after, ?_, by rw [misses_answer]; exact fits⟩
        rw [step, record, written, view_write]
        exact if_pos rfl
      | Miss name =>
        obtain rfl : name = peer := own
        obtain ⟨-, after, written, fits⟩ := record_miss_counted held counted
        refine ⟨after, ?_, by rw [misses_miss]; exact fits⟩
        rw [step, record, written, view_write]
        exact if_pos rfl
    · exact ⟨view, by rw [step_other own, held], by rw [misses_other acts own]; exact counted⟩

/-- The third miss in a row was reported, and the peer has not answered since. -/
def ReportedSince (watched : List String) (peer : String) (acts : List Act) : Prop :=
  ∃ earlier later, acts = earlier ++ .Miss peer :: later ∧
    ((run step (new watched) earlier).record_miss peer).1 = some (.Unreachable peer) ∧ ∀ now, .Answer peer now ∉ later

theorem reportedSince_iff {watched : List String} (inside : peer ∈ watched) (acts : List Act) :
    ReportedSince watched peer acts ↔ PROBE_MISSES ≤ misses peer acts := by
  have told (earlier : List Act) : ((run step (new watched) earlier).record_miss peer).1 = some (.Unreachable peer) ↔
      misses peer earlier + 1 = PROBE_MISSES := by
    obtain ⟨view, held, counted⟩ := run_counted inside earlier
    rw [(record_miss_counted held counted).1]
    simp
  constructor
  · rintro ⟨earlier, later, rfl, reported, silent⟩
    have third := (told earlier).mp reported
    have climbs := misses_climb (earlier ++ [.Miss peer]) silent
    rw [List.append_assoc, List.singleton_append, misses_miss] at climbs
    omega
  · intro reached
    induction acts using List.reverseRecOn with
    | nil => exact absurd (show 3 ≤ 0 from reached) (by decide)
    | append_singleton acts act ih =>
      -- what was reported before stays so, unless this act is the peer's answer
      have stays (quiet : ∀ now, act ≠ .Answer peer now) (before : PROBE_MISSES ≤ misses peer acts) :
          ReportedSince watched peer (acts ++ [act]) := by
        obtain ⟨earlier, later, rfl, reported, silent⟩ := ih before
        refine ⟨earlier, later ++ [act], by simp, reported, fun now within => ?_⟩
        rcases List.mem_append.mp within with old | last
        · exact silent now old
        · exact quiet now (List.mem_singleton.mp last).symm
      by_cases own : act.peer = peer
      · cases act with
        | Answer name now =>
          obtain rfl : name = peer := own
          rw [misses_answer] at reached
          exact absurd reached (by decide)
        | Miss name =>
          obtain rfl : name = peer := own
          rw [misses_miss] at reached
          by_cases before : PROBE_MISSES ≤ misses name acts
          · exact stays nofun before
          · exact ⟨acts, [], rfl, (told acts).mpr (by omega), fun _ => List.not_mem_nil⟩
      · rw [misses_other acts own] at reached
        exact stays (fun now same => own (by rw [same]; rfl)) reached

/-- A watched peer after any probes: it is held reachable exactly while it missed fewer than three since its last answer, a miss
    is reported exactly if it is the third of them, and an answer exactly if an unreachable peer was reported since the last. -/
theorem prober_exact (watched : List String) (peer : String) (inside : peer ∈ watched) (acts : List Act) :
    let prober := run step (new watched) acts
    (∃ view, prober.view peer = some view ∧ (view.reachable = true ↔ misses peer acts < PROBE_MISSES)) ∧
      (prober.record_miss peer).1 = (if misses peer (acts ++ [.Miss peer]) = PROBE_MISSES then some (.Unreachable peer) else none) ∧
      ∀ now, ((prober.record_answer peer now).1 = some (.Reachable peer) ↔ ReportedSince watched peer acts) ∧
        ((prober.record_answer peer now).1 = none ↔ ¬ ReportedSince watched peer acts) := by
  obtain ⟨view, held, counted⟩ := run_counted inside acts
  refine ⟨⟨view, held, by simp [counted.reachable]⟩, ?_, ?_⟩
  · rw [misses_miss]
    exact (record_miss_counted held counted).1
  · intro now
    rw [reportedSince_iff inside acts, (record_answer_counted held counted now).1]
    by_cases reached : PROBE_MISSES ≤ misses peer acts
    · simp [reached]
    · simp [reached]

/-- The third miss in a row of one peer, another's answers between. -/
theorem third_miss_reported : ((run step (new ["dev-b", "dev-c"])
    [.Miss "dev-b", .Answer "dev-c" 5, .Miss "dev-b", .Answer "dev-c" 20]).record_miss "dev-b").1 =
      some (.Unreachable "dev-b") :=
  (prober_exact ["dev-b", "dev-c"] "dev-b" (by decide)
    [.Miss "dev-b", .Answer "dev-c" 5, .Miss "dev-b", .Answer "dev-c" 20]).2.1

end Prober
end Riscdom.Net
