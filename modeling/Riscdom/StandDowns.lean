import Riscdom.Asking
import Riscdom.Relaying
import Riscdom.StandIn
import Riscdom.Vocabulary

/-!
What makes a node that stands in for its centre stand down: the next turn of its
ticker after a takeover was heard. The frames are read by another thread, and
what is left for the ticker is the time alone, whichever centre is taken over.
-/
namespace Riscdom.Core
open Riscdom.Json Riscdom.Net Riscdom.Machine

/-- The takeover that a verified frame tells of: none where the frame is read as something else first. -/
def takeover_in (node_id centre : String) (message : SignedMessage) : Option Takeover :=
  if message.recipient = node_id ∧ is_probe message.body then none else
  if is_alive message.body then none else
    match centre_report_from message.body centre with
    | some _ => none
    | none => is_takeover message.body

/-- A takeover that was heard of. The slot between the threads holds its time only. -/
structure Heard where
  at_ms : Int64
  takeover : Takeover

/-- A node that watches its centre: its ticker, and what its reader heard of since the last turn. -/
structure Watcher where
  ticker : Ticker
  heard : Option Heard

inductive WatcherAct
  | Frame (message : SignedMessage) (verified : Bool) (now : Int64)
  | Turn (turn : Tick)

namespace Watcher

def takeover_heard (watcher : Watcher) : Option Int64 := watcher.heard.map Heard.at_ms

def start (watch : CentreWatch) (now : Int64) (world : Audit.World) : Watcher := ⟨.start watch now world, none⟩

section
variable (watch : CentreWatch)

/-- A frame that does not verify is dropped; the newest takeover is what the ticker finds. A turn is one step: a frame
    that comes after the slot is emptied is the next turn's. -/
def step (watcher : Watcher) : WatcherAct → Watcher
  | .Frame message verified now =>
    if verified then
      match takeover_in watch.me watch.centre message with
      | some takeover => { watcher with heard := some ⟨now, takeover⟩ }
      | none => watcher
    else watcher
  | .Turn turn => ⟨watcher.ticker.tick watch { turn with heard := watcher.takeover_heard }, none⟩

/-- The next turn ends the node's standing in, whatever it finds of the centre. -/
def StandsDown (watcher : Watcher) : Prop :=
  watcher.ticker.machine.phase = .StandingIn ∧
    (watcher.ticker.hear watch watcher.takeover_heard).machine.phase ≠ .StandingIn

/-- It does so only for a takeover of the centre the node stands in for. -/
def ForItsCentre (watcher : Watcher) : Prop :=
  watcher.StandsDown watch → ∃ heard, watcher.heard = some heard ∧ heard.takeover.centre = watch.centre

/-- A takeover that a node hears of while it stands in names the centre of the node. -/
def NamesCentre (watcher : Watcher) : WatcherAct → Prop
  | .Frame message verified _ => watcher.ticker.machine.phase = .StandingIn → verified = true →
      ∀ takeover, takeover_in watch.me watch.centre message = some takeover → takeover.centre = watch.centre
  | .Turn _ => True

end

/-! ### One act -/

variable {watch : CentreWatch}

theorem standsDown_iff (watcher : Watcher) :
    watcher.StandsDown watch ↔ watcher.ticker.machine.phase = .StandingIn ∧ watcher.heard ≠ none := by
  rw [StandsDown, takeover_heard]
  cases watcher.heard with
  | none => simp [Ticker.hear]
  | some heard => simp [Ticker.hear, Suppression.stand_down]

theorem forItsCentre_iff (watcher : Watcher) : watcher.ForItsCentre watch ↔
    (watcher.ticker.machine.phase = .StandingIn → ∀ heard, watcher.heard = some heard → heard.takeover.centre = watch.centre) := by
  rw [ForItsCentre, standsDown_iff]
  cases watcher.heard with
  | none => simp
  | some heard => simp

/-- An act keeps what a node stands down for exactly where its takeover names the centre. -/
theorem step_forItsCentre {watcher : Watcher} (faithful : watcher.ForItsCentre watch) (act : WatcherAct) :
    (watcher.step watch act).ForItsCentre watch ↔ watcher.NamesCentre watch act := by
  cases act with
  | Turn turn =>
    rw [forItsCentre_iff]
    exact ⟨fun _ => trivial, fun _ _ heard none => by cases none⟩
  | Frame message verified now =>
    by_cases passed : verified = true
    · simp only [step, passed, if_true, NamesCentre]
      cases told : takeover_in watch.me watch.centre message with
      | none => simp [faithful]
      | some takeover => simp [forItsCentre_iff]
    · simp only [step, passed, Bool.false_eq_true, if_false, NamesCentre]
      exact ⟨fun _ _ impossible => absurd impossible (by simp), fun _ => faithful⟩

/-- In every run a node stands down only for takeovers of its centre, exactly where the takeovers it hears of while it
stands in are of its centre. -/
theorem stands_down_for_centre_iff (watch : CentreWatch) (now : Int64) (world : Audit.World) (acts : List WatcherAct) :
    (∀ before after, acts = before ++ after → (run (step watch) (start watch now world) before).ForItsCentre watch) ↔
      Allowed (step watch) (NamesCentre watch) (start watch now world) acts := by
  have begun : (start watch now world).ForItsCentre watch := by
    rw [forItsCentre_iff]
    exact fun _ heard none => by cases none
  generalize start watch now world = watcher at begun ⊢
  induction acts generalizing watcher with
  | nil => exact ⟨fun _ => trivial, fun _ before after split => by simpa [(List.append_eq_nil_iff.mp split.symm).1] using begun⟩
  | cons act acts ih =>
    rw [allowed_cons]
    constructor
    · intro always
      have next : (watcher.step watch act).ForItsCentre watch := always [act] acts rfl
      refine ⟨(step_forItsCentre begun act).mp next, (ih _ next).mp fun before after split => ?_⟩
      exact always (act :: before) after (by rw [split, List.cons_append])
    · rintro ⟨names, rest⟩ before after split
      have next := (step_forItsCentre begun act).mpr names
      cases before with
      | nil => exact begun
      | cons first before =>
        obtain ⟨rfl, later⟩ := List.cons.inj split
        exact (ih _ next).mpr rest before after later

/-! ### A takeover of another centre -/

/-- Without frames a node is its ticker. -/
theorem run_turns (ticker : Ticker) {turns : List Tick} (unheard : ∀ turn ∈ turns, turn.heard = none) :
    run (step watch) ⟨ticker, none⟩ (turns.map .Turn) = ⟨run (Ticker.tick watch) ticker turns, none⟩ := by
  induction turns generalizing ticker with
  | nil => rfl
  | cons turn turns ih =>
    have nothing : { turn with heard := none } = turn := by rw [← unheard turn List.mem_cons_self]
    rw [List.map_cons, run_cons, run_cons, ← ih _ fun other among => unheard other (List.mem_cons_of_mem _ among)]
    exact congrArg (fun turn => run (step watch) ⟨ticker.tick watch turn, none⟩ _) nothing

/-- A node of the workgroup stands in for a centre that is not the one of the receiver. -/
def elsewhere : Takeover := ⟨"other-centre", "dev-b", 1700000090500⟩

def elsewhere_told : SignedMessage :=
  ⟨1, "dev-b", "dev-a", 1700000090500, takeover_body "other-centre" "dev-b" 1700000090500, zero_signature⟩

theorem elsewhere_heard : takeover_in "dev-a" "centre" elsewhere_told = some elsewhere := by
  have probe : is_probe elsewhere_told.body = false := by decide
  have alive : is_alive elsewhere_told.body = false := by decide
  have report : centre_report_from elsewhere_told.body "centre" = none := rfl
  rw [takeover_in, if_neg (by simp [probe]), if_neg (by simp [alive]), report]
  exact is_takeover_body elsewhere

/-- It makes the receiver stand down. -/
theorem stands_down_for_another : ¬ ∀ (watch : CentreWatch) (now : Int64) (world : Audit.World) (acts : List WatcherAct),
    (run (step watch) (start watch now world) acts).ForItsCentre watch := by
  intro always
  have told := always Ticker.lone_watch 1700000000000 Audit.blank_world
    (Ticker.stood_in.map .Turn ++ [.Frame elsewhere_told true 1700000090600])
  have stands : (run (Ticker.tick Ticker.lone_watch) (.start Ticker.lone_watch 1700000000000 Audit.blank_world)
      Ticker.stood_in).machine.phase = .StandingIn := by
    rw [Ticker.stood_in_run]
    decide
  have turned := @run_turns Ticker.lone_watch (.start Ticker.lone_watch 1700000000000 Audit.blank_world) Ticker.stood_in (by decide)
  rw [run_append, start, turned, run_cons, run_nil, forItsCentre_iff] at told
  have heard : takeover_in Ticker.lone_watch.me Ticker.lone_watch.centre elsewhere_told = some elsewhere := elsewhere_heard
  simp only [step, if_true, heard] at told
  exact absurd (told stands _ rfl) (by decide)

end Watcher

end Riscdom.Core
