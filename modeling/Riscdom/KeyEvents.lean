import Riscdom.Online
import Riscdom.RecentLog

/-!
The key events the server holds of each node: a bounded log that a pushed event
enters unless one of its action and time is held. The detail is not compared, so
of two events of one kind and one millisecond the first alone is kept.
-/
namespace Riscdom.Net
open Riscdom.Json Riscdom.Machine

/-- One fact pushed twice, as the log tells it: the same action at the same time. -/
def KeyEvent.SameFact (held event : KeyEvent) : Prop := held.action = event.action ∧ held.at_ms = event.at_ms

instance : DecidableRel KeyEvent.SameFact := fun held event => by unfold KeyEvent.SameFact; infer_instance

theorem push_key_event_eq (log : List KeyEvent) (event : KeyEvent) :
    push_key_event log event = RecentLog.push KeyEvent.SameFact KEY_EVENT_LOG log event := by
  have same : (log.any fun held => held.action == event.action && held.at_ms == event.at_ms) = true ↔
      RecentLog.Holds KeyEvent.SameFact log event := by
    simp [RecentLog.Holds, KeyEvent.SameFact]
  by_cases held : RecentLog.Holds KeyEvent.SameFact log event
  · rw [RecentLog.push_held held, push_key_event, if_pos (same.mpr held)]
  · rw [RecentLog.push_new held, push_key_event, if_neg (mt same.mp held)]
    rfl

/-- The key events a node pushes in a run, in the order they arrive. -/
def pushes (node_id : String) (acts : List Roles.Act) : List KeyEvent :=
  acts.filterMap fun
    | .answer _ sender (.KeyEvent event) _ => if sender = node_id then some event else none
    | _ => none

namespace Roles

theorem judge_key_events (roles : Roles) (subject : String) (now : Int64) :
    (roles.judge subject now).key_events = roles.key_events := by
  rw [judge]
  split
  · rfl
  · split <;> rfl

/-- Only a key event touches a log. -/
theorem answer_local_key_events (roles : Roles) (desk : Desk) (sender : String) (action : Net.Local) (now : Int64)
    (other : ∀ event, action ≠ .KeyEvent event) : (roles.answer_local desk sender action now).2.key_events = roles.key_events := by
  cases action with
  | KeyEvent event => exact absurd rfl (other event)
  | Heartbeat =>
    rw [answer_local]
    split
    · split <;> rfl
    · rfl
  | UnreachableReport node_id => exact judge_key_events _ node_id now
  | ReachableReport node_id =>
    rw [answer_local]
    simp only
    split <;> rfl
  | _ => rfl

/-- A step touches the log of a node by the key events of that node. -/
theorem step_key_events (roles : Roles) (act : Act) (node_id : String) :
    (roles.step act).key_events node_id = run push_key_event (roles.key_events node_id) (pushes node_id [act]) := by
  cases act with
  | judge subject now => exact congrFun (judge_key_events roles subject now) node_id
  | answer desk sender action now =>
    by_cases pushed : ∃ event, action = .KeyEvent event
    · obtain ⟨event, rfl⟩ := pushed
      by_cases own : sender = node_id
      · simp [step, answer_local, pushes, own]
      · simp [step, answer_local, pushes, own, Ne.symm own]
    · have other : ∀ event, action ≠ .KeyEvent event := fun event same => pushed ⟨event, same⟩
      have none_pushed : pushes node_id [.answer desk sender action now] = [] := by
        cases action with
        | KeyEvent event => exact absurd rfl (other event)
        | _ => rfl
      rw [none_pushed]
      exact congrFun (answer_local_key_events roles desk sender action now other) node_id

/-- What a run leaves in the log of a node is what its own key events leave there. -/
theorem run_key_events (roles : Roles) (acts : List Act) (node_id : String) :
    (run step roles acts).key_events node_id = run push_key_event (roles.key_events node_id) (pushes node_id acts) := by
  induction acts generalizing roles with
  | nil => rfl
  | cons act acts ih =>
    have split : pushes node_id (act :: acts) = pushes node_id [act] ++ pushes node_id acts :=
      @List.filterMap_append _ _ [act] acts _
    rw [run_cons, ih, step_key_events, split, run_append]

/-- The log of a node after any run: the newest of what was taken of its pushes, at most 256 in the order they arrived, no
    two of one action and time; and one more push is left out exactly if one of its action and time is held. -/
theorem key_event_log_exact (acts : List Act) (node_id : String) :
    let roles := run step start acts
    let log := roles.key_events node_id
    log.length ≤ KEY_EVENT_LOG ∧
      log = (RecentLog.taken KeyEvent.SameFact KEY_EVENT_LOG [] (pushes node_id acts)).rtake KEY_EVENT_LOG ∧
      (log.Pairwise fun first second => ¬ first.SameFact second) ∧
      ∀ desk event now,
        ((roles.step (.answer desk node_id (.KeyEvent event) now)).key_events node_id = log ↔
          ∃ held ∈ log, held.action = event.action ∧ held.at_ms = event.at_ms) ∧
        ((roles.step (.answer desk node_id (.KeyEvent event) now)).key_events node_id ≠ log →
          (roles.step (.answer desk node_id (.KeyEvent event) now)).key_events node_id = (log ++ [event]).rtake KEY_EVENT_LOG) := by
  intro roles log
  have pushing : push_key_event = RecentLog.push KeyEvent.SameFact KEY_EVENT_LOG := by
    funext log event
    exact push_key_event_eq log event
  have whole : log = run (RecentLog.push KeyEvent.SameFact KEY_EVENT_LOG) [] (pushes node_id acts) := by
    rw [← pushing]
    exact run_key_events start acts node_id
  refine ⟨?_, ?_, ?_, ?_⟩
  · rw [whole]
    exact RecentLog.run_length _ (Nat.zero_le _)
  · rw [whole, RecentLog.run_push _ (Nat.zero_le _), List.nil_append]
  · rw [whole]
    exact RecentLog.run_apart _ .nil
  · intro desk event now
    have pushed : (roles.step (.answer desk node_id (.KeyEvent event) now)).key_events node_id =
        RecentLog.push KeyEvent.SameFact KEY_EVENT_LOG log event := by
      rw [step_key_events, pushing]
      simp [pushes]
      rfl
    have self (event : KeyEvent) : event.SameFact event := ⟨rfl, rfl⟩
    have room : 0 < KEY_EVENT_LOG := by decide
    have still := RecentLog.push_eq_self_iff self room log event
    rw [pushed]
    refine ⟨still, fun changed => RecentLog.push_new fun held => changed (still.mpr held)⟩

/-- Two forks of one millisecond: the second is left out, though none of its detail is held. -/
theorem second_fork_left_out : ¬ ∀ (acts : List Act) (node_id : String) (desk : Desk) (event : KeyEvent) (now : Int64),
    ((run step start acts).step (.answer desk node_id (.KeyEvent event) now)).key_events node_id =
      (run step start acts).key_events node_id →
    ∃ held ∈ (run step start acts).key_events node_id,
      held.action = event.action ∧ held.at_ms = event.at_ms ∧ held.detail = event.detail := by
  intro alike
  let desk : Desk := ⟨fun _ => none, ⟨1, []⟩, 1, .null, fun _ _ => .ok ()⟩
  let fork (segment_id : String) : KeyEvent :=
    ⟨1700000000000, "host.audit.segment_forked", json [("segment_id", .string segment_id)]⟩
  have held : (run step start [.answer desk "dev-a" (.KeyEvent (fork "seg-dev-a-1")) 1700000000005]).key_events "dev-a" =
      [fork "seg-dev-a-1"] := by
    simp [step, answer_local, push_key_event, start, KEY_EVENT_LOG]
  obtain ⟨event, inside, -, -, same⟩ := alike [.answer desk "dev-a" (.KeyEvent (fork "seg-dev-a-1")) 1700000000005] "dev-a" desk
    (fork "seg-dev-a-2") 1700000000006 (by
      rw [step_key_events, held]
      simp [pushes, push_key_event, fork])
  rw [held, List.mem_singleton] at inside
  subst inside
  have texts := congrArg (fun detail => (detail.get "segment_id").bind Value.as_str) same
  exact absurd texts (by decide)

end Roles
end Riscdom.Net
