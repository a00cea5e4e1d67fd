import Riscdom.Qmp

/-!
What the first run of an operation ends in, and what the one reconnect makes of
it. Every error is retried while QEMU is alive, also one that is QEMU's own
answer: an operation is run again exactly where a new connection can be had.
-/
namespace Riscdom.Sandbox
open Json Text Fallible Fallible.Act

/-- What a run ends in: a value; a command that could not be sent or got no reply; an error that QEMU answered or the
    operation reports of it; or the operation's own giving up. -/
inductive Ending (T : Type)
  | Answered (value : T)
  | Transport (error : SandboxError)
  | Refused (error : SandboxError)
  | Unfinished (error : SandboxError)
deriving DecidableEq

def Ending.result {T : Type} : Ending T → Except SandboxError T
  | .Answered value => .ok value
  | .Transport error => .error error
  | .Refused error => .error error
  | .Unfinished error => .error error

section
variable {json : JsonText} {T : Type}

/-- The last command got a reply. -/
def Session.replied (s : Session json) : Bool := (s.exchanges.getLast?.bind Exchange.reply).isSome

def QmpProgram.ending : QmpProgram T → Session json → Ending T
  | .Return (.ok value), _ => .Answered value
  | .Return (.error (.Qmp report)), _ => .Refused (.Qmp report)
  | .Return (.error error), _ => .Unfinished error
  | .Execute request next, s =>
    match execute request s with
    | (.ok reply, t) => (next reply).ending t
    | (.error error, t) => if t.replied then .Refused error else .Transport error

/-- The ending is what the run comes to. -/
theorem ending_result (op : QmpProgram T) (s : Session json) : (op.run s).1 = (op.ending s).result := by
  induction op generalizing s with
  | Return result =>
    cases result with
    | ok value => rfl
    | error error => cases error <;> rfl
  | Execute request next ih =>
    have run : (QmpProgram.Execute request next).run s = (execute request >>= fun reply => (next reply).run) s := rfl
    rw [run]
    cases executed : execute request s with
    | mk answer t =>
      cases answer with
      | ok reply => rw [bind_of_ok executed, ih, QmpProgram.ending, executed]
      | error error =>
        rw [bind_of_error executed, QmpProgram.ending, executed]
        by_cases replied : t.replied = true
        · simp [replied, Ending.result]
        · simp [replied, Ending.result]

/-- The session in which the operation is run again, where it is. -/
def rerun (dial : Except SandboxError String) (qemu_alive : Bool) (op : QmpProgram T) (s : Session json) :
    Option (Session json) :=
  match op.run s with
  | (.ok _, _) => none
  | (.error _, t) =>
    if qemu_alive then
      match connect dial t with
      | (.ok client, u) => some { u with client }
      | (.error _, _) => none
    else none

variable {dial : Except SandboxError String} {qemu_alive : Bool} {op : QmpProgram T} {s : Session json}

/-- A run that fails while QEMU is alive is followed by a connect, and by a second run where that succeeds. -/
theorem run_qmp_error {error : SandboxError} {t : Session json} (first : op.run s = (.error error, t)) :
    run_qmp_with_one_reconnect dial qemu_alive op s =
      if qemu_alive then
        match connect dial t with
        | (.error refused, u) => (.error refused, u)
        | (.ok client, u) =>
          match op.run { u with client } with
          | (.ok value, w) => (.ok value, w)
          | (.error second, w) => (.error (.Qmp ("the connection was reset and the retry failed too: " ++ second.to_string ++
              " (the first error was: " ++ error.to_string ++ ")")), w)
      else (.error error, t) := by
  have attempted : attempt op.run s = (.ok (.error error), t) := by rw [attempt_run, first]
  rw [run_qmp_with_one_reconnect, bind_of_ok attempted]
  dsimp only
  by_cases alive : qemu_alive = true
  · rw [if_pos alive, if_pos alive]
    cases connected : connect dial t with
    | mk opened u =>
      cases opened with
      | error refused => rw [bind_of_error connected]
      | ok client =>
        rw [bind_of_ok connected]
        have modified : (Act.modify fun s => { s with client } : Act (Session json) SandboxError PUnit) u =
            (.ok ⟨⟩, { u with client }) := rfl
        rw [bind_of_ok modified]
        have again : attempt op.run { u with client } = (.ok (op.run { u with client }).1, (op.run { u with client }).2) := rfl
        rw [bind_of_ok again]
        dsimp only
        cases op.run { u with client } with
        | mk answer w => cases answer <;> rfl
  · rw [if_neg alive, if_neg alive]
    rfl

theorem rerun_error {error : SandboxError} {t : Session json} (first : op.run s = (.error error, t)) :
    rerun dial qemu_alive op s = if qemu_alive then
      match connect dial t with
      | (.ok client, u) => some { u with client }
      | (.error _, _) => none
    else none := by
  rw [rerun, first]

theorem rerun_ok {value : T} {t : Session json} (first : op.run s = (.ok value, t)) : rerun dial qemu_alive op s = none := by
  rw [rerun, first]

/-- The operation is run again at most once, and only after its transport failed while QEMU lives; what QEMU answered or
    reported is returned. What the second run comes to is asked nothing of: its refusal is told within another (`rerun_failed`). -/
structure VerdictFinal (dial : Except SandboxError String) (qemu_alive : Bool) (op : QmpProgram T) (s : Session json) : Prop where
  once : ∀ again, rerun dial qemu_alive op s = some again →
    (run_qmp_with_one_reconnect dial qemu_alive op s).2 = (op.run again).2
  after_transport : ∀ again, rerun dial qemu_alive op s = some again →
    qemu_alive = true ∧ ∃ error, op.ending s = .Transport error
  refusal : ∀ error, op.ending s = .Refused error → (run_qmp_with_one_reconnect dial qemu_alive op s).1 = .error error

/-- Where there is a second run, it is the last. -/
theorem rerun_last {again : Session json} (reran : rerun dial qemu_alive op s = some again) :
    (run_qmp_with_one_reconnect dial qemu_alive op s).2 = (op.run again).2 := by
  cases first : op.run s with
  | mk answer t =>
    cases answer with
    | ok value =>
      rw [rerun_ok first] at reran
      cases reran
    | error error =>
      rw [rerun_error first] at reran
      rw [run_qmp_error first]
      split_ifs at reran ⊢
      cases connected : connect dial t with
      | mk opened u =>
        rw [connected] at reran
        cases opened with
        | error refused => cases reran
        | ok client =>
          cases reran
          dsimp only
          cases op.run { u with client } with
          | mk second w => cases second <;> rfl

/-- A second run that fails is told with the first one's error. -/
theorem rerun_failed {again : Session json} {second : SandboxError} (reran : rerun dial qemu_alive op s = some again)
    (failed : (op.run again).1 = .error second) :
    ∃ error, (op.run s).1 = .error error ∧ (run_qmp_with_one_reconnect dial qemu_alive op s).1 =
      .error (.Qmp ("the connection was reset and the retry failed too: " ++ second.to_string ++
        " (the first error was: " ++ error.to_string ++ ")")) := by
  cases first : op.run s with
  | mk answer t =>
    cases answer with
    | ok value =>
      rw [rerun_ok first] at reran
      cases reran
    | error error =>
      refine ⟨error, rfl, ?_⟩
      rw [rerun_error first] at reran
      rw [run_qmp_error first]
      split_ifs at reran ⊢
      cases connected : connect dial t with
      | mk opened u =>
        rw [connected] at reran
        cases opened with
        | error refused => cases reran
        | ok client =>
          cases reran
          dsimp only
          cases ran : op.run { u with client } with
          | mk result w =>
            rw [ran] at failed
            cases failed
            rfl

/-- What a failed run comes to while QEMU is alive, by whether a new connection can be had. -/
theorem reconnected {error : SandboxError} {t : Session json} (first : op.run s = (.error error, t)) :
    (∃ other, (connect dial t).1 = .error other ∧ rerun dial true op s = none ∧
        (run_qmp_with_one_reconnect dial true op s).1 = .error other) ∨
      (∃ client, (connect dial t).1 = .ok client) ∧ ∃ again, rerun dial true op s = some again := by
  rw [rerun_error first, run_qmp_error first, if_pos rfl, if_pos rfl]
  cases connected : connect dial t with
  | mk opened u =>
    cases opened with
    | error other => exact .inl ⟨other, rfl, rfl, rfl⟩
    | ok client => exact .inr ⟨⟨client, rfl⟩, _, rfl⟩

theorem final_of_alone (alone : rerun dial qemu_alive op s = none)
    (refusal : ∀ error, op.ending s = .Refused error → (run_qmp_with_one_reconnect dial qemu_alive op s).1 = .error error) :
    VerdictFinal dial qemu_alive op s := by
  refine ⟨?_, ?_, refusal⟩
  all_goals
    intro again reran
    rw [alone] at reran
    cases reran

/-- The verdict is final exactly where the run ends in a value or its transport fails, or QEMU is gone; otherwise only where no
    new connection can be had, and after a refusal for the very same error. -/
theorem verdict_final_iff (dial : Except SandboxError String) (qemu_alive : Bool) (op : QmpProgram T) (s : Session json) :
    VerdictFinal dial qemu_alive op s ↔ (qemu_alive = true →
      (∀ error, op.ending s = .Refused error → (connect dial (op.run s).2).1 = .error error) ∧
      ∀ error, op.ending s = .Unfinished error → ∃ other, (connect dial (op.run s).2).1 = .error other) := by
  have first {result : Except SandboxError T} (ended : (op.ending s).result = result) : op.run s = (result, (op.run s).2) :=
    Prod.ext ((ending_result op s).trans ended) rfl
  constructor
  · rintro ⟨-, after_transport, refusal⟩ rfl
    -- where it did not end in a failure of the transport, there is no second run
    have alone (error : SandboxError) (failed : (op.ending s).result = .error error)
        (verdict : ∀ e, op.ending s ≠ .Transport e) :
        ∃ other, (connect dial (op.run s).2).1 = .error other ∧
          (run_qmp_with_one_reconnect dial true op s).1 = .error other := by
      rcases @reconnected json T dial op s error (op.run s).2 (first failed) with
        ⟨other, unconnected, -, returned⟩ | ⟨-, again, reran⟩
      · exact ⟨other, unconnected, returned⟩
      · obtain ⟨-, e, transport⟩ := after_transport again reran
        exact absurd transport (verdict e)
    constructor
    · intro error refused
      obtain ⟨other, unconnected, returned⟩ := alone error (by rw [refused]; rfl) (by rw [refused]; nofun)
      rw [refusal error refused] at returned
      rw [unconnected, Except.error.inj returned]
    · intro error unfinished
      obtain ⟨other, unconnected, -⟩ := alone error (by rw [unfinished]; rfl) (by rw [unfinished]; nofun)
      exact ⟨other, unconnected⟩
  · intro settled
    cases ended : op.ending s with
    | Answered value =>
      refine final_of_alone (rerun_ok (first (by rw [ended]; rfl))) fun error refused => ?_
      rw [ended] at refused
      cases refused
    | Transport error =>
      refine ⟨fun again reran => rerun_last reran, fun again reran => ⟨?_, error, ended⟩, fun e refused => ?_⟩
      · rw [rerun_error (first (by rw [ended]; rfl))] at reran
        by_contra gone
        rw [if_neg gone] at reran
        cases reran
      · rw [ended] at refused
        cases refused
    | Refused error =>
      have failed : op.run s = (.error error, (op.run s).2) := first (by rw [ended]; rfl)
      by_cases alive : qemu_alive = true
      · subst alive
        have same := (settled rfl).1 error ended
        rcases @reconnected json T dial op s error (op.run s).2 failed with
          ⟨other, unconnected, never, returned⟩ | ⟨⟨client, connected⟩, -⟩
        · rw [same] at unconnected
          refine final_of_alone never fun e refused => ?_
          rw [ended] at refused
          rw [returned, ← Except.error.inj unconnected, Ending.Refused.inj refused]
        · rw [same] at connected
          cases connected
      · refine final_of_alone (by rw [rerun_error failed, if_neg alive]) fun e refused => ?_
        rw [ended] at refused
        rw [run_qmp_error failed, if_neg alive, Ending.Refused.inj refused]
    | Unfinished error =>
      have failed : op.run s = (.error error, (op.run s).2) := first (by rw [ended]; rfl)
      refine final_of_alone ?_ fun e refused => ?_
      · by_cases alive : qemu_alive = true
        · subst alive
          obtain ⟨other, unconnected⟩ := (settled rfl).2 error ended
          rcases @reconnected json T dial op s error (op.run s).2 failed with ⟨-, -, never, -⟩ | ⟨⟨client, connected⟩, -⟩
          · exact never
          · rw [unconnected] at connected
            cases connected
        · rw [rerun_error failed, if_neg alive]
      · rw [ended] at refused
        cases refused

end

/-! ### A refusal -/

def refused_command : String := "\x7b\"error\":\x7b\"class\":\"GenericError\"\x7d\x7d"

/-- QEMU refuses the first command that is sent to it, and takes every later one. -/
def refusing : Session compact where
  client := ⟨[], []⟩
  exchanges := []
  sends := []
  readings := [⟨[.Reply refused_command], .Whole⟩] ++ shake_hands ++ [⟨[.Reply nothing_returned], .Whole⟩]

/-- A pause that QEMU refuses is sent again, and the refusal is lost. -/
theorem refused_stop_sent_again :
    stop.ending refusing = .Refused (.Qmp "\x7b\"class\":\"GenericError\"\x7d") ∧
    (run_qmp_with_one_reconnect (.ok greeting) true stop refusing).1 = .ok () ∧
    ¬ VerdictFinal (.ok greeting) true stop refusing := by
  have refused : stop.ending refusing = .Refused (.Qmp "\x7b\"class\":\"GenericError\"\x7d") := by decide +kernel
  have returned : (run_qmp_with_one_reconnect (.ok greeting) true stop refusing).1 = .ok () := by decide +kernel
  refine ⟨refused, returned, fun final => ?_⟩
  have kept := final.refusal _ refused
  rw [returned] at kept
  cases kept

end Riscdom.Sandbox
