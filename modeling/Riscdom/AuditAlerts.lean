import Mathlib.Data.List.Nodup
import Riscdom.Json
import Riscdom.Machine

/-!
The queue of audit writes that failed: the newest are kept, a cursor into the
queue says which are announced, and the audit panel takes them all at once. The
front of a full queue goes while the cursor stays, so a failure can be passed
by: an emit announces what came since the last exactly where the announced ones
still stand at the front.
-/
namespace Riscdom.Host
open Machine Json
universe u v

def AUDIT_FAILURE_QUEUE_CAP : Nat := 32
def EV_AUDIT_FAILED : String := "audit:failed"
def audit_failed_payload (message : String) : Value := json [("message", .string message)]

/-- The failures queued, and the announced cursor. -/
structure AuditFailures (α : Type u) where
  audit_failures : List α
  audit_failures_emitted : Nat
deriving DecidableEq

namespace AuditFailures
variable {α : Type u} {β : Type v}

def new : AuditFailures α := ⟨[], 0⟩

def push_audit_failure (host : AuditFailures α) (message : α) : AuditFailures α :=
  let failures := host.audit_failures ++ [message]
  if failures.length > AUDIT_FAILURE_QUEUE_CAP then
    let excess := failures.length - AUDIT_FAILURE_QUEUE_CAP
    { host with audit_failures := failures.drop excess }
  else { host with audit_failures := failures }

/-- The failures announced, in order. -/
def emit_audit_failures (host : AuditFailures α) : List α × AuditFailures α :=
  (host.audit_failures.drop host.audit_failures_emitted,
    { host with audit_failures_emitted := host.audit_failures.length })

def take_audit_failures (host : AuditFailures α) : List α × AuditFailures α := (host.audit_failures, ⟨[], 0⟩)

/-- The same queue with every failure read in another way. -/
def map (read : α → β) (host : AuditFailures α) : AuditFailures β :=
  ⟨host.audit_failures.map read, host.audit_failures_emitted⟩

variable (read : α → β) (host : AuditFailures α)

theorem map_push (message : α) : (host.push_audit_failure message).map read = (host.map read).push_audit_failure (read message) := by
  by_cases full : host.audit_failures.length + 1 > AUDIT_FAILURE_QUEUE_CAP
  · simp [push_audit_failure, map, full]
  · simp [push_audit_failure, map, full]

/-- A push keeps the newest, and leaves the cursor. -/
theorem length_push (message : α) : (host.push_audit_failure message).audit_failures.length =
    min AUDIT_FAILURE_QUEUE_CAP (host.audit_failures.length + 1) := by
  by_cases full : host.audit_failures.length + 1 > AUDIT_FAILURE_QUEUE_CAP
  · simp [push_audit_failure, full]
    omega
  · simp [push_audit_failure, full]
    omega

@[simp] theorem push_emitted (message : α) :
    (host.push_audit_failure message).audit_failures_emitted = host.audit_failures_emitted := by
  unfold push_audit_failure
  dsimp only
  split <;> rfl

theorem push_queue (message : α) : (host.push_audit_failure message).audit_failures =
    (host.audit_failures ++ [message]).drop (host.audit_failures.length + 1 - AUDIT_FAILURE_QUEUE_CAP) := by
  by_cases full : host.audit_failures.length + 1 > AUDIT_FAILURE_QUEUE_CAP
  · simp [push_audit_failure, full]
  · simp [push_audit_failure, full, Nat.sub_eq_zero_of_le (Nat.le_of_not_lt full)]

end AuditFailures
open AuditFailures

/-- What is done to the queue, one after another: the sink's reporter pushes, the host's tick emits, the panel takes. -/
inductive FailureAct
  | push (message : String)
  | emit
  | take
deriving DecidableEq

/-- What the acts do to the host, and the events they send. An emit is one step: what it takes is sent before the next act. -/
def failure_step (host : AuditFailures String × List (String × Value)) : FailureAct → AuditFailures String × List (String × Value)
  | .push message => (host.1.push_audit_failure message, host.2)
  | .emit =>
    let (announced, next) := host.1.emit_audit_failures
    (next, host.2 ++ announced.map fun message => (EV_AUDIT_FAILED, audit_failed_payload message))
  | .take => (host.1.take_audit_failures.2, host.2)

/-! ### Every failure is one of its own -/

/-- A failure that was pushed: how many were pushed before it, and its message. -/
structure Failure where
  number : Nat
  message : String
deriving DecidableEq

/-- The queue with its failures told apart, how many were ever pushed, how many of them before the last emit, and
    those announced so far. -/
structure Journal where
  host : AuditFailures Failure
  pushed : Nat
  mark : Nat
  announced : List Failure
deriving DecidableEq

namespace Journal

def start : Journal := ⟨.new, 0, 0, []⟩

def step (s : Journal) : FailureAct → Journal
  | .push message => { s with host := s.host.push_audit_failure ⟨s.pushed, message⟩, pushed := s.pushed + 1 }
  | .emit =>
    let (announced, host) := s.host.emit_audit_failures
    { s with host, mark := s.pushed, announced := s.announced ++ announced }
  | .take => { s with host := s.host.take_audit_failures.2 }

/-- The journal of a host that begins with an empty queue. -/
def of (acts : List FailureAct) : Journal := run step start acts

/-- What the host itself holds and has sent. -/
def seen (s : Journal) : AuditFailures String × List (String × Value) :=
  (s.host.map Failure.message, s.announced.map fun failure => (EV_AUDIT_FAILED, audit_failed_payload failure.message))

theorem seen_step (s : Journal) (act : FailureAct) : (s.step act).seen = failure_step s.seen act := by
  cases act with
  | push message => simp [step, seen, failure_step, map_push]
  | emit => simp [step, seen, failure_step, emit_audit_failures, map, List.map_drop, Function.comp_def]
  | take => rfl

/-- The journal tells the failures of the host's own run apart, and does nothing else. -/
theorem seen_of (acts : List FailureAct) : (of acts).seen = run failure_step (.new, []) acts := by
  have along (s : Journal) : (run step s acts).seen = run failure_step s.seen acts := by
    induction acts generalizing s with
    | nil => rfl
    | cons act acts ih => rw [run_cons, run_cons, ih, seen_step]
  exact along start

/-! ### Where the failures stand -/

/-- The number of the failure at the front of the queue, or of the next. -/
def front (s : Journal) : Nat := s.pushed - s.host.audit_failures.length

/-- The queue holds the last that were pushed, the cursor stays in it and past all that was announced; it is full
    as far as it was announced and pushed to. -/
structure Placed (s : Journal) : Prop where
  numbers : s.host.audit_failures.map Failure.number = List.range' s.front s.host.audit_failures.length
  held : s.host.audit_failures.length ≤ s.pushed
  fits : s.host.audit_failures.length ≤ AUDIT_FAILURE_QUEUE_CAP
  cursor : s.host.audit_failures_emitted ≤ s.host.audit_failures.length
  marked : s.mark ≤ s.pushed
  passed : s.mark ≤ s.front + s.host.audit_failures_emitted
  grown : 0 < s.host.audit_failures_emitted → s.host.audit_failures.length =
    min AUDIT_FAILURE_QUEUE_CAP (s.host.audit_failures_emitted + (s.pushed - s.mark))

theorem placed_start : start.Placed := by
  constructor <;> simp [start, AuditFailures.new, front]

variable {s : Journal}

/-- Dropping from the front of the queue moves its front. -/
theorem Placed.push (placed : s.Placed) (message : String) : (s.step (.push message)).Placed := by
  obtain ⟨numbers, held, fits, cursor, marked, passed, grown⟩ := placed
  have length : (s.host.push_audit_failure (Failure.mk s.pushed message)).audit_failures.length =
      min AUDIT_FAILURE_QUEUE_CAP (s.host.audit_failures.length + 1) := length_push s.host _
  have room : 0 < AUDIT_FAILURE_QUEUE_CAP := by decide
  have last : s.front + s.host.audit_failures.length = s.pushed := Nat.sub_add_cancel held
  constructor
  · have all : (s.host.audit_failures ++ [Failure.mk s.pushed message]).map Failure.number =
        List.range' s.front (s.host.audit_failures.length + 1) := by
      rw [List.map_append, numbers, List.range'_concat, one_mul, last]
      rfl
    have queue : (s.step (.push message)).host.audit_failures = (s.host.audit_failures ++ [Failure.mk s.pushed message]).drop
        (s.host.audit_failures.length + 1 - AUDIT_FAILURE_QUEUE_CAP) := push_queue s.host _
    rw [queue, List.map_drop, all, List.drop_range', mul_one, List.length_drop, List.length_append, List.length_singleton]
    congr 1
    simp only [front, step, length]
    omega
  all_goals simp only [step, front, push_emitted, length]
  all_goals unfold front at *
  · omega
  · omega
  · omega
  · omega
  · omega
  · intro announced
    have before := grown announced
    omega

theorem Placed.emit (placed : s.Placed) : (s.step .emit).Placed := by
  obtain ⟨numbers, held, fits, cursor, marked, passed, grown⟩ := placed
  refine ⟨numbers, held, fits, le_refl _, le_refl _, ?_, fun _ => ?_⟩
  · exact Nat.le_of_eq (Nat.sub_add_cancel held).symm
  · simp only [step, emit_audit_failures, Nat.sub_self, Nat.add_zero]
    exact (min_eq_right fits).symm

theorem Placed.take (placed : s.Placed) : (s.step .take).Placed := by
  obtain ⟨numbers, held, fits, cursor, marked, passed, grown⟩ := placed
  refine ⟨rfl, Nat.zero_le _, Nat.zero_le _, le_refl _, marked, ?_, fun none => absurd none (Nat.lt_irrefl 0)⟩
  exact marked

theorem Placed.step (placed : s.Placed) (act : FailureAct) : (s.step act).Placed := by
  cases act with
  | push message => exact placed.push message
  | emit => exact placed.emit
  | take => exact placed.take

theorem of_placed (acts : List FailureAct) : (of acts).Placed := by
  have keeps (s : Journal) (act : FailureAct) (placed : s.Placed) : (s.step act).Placed := placed.step act
  exact run_invariant keeps placed_start acts

/-- The failures in the queue are numbered from its front. -/
theorem Placed.number_at (placed : s.Placed) {i : Nat} {failure : Failure} (there : s.host.audit_failures[i]? = some failure) :
    failure.number = s.front + i := by
  have inside : i < s.host.audit_failures.length := (List.getElem?_eq_some_iff.mp there).1
  have number : (s.host.audit_failures.map Failure.number)[i]? = some failure.number := by rw [List.getElem?_map, there, Option.map_some]
  rw [placed.numbers, List.getElem?_range' inside, one_mul] at number
  exact (Option.some.inj number).symm

/-- The emit announces the failures from the cursor on. -/
theorem Placed.announces_from (placed : s.Placed) {failure : Failure} (announced : failure ∈ s.host.emit_audit_failures.1) :
    s.front + s.host.audit_failures_emitted ≤ failure.number ∧ failure.number < s.pushed := by
  obtain ⟨i, there⟩ := List.mem_iff_getElem?.mp announced
  rw [emit_audit_failures, List.getElem?_drop] at there
  have inside : s.host.audit_failures_emitted + i < s.host.audit_failures.length := (List.getElem?_eq_some_iff.mp there).1
  have number := placed.number_at there
  have held := placed.held
  unfold front at *
  omega

/-! ### What an emit announces -/

/-- Nothing is announced, or the announced ones still stand at the front: the failures that came since the last emit
    pushed none of them out. -/
def InPlace (s : Journal) : Prop :=
  s.host.audit_failures_emitted = 0 ∨ s.host.audit_failures_emitted + (s.pushed - s.mark) ≤ AUDIT_FAILURE_QUEUE_CAP

instance (s : Journal) : Decidable s.InPlace := inferInstanceAs (Decidable (_ ∨ _))

/-- Every failure pushed since the last emit and still queued is announced now. -/
def Tells (s : Journal) : Prop :=
  ∀ failure ∈ s.host.audit_failures, s.mark ≤ failure.number → failure ∈ s.host.emit_audit_failures.1

theorem Placed.tells_iff (placed : s.Placed) : s.Tells ↔ s.InPlace := by
  obtain ⟨-, held, fits, cursor, marked, passed, grown⟩ := id placed
  constructor
  · intro tells
    by_contra moved
    obtain ⟨some, more⟩ := not_or.mp moved
    have full := grown (Nat.pos_of_ne_zero some)
    -- the first failure of the queue that came since the last emit stands before the cursor
    have early : s.mark - s.front < s.host.audit_failures_emitted := by
      unfold front
      omega
    obtain ⟨failure, there⟩ : ∃ failure, s.host.audit_failures[s.mark - s.front]? = Option.some failure :=
      ⟨_, List.getElem?_eq_getElem (early.trans_le cursor)⟩
    have number := placed.number_at there
    have told := tells failure (List.mem_of_getElem? there) (by omega)
    have late := (placed.announces_from told).1
    omega
  · intro still failure queued since
    obtain ⟨i, there⟩ := List.mem_iff_getElem?.mp queued
    have number := placed.number_at there
    have late : s.host.audit_failures_emitted ≤ i := by
      rcases still with none | room
      · omega
      · by_cases announced : 0 < s.host.audit_failures_emitted
        · have full := grown announced
          unfold front at *
          omega
        · omega
    refine List.mem_iff_getElem?.mpr ⟨i - s.host.audit_failures_emitted, ?_⟩
    rw [emit_audit_failures, List.getElem?_drop, Nat.add_sub_cancel' late, there]

/-- No failure announced twice, and all of them pushed before the last emit. -/
structure Once (s : Journal) : Prop where
  placed : s.Placed
  apart : s.announced.Nodup
  before : ∀ failure ∈ s.announced, failure.number < s.mark

theorem once_step (s : Journal) (act : FailureAct) (once : s.Once) : (s.step act).Once := by
  refine ⟨once.placed.step act, ?_, ?_⟩ <;> obtain ⟨placed, apart, before⟩ := once
  · cases act with
    | push message => exact apart
    | take => exact apart
    | emit =>
      have numbered : (s.host.audit_failures.map Failure.number).Nodup := by
        rw [placed.numbers]
        exact List.nodup_range'
      refine List.nodup_append.mpr ⟨apart, (List.Nodup.of_map _ numbered).drop, ?_⟩
      rintro failure told _ again rfl
      have early := before failure told
      have late := (placed.announces_from again).1
      have passed := placed.passed
      omega
  · cases act with
    | push message => exact before
    | take => exact before
    | emit =>
      intro failure told
      rcases List.mem_append.mp told with earlier | now
      · exact (before failure earlier).trans_le placed.marked
      · exact (placed.announces_from now).2

theorem of_once (acts : List FailureAct) : (of acts).Once := by
  have begun : start.Once := ⟨placed_start, List.nodup_nil, nofun⟩
  exact run_invariant once_step begun acts

end Journal
open Journal

/-! ### A whole run -/

/-- Every failure still queued at the next emit after its push is announced there, and none is announced twice. -/
def Announces (acts : List FailureAct) : Prop :=
  (∀ before after, acts = before ++ .emit :: after → (Journal.of before).Tells) ∧ (Journal.of acts).announced.Nodup

/-- The failures are announced as they should be exactly where every emit finds the announced ones in their places. -/
theorem announces_iff (acts : List FailureAct) :
    Announces acts ↔ Allowed Journal.step (fun s act => act = .emit → s.InPlace) Journal.start acts := by
  have each : (∀ before after, acts = before ++ .emit :: after → (Journal.of before).Tells) ↔
      Allowed Journal.step (fun s act => act = .emit → s.InPlace) Journal.start acts := by
    rw [allowed_iff]
    constructor
    · rintro tells before act after split rfl
      exact (of_placed before).tells_iff.mp (tells before after split)
    · intro places before after split
      exact (of_placed before).tells_iff.mpr (places before .emit after split rfl)
  rw [Announces, each]
  exact and_iff_left (of_once acts).apart

/-- A failure that came when the queue was full of others passes by unannounced: the cursor stands on its place. -/
theorem full_queue_hides_failure :
    ¬ Announces (.push "disk full" :: .emit :: List.replicate 32 (.push "locked") ++ [.emit]) := by
  rintro ⟨tells, -⟩
  let acts : List FailureAct := .push "disk full" :: .emit :: List.replicate 32 (.push "locked")
  have still : (Journal.of acts).InPlace := (of_placed acts).tells_iff.mp (tells acts [] rfl)
  exact absurd still (by decide +kernel)

end Riscdom.Host
