import Riscdom.DeliverySteps
import Riscdom.RunAgreement
import Riscdom.SnapshotNames

/-!
How the two operations that open a run close it: an agent's turn, and the restore
of a snapshot. Whatever can leave either of them early does so before the start of
the run is on the chain or after its end is.
-/
namespace Riscdom.HostRuns
open Riscdom.Json Riscdom.Audit Fallible.Act
open Riscdom.Agent (AgentError AgentOutcome)
open Riscdom.Sessions (HostError)
open Riscdom.Instances (HostError.user_message validate_snapshot_name)

/-! ### The markers of a run, and what is told beside them -/

def Opens (run_id : String) (event : AuditEvent) : Prop :=
  event.action = ACTION_RUN_START ∧ ∃ payload, parse_run_start event.detail = .ok payload ∧ payload.run_id = run_id

def Closes (run_id : String) (event : AuditEvent) : Prop :=
  event.action = ACTION_RUN_END ∧ ∃ payload, parse_run_end event.detail = .ok payload ∧ payload.run_id = run_id

/-- Neither the start nor the end of the run. -/
def Aside (run_id : String) (event : AuditEvent) : Prop := ¬ Opens run_id event ∧ ¬ Closes run_id event

/-- A step of an operation: what is told on the chain by the time it is over, by the step itself and by whoever else is at
    work on the host, and what it answers. Only the two operations write the markers of a run, each under the id it minted. -/
structure Step (run_id : String) (α : Type) where
  told : List AuditEvent
  beside : ∀ event ∈ told, Aside run_id event
  answer : α

abbrev HostAct (α : Type) : Type := Fallible.Act World HostError α

section Operations
variable (crates : Crates) (store : AuditStore) (host : Host)

/-- A part that is written for the store alone. -/
def audited {α : Type} (x : Audit.Act α) : HostAct α := fun w => ((x w).1.mapError fun e => .Other e.display, (x w).2)

def tell : List AuditEvent → HostAct Unit
  | [] => return ()
  | event :: rest => do
    let _ ← audited (attempt (store.append crates event))
    tell rest

namespace Step
variable {run_id : String} {α : Type}

/-- A step that cannot fail, or whose failure the operation looks at. -/
def see (step : Step run_id α) : HostAct α := do
  tell crates store step.told
  return step.answer

/-- A step whose failure leaves the operation. -/
def perform (step : Step run_id (Except HostError α)) : HostAct α := do ofExcept (← step.see crates store)

/-- A check that leaves the operation where it has something to say. -/
def refuse (step : Step run_id (Option String)) (error : String → HostError) : HostAct Unit := do
  match ← step.see crates store with
  | some diagnostics => fail (error diagnostics)
  | none => return ()

end Step

/-- Close the run that was opened, if one was. -/
def close_run (run : Option String) (verdict : RunStatus × String) : HostAct Unit :=
  match run with
  | some run_id => audited (host.finish_run crates store run_id verdict.1 verdict.2)
  | none => return ()

/-! ### A turn of the agent -/

/-- The steps of a turn around the two markers, by their names, and the document of the node's configuration. -/
structure TurnSteps (run_id : String) where
  task_instance : Step run_id (Except HostError String)
  resolve_task_sandbox : Step run_id (Except HostError (Option String))
  check_task_sandbox : Step run_id (Except HostError Unit)
  llm_readiness : Step run_id (Option String)
  sandbox_check : Step run_id (Except HostError Unit)
  probe_toolchain : Step run_id (Option String)
  probe_qemu : Step run_id (Option String)
  ensure_preflight : Step run_id (Except HostError Unit)
  build_llm : Step run_id (Except HostError Unit)
  with_vm : Step run_id (Except HostError Unit)
  ensure_session : Step run_id (Except HostError String)
  load_session_history : Step run_id (Except HostError Unit)
  run_fingerprint : Value
  run : Step run_id (Except AgentError AgentOutcome)
  persist_turn : Step run_id (Except HostError Unit)

namespace TurnSteps
variable {run_id : String} (steps : TurnSteps run_id) (sandbox : Option String)

/-- A name that was asked for is held against the machine that runs. -/
def check_sandbox : HostAct Unit :=
  match sandbox with
  | some _ => steps.check_task_sandbox.perform crates store
  | none => return ()

/-- The questions of the definition, or without one those of the node. -/
def check_environment (resolved : Option String) : HostAct Unit :=
  match resolved with
  | some _ => steps.sandbox_check.perform crates store
  | none => do
    steps.probe_toolchain.refuse crates store fun diagnostics => .Other ("toolchain_missing\n" ++ diagnostics)
    steps.probe_qemu.refuse crates store fun diagnostics => .Other ("qemu_missing\n" ++ diagnostics)

/-- All that comes before the run: the instance it is on, the sandbox it resolved to, and its session. -/
def prepare : HostAct (String × Option String × String) := do
  let instance_id ← steps.task_instance.perform crates store
  let resolved ← steps.resolve_task_sandbox.perform crates store
  steps.check_sandbox crates store sandbox
  steps.llm_readiness.refuse crates store .NotConfigured
  steps.check_environment crates store resolved
  let _ ← steps.ensure_preflight.see crates store
  steps.build_llm.perform crates store
  steps.with_vm.perform crates store
  let session_id ← steps.ensure_session.perform crates store
  steps.load_session_history.perform crates store
  return (instance_id, resolved, session_id)

/-- How a turn ended. Only a final answer is a success. -/
def verdict : Except AgentError AgentOutcome → RunStatus × String
  | .ok (.Final _ iterations) => (.Ok, "final answer after " ++ toString iterations ++ " iterations")
  | .ok (.MaxIterations _ iterations) =>
    (.Failed, "iteration cap reached (" ++ toString iterations ++ ") without a final answer")
  | .ok (.Failed reason iterations) =>
    (.Failed, "agent run failed after " ++ toString iterations ++ " iterations: " ++ reason)
  | .error error => (.Failed, "host error: " ++ error.display)

def run_agent_for : HostAct AgentOutcome := do
  let prepared ← steps.prepare crates store sandbox
  let run ← audited (host.begin_run crates store run_id (some prepared.2.2) none none prepared.2.1 (some prepared.1)
    steps.run_fingerprint)
  let outcome ← steps.run.see crates store
  close_run crates store host run (verdict outcome)
  let outcome ← ofExcept (outcome.mapError .Agent)
  steps.persist_turn.perform crates store
  return outcome

end TurnSteps

/-! ### The restore of a snapshot -/

def SNAPSHOT_MODE : String := "tcp-relay"

/-- Where the snapshot is, the run that took it, the document of the node's configuration, and the steps of a restore. -/
structure RestoreSteps (run_id : String) where
  find_snapshot : Option String
  parent : Option String
  run_fingerprint : Value
  lease_local_ports : Step run_id (Except HostError Unit)
  resume_kernel : Step run_id (Except HostError String)
  stop_current_vm : Step run_id (Except HostError Unit)
  resume_vm : Step run_id (Except HostError Unit)
  vm_slot : Step run_id (Except HostError Unit)

namespace RestoreSteps
variable {run_id : String} (steps : RestoreSteps run_id) (name : String)

def restore : HostAct Unit := do
  steps.lease_local_ports.perform crates store
  let _ ← steps.resume_kernel.perform crates store
  steps.stop_current_vm.perform crates store
  steps.resume_vm.perform crates store
  steps.vm_slot.perform crates store

def verdict : Except HostError Unit → RunStatus × String
  | .ok () => (.Ok, "snapshot restored")
  | .error error => (.Failed, "snapshot restore failed: " ++ HostError.user_message error)

/-- A restore of a snapshot that was found. -/
def resume_found : HostAct Unit := do
  let run ← audited (host.begin_run crates store run_id none steps.parent (some name) none none steps.run_fingerprint)
  let restored ← attempt (steps.restore crates store)
  close_run crates store host run (verdict restored)
  ofExcept restored
  let _ ← audited (host.append_host_event crates store "host.snapshot.resume"
    (json [("name", .string name), ("mode", .string SNAPSHOT_MODE)]))
  return ()

def resume_from_snapshot_real : HostAct Unit := do
  ofExcept (validate_snapshot_name name)
  match steps.find_snapshot with
  | none => fail (.Other ("snapshot not found: " ++ name))
  | some _ => steps.resume_found crates store host name

/-- The machine runs again from the snapshot, and is in its slot. -/
def Restored : Prop :=
  steps.lease_local_ports.answer = .ok () ∧ (∃ kernel, steps.resume_kernel.answer = .ok kernel) ∧
    steps.stop_current_vm.answer = .ok () ∧ steps.resume_vm.answer = .ok () ∧ steps.vm_slot.answer = .ok ()

end RestoreSteps

/-! ### The two operations together -/

inductive Operation (run_id : String)
  | run_agent_for (steps : TurnSteps run_id) (sandbox : Option String)
  | resume_from_snapshot_real (steps : RestoreSteps run_id) (name : String)

namespace Operation
variable {run_id : String}

def act : Operation run_id → HostAct Unit
  | .run_agent_for steps sandbox => do
    let _ ← steps.run_agent_for crates store host sandbox
    return ()
  | .resume_from_snapshot_real steps name => steps.resume_from_snapshot_real crates store host name

/-- What the status of the run is to tell: a final answer was given, the snapshot was restored. -/
def Succeeded : Operation run_id → Prop
  | .run_agent_for steps _ => ∃ content iterations, steps.run.answer = .ok (.Final content iterations)
  | .resume_from_snapshot_real steps _ => steps.Restored

end Operation

/-! ### What is told, while appends are granted -/

/-- The chain grew by exactly these events, and the appends to come are granted. -/
def Told (events : List AuditEvent) (v w : World) : Prop :=
  Unrefused w.appends ∧ (w.db store).audit_events = (v.db store).audit_events.append_all crates events

section Told
variable {crates store} {u v w : World} {first second : List AuditEvent}

theorem Told.trans (earlier : Told crates store first u v) (later : Told crates store second v w) :
    Told crates store (first ++ second) u w := by
  refine ⟨later.1, ?_⟩
  rw [later.2, earlier.2, append_all_append]

end Told

/-- The chain grew by events beside the markers of the run. -/
def Quietly (run_id : String) (v w : World) : Prop :=
  Unrefused v.appends → ∃ events, (∀ event ∈ events, Aside run_id event) ∧ Told crates store events v w

section Quietly
variable {crates store} {run_id : String}

theorem Quietly.refl (w : World) : Quietly crates store run_id w w :=
  fun granted => ⟨[], fun _ inside => absurd inside List.not_mem_nil, granted, rfl⟩

theorem Quietly.trans {u v w : World} (first : Quietly crates store run_id u v) (second : Quietly crates store run_id v w) :
    Quietly crates store run_id u w := by
  intro granted
  obtain ⟨earlier, aside, told⟩ := first granted
  obtain ⟨later, beside, added⟩ := second told.1
  exact ⟨earlier ++ later, List.forall_mem_append.mpr ⟨aside, beside⟩, told.trans added⟩

end Quietly

theorem append_told (event : AuditEvent) {w : World} (granted : Unrefused w.appends) :
    ∃ stored after, audited (attempt (store.append crates event)) w = (.ok stored, after) ∧
      Told crates store [event] w after := by
  have append := AuditStore.append_granted crates store granted.append_error event
  refine ⟨.ok ((w.db store).audit_events.append crates event).1, w.append_spent.appended crates store event, ?_,
    granted.append_spent, ?_⟩
  · rw [audited, attempt_run, append]
    rfl
  · rw [World.appended, World.db_put_self]
    rfl

theorem tell_told (events : List AuditEvent) {w : World} (granted : Unrefused w.appends) :
    ∃ after, tell crates store events w = (.ok (), after) ∧ Told crates store events w after := by
  induction events generalizing w with
  | nil => exact ⟨w, rfl, granted, rfl⟩
  | cons event rest ih =>
    obtain ⟨_, next, appended, told⟩ := append_told crates store event granted
    obtain ⟨after, rest_told, added⟩ := ih told.1
    refine ⟨after, ?_, told.trans added⟩
    rw [tell, bind_of_ok appended, rest_told]

theorem append_host_event_told (action : String) (detail : Value) {w : World} (granted : Unrefused w.appends) :
    ∃ stored after, host.append_host_event crates store action detail w = (.ok (some stored), after) ∧
      Told crates store [host.event w.clock action detail] w after := by
  refine ⟨_, _, host.append_host_event_granted crates store granted.append_error action detail, ?_, ?_⟩
  · exact granted.append_spent
  · rw [World.appended, World.db_put_self]
    rfl

/-- A statement on another table is not told. -/
theorem execute_told (change : AuditDb → AuditDb) (beside : ∀ db, (change db).audit_events = db.audit_events) {w : World}
    (granted : Unrefused w.appends) :
    ∃ result after, attempt (store.execute change) w = (.ok result, after) ∧ Told crates store [] w after := by
  rw [attempt_run]
  cases answer : w.updates.headD none with
  | none =>
    rw [AuditStore.execute_granted store answer]
    refine ⟨_, _, rfl, granted, ?_⟩
    rw [World.db_put_self, beside, append_all_nil]
  | some error =>
    rw [AuditStore.execute_refused store answer]
    exact ⟨_, _, rfl, granted, rfl⟩

/-- A run that is opened has its start on the chain. -/
theorem begin_run_opens (run_id : String)
    (session_id parent_run_id resumed_from_snapshot sandbox instanceName : Option String) (config : Value) {w : World}
    (granted : Unrefused w.appends) :
    ∃ event after, audited (host.begin_run crates store run_id session_id parent_run_id resumed_from_snapshot sandbox
        instanceName config) w = (.ok (some run_id), after) ∧
      Opens run_id event ∧ Told crates store [event] w after := by
  let detail := run_start_detail_with crates run_id session_id parent_run_id resumed_from_snapshot sandbox instanceName config
  obtain ⟨stored, next, appended, told⟩ := append_host_event_told crates store host ACTION_RUN_START detail granted
  have index (record : RunRecord) : ∃ result after, attempt (store.index_run_start record) next = (.ok result, after) ∧
      Told crates store [] next after :=
    execute_told crates store (fun db => { db with runs := db.runs.replace record }) (fun _ => rfl) told.1
  obtain ⟨result, after, indexed, same⟩ := index
    { run_id, session_id, parent_run_id, resumed_from_snapshot, fingerprint := fingerprint crates config,
      fingerprint_schema := FINGERPRINT_SCHEMA_V1, started_at_ms := stored.event.timestamp_ms, ended_at_ms := none,
      start_seq := stored.id, end_seq := none, status := .Open }
  refine ⟨host.event w.clock ACTION_RUN_START detail, after, ?_, ⟨rfl, _, parse_run_start_detail .., rfl⟩, told.trans same⟩
  rw [audited, Host.begin_run, bind_of_ok appended]
  simp only
  rw [bind_of_ok indexed]
  rfl

/-- A run that was opened and is closed has its end on the chain. -/
theorem close_run_closes (run_id : String) (verdict : RunStatus × String) {w : World} (granted : Unrefused w.appends) :
    ∃ event after, close_run crates store host (some run_id) verdict w = (.ok (), after) ∧
      event.action = ACTION_RUN_END ∧ event.detail = run_end_detail run_id verdict.1 verdict.2 ∧
      Told crates store [event] w after := by
  obtain ⟨stored, next, appended, told⟩ := append_host_event_told crates store host ACTION_RUN_END
    (run_end_detail run_id verdict.1 verdict.2) granted
  have index : ∃ result after, attempt (store.index_run_end run_id stored.id stored.event.timestamp_ms verdict.1) next =
      (.ok result, after) ∧ Told crates store [] next after := by
    have read : store.read next = (.ok (next.db store), next) := rfl
    rw [attempt_run, AuditStore.index_run_end, bind_of_ok read, bind_run]
    cases answer : next.updates.headD none with
    | none =>
      rw [AuditStore.execute_granted store answer]
      refine ⟨_, _, rfl, told.1, ?_⟩
      simp only [pure_run, World.db_put_self, append_all_nil]
    | some error =>
      rw [AuditStore.execute_refused store answer]
      exact ⟨_, _, rfl, told.1, rfl⟩
  obtain ⟨result, after, indexed, same⟩ := index
  refine ⟨host.event w.clock ACTION_RUN_END (run_end_detail run_id verdict.1 verdict.2), after, ?_, rfl, rfl, told.trans same⟩
  rw [close_run, audited, Host.finish_run, bind_of_ok appended]
  simp only
  rw [bind_of_ok indexed]
  rfl

/-! ### What the steps tell -/

section Steps
variable {run_id : String} {α : Type}

theorem see_told (step : Step run_id α) {w : World} (granted : Unrefused w.appends) :
    ∃ after, step.see crates store w = (.ok step.answer, after) ∧ Told crates store step.told w after := by
  obtain ⟨after, said, told⟩ := tell_told crates store step.told granted
  refine ⟨after, ?_, told⟩
  rw [Step.see, bind_of_ok said, pure_run]

theorem perform_told (step : Step run_id (Except HostError α)) {w : World} (granted : Unrefused w.appends) :
    ∃ after, step.perform crates store w = (step.answer, after) ∧ Told crates store step.told w after := by
  obtain ⟨after, seen, told⟩ := see_told crates store step granted
  refine ⟨after, ?_, told⟩
  rw [Step.perform, bind_of_ok seen, ofExcept_run]

theorem see_quiet (step : Step run_id α) : Does (Quietly crates store run_id) (step.see crates store) := by
  intro w granted
  obtain ⟨after, seen, told⟩ := see_told crates store step granted
  rw [seen]
  exact ⟨step.told, step.beside, told⟩

theorem perform_quiet (step : Step run_id (Except HostError α)) :
    Does (Quietly crates store run_id) (step.perform crates store) :=
  does_bind .trans (see_quiet crates store step) fun answer => does_ofExcept .refl answer

theorem refuse_quiet (step : Step run_id (Option String)) (error : String → HostError) :
    Does (Quietly crates store run_id) (step.refuse crates store error) := by
  refine does_bind .trans (see_quiet crates store step) fun answer => ?_
  cases answer with
  | some diagnostics => exact does_fail .refl _
  | none => exact does_pure .refl ()

theorem prepare_quiet (steps : TurnSteps run_id) (sandbox : Option String) :
    Does (Quietly crates store run_id) (steps.prepare crates store sandbox) := by
  have named : Does (Quietly crates store run_id) (steps.check_sandbox crates store sandbox) := by
    cases sandbox with
    | some name => exact perform_quiet crates store steps.check_task_sandbox
    | none => exact does_pure .refl ()
  have checked (resolved : Option String) :
      Does (Quietly crates store run_id) (steps.check_environment crates store resolved) := by
    cases resolved with
    | some name => exact perform_quiet crates store steps.sandbox_check
    | none =>
      exact does_bind .trans (refuse_quiet crates store steps.probe_toolchain _) fun _ =>
        refuse_quiet crates store steps.probe_qemu _
  refine does_bind .trans (perform_quiet crates store steps.task_instance) fun instance_id => ?_
  refine does_bind .trans (perform_quiet crates store steps.resolve_task_sandbox) fun resolved => ?_
  refine does_bind .trans named fun _ => ?_
  refine does_bind .trans (refuse_quiet crates store steps.llm_readiness _) fun _ => ?_
  refine does_bind .trans (checked resolved) fun _ => ?_
  refine does_bind .trans (see_quiet crates store steps.ensure_preflight) fun _ => ?_
  refine does_bind .trans (perform_quiet crates store steps.build_llm) fun _ => ?_
  refine does_bind .trans (perform_quiet crates store steps.with_vm) fun _ => ?_
  refine does_bind .trans (perform_quiet crates store steps.ensure_session) fun session_id => ?_
  refine does_bind .trans (perform_quiet crates store steps.load_session_history) fun _ => ?_
  exact does_pure .refl _

theorem restore_quiet (steps : RestoreSteps run_id) :
    Does (Quietly crates store run_id) (steps.restore crates store) := by
  refine does_bind .trans (perform_quiet crates store steps.lease_local_ports) fun _ => ?_
  refine does_bind .trans (perform_quiet crates store steps.resume_kernel) fun _ => ?_
  refine does_bind .trans (perform_quiet crates store steps.stop_current_vm) fun _ => ?_
  exact does_bind .trans (perform_quiet crates store steps.resume_vm) fun _ => perform_quiet crates store steps.vm_slot

/-- A step goes on where it answers with a value, and nowhere else. -/
theorem perform_bind_ok {β : Type} (step : Step run_id (Except HostError α)) (next : α → HostAct β) {w : World}
    (granted : Unrefused w.appends) :
    ∃ after, Unrefused after.appends ∧
      ∀ b, ((step.perform crates store >>= next) w).1 = .ok b ↔ ∃ a, step.answer = .ok a ∧ (next a after).1 = .ok b := by
  obtain ⟨after, performed, told⟩ := perform_told crates store step granted
  refine ⟨after, told.1, fun b => ?_⟩
  cases answer : step.answer with
  | ok a =>
    rw [answer] at performed
    rw [bind_of_ok performed]
    constructor
    · intro ended
      exact ⟨a, rfl, ended⟩
    · rintro ⟨_, given, ended⟩
      cases given
      exact ended
  | error error =>
    rw [answer] at performed
    rw [bind_of_error performed]
    constructor
    · intro ended
      cases ended
    · rintro ⟨_, given, _⟩
      cases given

theorem restore_ok_iff (steps : RestoreSteps run_id) {w : World} (granted : Unrefused w.appends) :
    (steps.restore crates store w).1 = .ok () ↔ steps.Restored := by
  rw [RestoreSteps.restore]
  obtain ⟨w, granted, leased⟩ := perform_bind_ok crates store steps.lease_local_ports (fun _ => do
    let _ ← steps.resume_kernel.perform crates store
    steps.stop_current_vm.perform crates store
    steps.resume_vm.perform crates store
    steps.vm_slot.perform crates store) granted
  obtain ⟨w, granted, found⟩ := perform_bind_ok crates store steps.resume_kernel (fun _ => do
    steps.stop_current_vm.perform crates store
    steps.resume_vm.perform crates store
    steps.vm_slot.perform crates store) granted
  obtain ⟨w, granted, stopped⟩ := perform_bind_ok crates store steps.stop_current_vm (fun _ => do
    steps.resume_vm.perform crates store
    steps.vm_slot.perform crates store) granted
  obtain ⟨w, granted, resumed⟩ := perform_bind_ok crates store steps.resume_vm (fun _ =>
    steps.vm_slot.perform crates store) granted
  obtain ⟨_, placed, _⟩ := perform_told crates store steps.vm_slot granted
  rw [leased]
  simp only [found, stopped, resumed, placed]
  constructor
  · rintro ⟨_, leased, kernel, found, _, stopped, _, resumed, placed⟩
    exact ⟨leased, ⟨kernel, found⟩, stopped, resumed, placed⟩
  · rintro ⟨leased, ⟨kernel, found⟩, stopped, resumed, placed⟩
    exact ⟨(), leased, kernel, found, (), stopped, (), resumed, placed⟩

end Steps

/-! ### Every run that was opened is closed -/

/-- One start and one end of the run among the events, in this order, the end telling whether the operation succeeded. -/
def Closed (run_id : String) (succeeded : Prop) (events : List AuditEvent) : Prop :=
  ∃ before started during ended later status reason, events = before ++ started :: (during ++ ended :: later) ∧
    Opens run_id started ∧ ended.action = ACTION_RUN_END ∧ ended.detail = run_end_detail run_id status reason ∧
      (status = .Ok ↔ succeeded) ∧ ∀ event ∈ before ++ during ++ later, Aside run_id event

/-- A part of an operation told nothing of the run, or its start and its end. -/
def Tells (run_id : String) (succeeded : Prop) (v w : World) : Prop :=
  ∃ events, Told crates store events v w ∧ ((∃ event ∈ events, Opens run_id event) → Closed run_id succeeded events)

section Closing
variable {crates store} {run_id : String} {succeeded : Prop}

theorem tells_of_quiet {v w : World} (quiet : Quietly crates store run_id v w) (granted : Unrefused v.appends) :
    Tells crates store run_id succeeded v w := by
  obtain ⟨events, aside, told⟩ := quiet granted
  refine ⟨events, told, ?_⟩
  rintro ⟨event, inside, opens⟩
  exact absurd opens (aside event inside).1

/-- A quiet start of an operation goes on to a quiet end, or to a part that tells of the run. -/
theorem tells_bind {α β : Type} {x : HostAct α} {f : α → HostAct β} {v : World} (quiet : Does (Quietly crates store run_id) x)
    (granted : Unrefused v.appends)
    (next : ∀ a w, Unrefused w.appends → Tells crates store run_id succeeded w (f a w).2) :
    Tells crates store run_id succeeded v ((x >>= f) v).2 := by
  have first := quiet v
  rw [bind_run]
  cases outcome : x v with
  | mk result w =>
    rw [outcome] at first
    cases result with
    | error error => exact tells_of_quiet first granted
    | ok a =>
      obtain ⟨before, aside, told⟩ := first granted
      obtain ⟨events, added, closed⟩ := next a w told.1
      refine ⟨before ++ events, told.trans added, ?_⟩
      rintro ⟨event, inside, opens⟩
      rcases List.mem_append.mp inside with early | late
      · exact absurd opens (aside event early).1
      · obtain ⟨between, started, during, ended, later, status, reason, shape, rest⟩ := closed ⟨event, late, opens⟩
        refine ⟨before ++ between, started, during, ended, later, status, reason, ?_, rest.1, rest.2.1, rest.2.2.1,
          rest.2.2.2.1, ?_⟩
        · rw [shape, List.append_assoc]
        · intro event inside
          rw [List.append_assoc, List.append_assoc] at inside
          rcases List.mem_append.mp inside with early | late
          · exact aside event early
          · exact rest.2.2.2.2 event (by rwa [List.append_assoc])

/-- The start, what the run does, the end, and what comes after it. -/
theorem tells_of_closed {u v w x y : World} {started ended : AuditEvent} {status : RunStatus} {reason : String}
    (opens : Opens run_id started) (opened : Told crates store [started] u v) (run : Quietly crates store run_id v w)
    (action : ended.action = ACTION_RUN_END) (detail : ended.detail = run_end_detail run_id status reason)
    (closed : Told crates store [ended] w x) (rest : Quietly crates store run_id x y) (honest : status = .Ok ↔ succeeded) :
    Tells crates store run_id succeeded u y := by
  obtain ⟨during, aside, done⟩ := run opened.1
  obtain ⟨later, beside, added⟩ := rest closed.1
  refine ⟨started :: (during ++ ended :: later), ?_, fun _ => ?_⟩
  · exact opened.trans (done.trans (closed.trans added))
  · exact ⟨[], started, during, ended, later, status, reason, rfl, opens, action, detail, honest,
      List.forall_mem_append.mpr ⟨aside, beside⟩⟩

end Closing

theorem turn_verdict_ok_iff (outcome : Except AgentError AgentOutcome) :
    (TurnSteps.verdict outcome).1 = .Ok ↔ ∃ content iterations, outcome = .ok (.Final content iterations) := by
  cases outcome with
  | error error => simp [TurnSteps.verdict]
  | ok ended => cases ended <;> simp [TurnSteps.verdict]

theorem restore_verdict_ok_iff (restored : Except HostError Unit) :
    (RestoreSteps.verdict restored).1 = .Ok ↔ restored = .ok () := by
  cases restored <;> simp [RestoreSteps.verdict]

theorem run_agent_for_tells {run_id : String} (steps : TurnSteps run_id) (sandbox : Option String) {w : World}
    (granted : Unrefused w.appends) :
    Tells crates store run_id (∃ content iterations, steps.run.answer = .ok (.Final content iterations)) w
      (steps.run_agent_for crates store host sandbox w).2 := by
  rw [TurnSteps.run_agent_for]
  refine tells_bind (prepare_quiet crates store steps sandbox) granted fun prepared v granted => ?_
  obtain ⟨started, u, begun, opens, opened⟩ := begin_run_opens crates store host run_id (some prepared.2.2) none none
    prepared.2.1 (some prepared.1) steps.run_fingerprint granted
  rw [bind_of_ok begun]
  obtain ⟨t, ran, done⟩ := see_told crates store steps.run opened.1
  rw [bind_of_ok ran]
  obtain ⟨ended, s, closing, action, detail, closed⟩ := close_run_closes crates store host run_id
    (TurnSteps.verdict steps.run.answer) done.1
  rw [bind_of_ok closing]
  have rest : Does (Quietly crates store run_id) (do
      let outcome ← ofExcept (steps.run.answer.mapError HostError.Agent)
      steps.persist_turn.perform crates store
      return outcome) :=
    does_bind .trans (does_ofExcept .refl _) fun outcome =>
      does_bind .trans (perform_quiet crates store steps.persist_turn) fun _ => does_pure .refl outcome
  exact tells_of_closed opens opened (fun _ => ⟨steps.run.told, steps.run.beside, done⟩) action detail closed (rest s)
    (turn_verdict_ok_iff steps.run.answer)

/-- What the host tells of a snapshot is beside the markers. -/
theorem resume_told (run_id name : String) : Does (Quietly crates store run_id)
    (audited (host.append_host_event crates store "host.snapshot.resume"
      (json [("name", .string name), ("mode", .string SNAPSHOT_MODE)]))) := by
  intro w granted
  obtain ⟨stored, after, appended, told⟩ := append_host_event_told crates store host "host.snapshot.resume"
    (json [("name", .string name), ("mode", .string SNAPSHOT_MODE)]) granted
  refine ⟨_, ?_, by rw [audited, appended]; exact told⟩
  intro event inside
  obtain rfl := List.mem_singleton.mp inside
  constructor
  · rintro ⟨action, _⟩
    exact absurd (show "host.snapshot.resume" = ACTION_RUN_START from action) (by decide)
  · rintro ⟨action, _⟩
    exact absurd (show "host.snapshot.resume" = ACTION_RUN_END from action) (by decide)

theorem resume_found_tells {run_id : String} (steps : RestoreSteps run_id) (name : String) {w : World}
    (granted : Unrefused w.appends) :
    Tells crates store run_id steps.Restored w (steps.resume_found crates store host name w).2 := by
  rw [RestoreSteps.resume_found]
  obtain ⟨started, u, begun, opens, opened⟩ := begin_run_opens crates store host run_id none steps.parent (some name) none none
    steps.run_fingerprint granted
  rw [bind_of_ok begun]
  have quiet := restore_quiet crates store steps u
  have honest := restore_ok_iff crates store steps opened.1
  cases outcome : steps.restore crates store u with
  | mk restored t =>
    rw [outcome] at quiet honest
    have ran : attempt (steps.restore crates store) u = (.ok restored, t) := by rw [attempt_run, outcome]
    rw [bind_of_ok ran]
    obtain ⟨during, aside, done⟩ := quiet opened.1
    obtain ⟨ended, s, closing, action, detail, closed⟩ := close_run_closes crates store host run_id
      (RestoreSteps.verdict restored) done.1
    rw [bind_of_ok closing]
    have rest : Does (Quietly crates store run_id) (do
        ofExcept restored
        let _ ← audited (host.append_host_event crates store "host.snapshot.resume"
          (json [("name", .string name), ("mode", .string SNAPSHOT_MODE)]))
        return ()) :=
      does_bind .trans (does_ofExcept .refl _) fun _ =>
        does_bind .trans (resume_told crates store host run_id name) fun _ => does_pure .refl ()
    exact tells_of_closed opens opened quiet action detail closed (rest s) ((restore_verdict_ok_iff restored).trans honest)

theorem resume_from_snapshot_real_tells {run_id : String} (steps : RestoreSteps run_id) (name : String) {w : World}
    (granted : Unrefused w.appends) :
    Tells crates store run_id steps.Restored w (steps.resume_from_snapshot_real crates store host name w).2 := by
  rw [RestoreSteps.resume_from_snapshot_real]
  refine tells_bind (does_ofExcept .refl _) granted fun _ v granted => ?_
  cases steps.find_snapshot with
  | none => exact tells_of_quiet (.refl v) granted
  | some path => exact resume_found_tells crates store host steps name granted

/-- While appends are granted, an operation that put the start of its run on the chain put exactly one end of it there before
    it returned, whatever failed, and the end says `ok` exactly where there was a final answer, or the snapshot was restored. -/
theorem opened_run_closed (run_id : String) (operation : Operation run_id) (w : World) (granted : Unrefused w.appends) :
    ∃ events, ((operation.act crates store host w).2.db store).audit_events =
        (w.db store).audit_events.append_all crates events ∧
      ((∃ event ∈ events, Opens run_id event) → Closed run_id operation.Succeeded events) := by
  have told : Tells crates store run_id operation.Succeeded w (operation.act crates store host w).2 := by
    cases operation with
    | run_agent_for steps sandbox =>
      have same : ((Operation.run_agent_for steps sandbox).act crates store host w).2 =
          (steps.run_agent_for crates store host sandbox w).2 := by
        rw [Operation.act, bind_run]
        cases steps.run_agent_for crates store host sandbox w with
        | mk result after => cases result <;> rfl
      rw [same]
      exact run_agent_for_tells crates store host steps sandbox granted
    | resume_from_snapshot_real steps name => exact resume_from_snapshot_real_tells crates store host steps name granted
  obtain ⟨events, told, closed⟩ := told
  exact ⟨events, told.2, closed⟩

end Operations

/-- A restore for which no two ports are free. -/
def portless_restore : Operation "run_1" :=
  .resume_from_snapshot_real
    { find_snapshot := some "snapshots/s1.mig", parent := none, run_fingerprint := .null,
      lease_local_ports := ⟨[], by simp, .error (.Other "no free local port")⟩,
      resume_kernel := ⟨[], by simp, .ok "app.elf"⟩, stop_current_vm := ⟨[], by simp, .ok ()⟩,
      resume_vm := ⟨[], by simp, .ok ()⟩, vm_slot := ⟨[], by simp, .ok ()⟩ } "s1"

theorem portless_restore_closed : ∃ events,
    (((portless_restore.act provisional_crates ⟨["data", "audit.db"]⟩ ⟨"dev-a", 0⟩ ⟨fun _ => none, [], [], [], []⟩).2.db
        ⟨["data", "audit.db"]⟩).audit_events = EventTable.empty.append_all provisional_crates events) ∧
      ((∃ event ∈ events, Opens "run_1" event) → Closed "run_1" portless_restore.Succeeded events) :=
  opened_run_closed provisional_crates ⟨["data", "audit.db"]⟩ ⟨"dev-a", 0⟩ "run_1" portless_restore
    ⟨fun _ => none, [], [], [], []⟩ unrefused_nil

/-- Two rows are told by a restore without ports: the start of its run and the end. -/
example : ((portless_restore.act provisional_crates ⟨["data", "audit.db"]⟩ ⟨"dev-a", 0⟩ ⟨fun _ => none, [], [], [], []⟩).2.rows
    ⟨["data", "audit.db"]⟩).map RawRow.action = ["run.start", "run.end"] := by decide

end Riscdom.HostRuns
