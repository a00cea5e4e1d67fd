import Riscdom.Instances

/-!
The switch of a node to another sandbox. Everything that can be checked is
checked before the running machine is stopped, one switch goes on at a time, and
every attempt to switch is told with one event. What fails after the stop leaves
the node stopped, and what a switch last put in charge on record.
-/
namespace Riscdom.Instances
open Json Agent Sandbox Provenance KeyedTable
open Riscdom.Sessions (HostError)

def HostError.user_message : HostError → String
  | .NotConfigured m => "not configured: " ++ m
  | .Agent error => "agent error: " ++ error.display
  | .Io m => "io error: " ++ m
  | .SandboxNotFound m => "sandbox_not_found: " ++ m
  | .SandboxQemuMissing m => "sandbox_qemu_missing: " ++ m
  | .SandboxToolchainMissing m => "sandbox_toolchain_missing: " ++ m
  | .SandboxKernelMissing m => "sandbox_kernel_missing: " ++ m
  | .SandboxStart m => "sandbox_start_failed: " ++ m
  | .SandboxConflict m => "sandbox_conflict: " ++ m
  | .InstanceNotFound m => "instance_not_found: " ++ m
  | .InstanceConflict m => "instance_conflict: " ++ m
  | .Other m => m

def EV_SANDBOX_SWITCH : String := "sandbox:switch"

def sandbox_switch_payload («from» : Option String) («to» : String) (ok : Bool) (reason : Option String) : Value :=
  json [("from", .ofOption «from»), ("to", .string «to»), ("ok", .bool ok), ("reason", .ofOption reason)]

/-- A machine adopted with the name of what it runs. -/
def SandboxInstance.adopt (vm : RiscVVirtualMachine) (now : Int) (name : String) (inst : SandboxInstance) : SandboxInstance :=
  { inst with vm_slot := some vm, vm_started_at_ms := some now, definition := name }

namespace AppState
variable (quoted : String → String) (answers : Answers) (s : AppState)

/-! ### The slot of the switch -/

def begin_sandbox_switch (target : String) : Except HostError Unit × AppState :=
  match s.switch_slot with
  | some _ => (.error (.Other "sandbox switch already in progress"), s)
  | none => (.ok (), { s with switch_slot := some target })

def finish_sandbox_switch : AppState := { s with switch_slot := none }

/-! ### The switch -/

/-- The instance that acts on the node mean: the current one where it is there, else the node's own. -/
def current_instance_id : String :=
  match s.current_instance with
  | some id => if (s.instances.table.find id).isSome then id else s.instances.own_instance
  | none => s.instances.own_instance

/-- The machine of the current instance stopped; nothing is running then that came from a definition. -/
def stop_current_vm : AppState :=
  { s with
    instances := s.instances.rewrite s.current_instance_id SandboxInstance.emptied SandboxInstance.emptied_id
    active_sandbox := none }

/-- A machine that started is adopted, then its name, and the act is recorded. -/
def adopt_vm (vm : RiscVVirtualMachine) (name : String) («from» caller : Option String) : AppState :=
  let s := { s with
    instances := s.instances.rewrite s.current_instance_id (SandboxInstance.adopt vm answers.now_ms name) fun _ => rfl
    node := { s.node with current_sandbox := some name }
    active_sandbox := some name }
  s.emit_m_action caller "m.sandbox.switch" (json [("name", .string name), ("from", .ofOption «from»)])

def snapshot_dir : List Component :=
  ((s.instances.table.find s.current_instance_id).map SandboxInstance.snapshot_dir).getD []

/-- What goes on while the slot is held: the checks, the stop, and the start of another machine. -/
def switch_in_slot (definition : SandboxDef) (name : String) («from» caller : Option String) : Except HostError Unit × AppState :=
  if s.current_run_id.isSome then
    (.error (.Other "a run is in flight; a sandbox switch would take its VM away"), s)
  else
    match s.runnable answers definition with
    | .error error => (.error error, s)
    | .ok kernel =>
      match s.stop_current_vm.start_vm answers (s.vm_config definition kernel s.snapshot_dir) with
      | (.error error, s) => (.error (.Other error.display), s)
      | (.ok (.ok vm), s) => (.ok (), s.adopt_vm answers vm name «from» caller)
      | (.ok (.error last_error), s) =>
        (.error (.SandboxStart ("switch to " ++ quoted name ++ " failed after " ++ toString Sandbox.START_ATTEMPTS ++
          " attempts: " ++ last_error)), s)

/-- A switch without the event that tells of it. -/
def try_switch (name : String) (caller : Option String) : Except HostError Unit × AppState :=
  match s.node.sandbox_def_by_name name with
  | none => (.error (.SandboxNotFound name), s)
  | some definition =>
    match s.begin_sandbox_switch name with
    | (.error error, s) => (.error error, s)
    | (.ok (), begun) =>
      let (switched, after) := begun.switch_in_slot quoted answers definition name s.node.current_sandbox caller
      (switched, after.finish_sandbox_switch)

def switch_sandbox (name : String) (caller : Option String) : Except HostError Unit × AppState :=
  let (outcome, after) := s.try_switch quoted answers name caller
  let reason := match outcome with
    | .error error => some (HostError.user_message error)
    | .ok () => none
  (outcome, after.emit EV_SANDBOX_SWITCH (sandbox_switch_payload s.node.current_sandbox name outcome.toBool reason))

/-! ### What a switch leaves -/

/-- A switch that is refused before anything is stopped. -/
def Refused (name : String) : Prop :=
  s.switch_slot ≠ none ∨ s.current_run_id ≠ none ∨
    ∀ definition, s.node.sandbox_def_by_name name = some definition → ∃ error, s.runnable answers definition = .error error

/-- The machine of the current instance is stopped and nothing else is changed; what was current stays so. -/
structure Stopped (s t : AppState) : Prop where
  slot : ∃ inst, t.instances.table.find s.current_instance_id = some inst ∧ inst.vm_slot = none ∧ inst.vm_started_at_ms = none
  active : t.active_sandbox = none
  others : ∀ other, other ≠ s.current_instance_id → t.instances.table.find other = s.instances.table.find other
  rest : t = { s with instances := t.instances, active_sandbox := none, sent := t.sent }

/-- The current instance runs a machine of the sandbox, under its name. -/
structure Switched (name : String) (s t : AppState) : Prop where
  slot : ∃ inst vm, t.instances.table.find s.current_instance_id = some inst ∧ inst.vm_slot = some vm ∧ inst.definition = name
  active : t.active_sandbox = some name
  current : t.node.current_sandbox = some name
  others : ∀ other, other ≠ s.current_instance_id → t.instances.table.find other = s.instances.table.find other
  held : t.held = s.held

variable {quoted answers s}

theorem current_there : ∃ inst, s.instances.table.find s.current_instance_id = some inst := by
  apply Option.isSome_iff_exists.mp
  rw [current_instance_id]
  cases s.current_instance with
  | none => exact s.instances.own_kept
  | some id =>
    by_cases there : (s.instances.table.find id).isSome
    · simp [there]
    · simpa [there] using s.instances.own_kept

theorem rewrite_find (id other : String) (change : SandboxInstance → SandboxInstance)
    (keeps : ∀ inst, (change inst).id = inst.id) :
    (s.instances.rewrite id change keeps).table.find other =
      if other = id then (s.instances.table.find other).map change else s.instances.table.find other :=
  Table.find_update s.instances.table id other change keeps

/-- What one switch does while it holds the slot: nothing, a stop, or a stop and an adoption. -/
theorem switch_in_slot_cases {definition : SandboxDef} {name : String} {«from» caller : Option String}
    {outcome : Except HostError Unit} {t : AppState}
    (switched : s.switch_in_slot quoted answers definition name «from» caller = (outcome, t)) :
    (s.current_run_id ≠ none ∨ ∃ error, s.runnable answers definition = .error error) ∧ outcome.toBool = false ∧ t = s ∨
      s.current_run_id = none ∧ (∃ kernel, s.runnable answers definition = .ok kernel) ∧
        (outcome.toBool = false ∧ t = s.stop_current_vm ∨
          outcome.toBool = true ∧ ∃ vm, vm.config.snapshot_dir = s.snapshot_dir ∧
            t = s.stop_current_vm.adopt_vm answers vm name «from» caller) := by
  rw [switch_in_slot] at switched
  cases run : s.current_run_id with
  | some id =>
    simp only [run, Option.isSome_some, if_true, Prod.mk.injEq] at switched
    obtain ⟨rfl, rfl⟩ := switched
    exact .inl ⟨.inl (by simp), rfl, rfl⟩
  | none =>
    simp only [run, Option.isSome_none, Bool.false_eq_true, if_false] at switched
    cases ready : s.runnable answers definition with
    | error error =>
      simp only [ready, Prod.mk.injEq] at switched
      obtain ⟨rfl, rfl⟩ := switched
      exact .inl ⟨.inr ⟨error, rfl⟩, rfl, rfl⟩
    | ok kernel =>
      refine .inr ⟨rfl, ⟨kernel, rfl⟩, ?_⟩
      simp only [ready] at switched
      cases starting : s.stop_current_vm.start_vm answers (s.vm_config definition kernel s.snapshot_dir) with
      | mk result after =>
        obtain ⟨rfl, -, leased⟩ := start_vm_spec starting
        match result with
        | .error error =>
          simp only [starting, Prod.mk.injEq] at switched
          obtain ⟨rfl, rfl⟩ := switched
          exact .inl ⟨rfl, rfl⟩
        | .ok (.error last_error) =>
          simp only [starting, Prod.mk.injEq] at switched
          obtain ⟨rfl, rfl⟩ := switched
          exact .inl ⟨rfl, rfl⟩
        | .ok (.ok vm) =>
          simp only [starting, Prod.mk.injEq] at switched
          obtain ⟨rfl, rfl⟩ := switched
          obtain ⟨qmp, serial, -, -, -, -, config⟩ := leased vm rfl
          exact .inr ⟨rfl, vm, by rw [config]; rfl, rfl⟩

theorem stop_find (other : String) :
    s.stop_current_vm.instances.table.find other =
      if other = s.current_instance_id then (s.instances.table.find other).map SandboxInstance.emptied
      else s.instances.table.find other :=
  rewrite_find s.current_instance_id other SandboxInstance.emptied SandboxInstance.emptied_id

theorem stopped_id : s.stop_current_vm.current_instance_id = s.current_instance_id := by
  have same (id : String) : (s.stop_current_vm.instances.table.find id).isSome = (s.instances.table.find id).isSome := by
    rw [stop_find]
    split_ifs <;> simp
  rw [current_instance_id, current_instance_id]
  simp only [same]
  rfl

theorem adopt_find (vm : RiscVVirtualMachine) (name : String) («from» caller : Option String) (other : String) :
    (s.stop_current_vm.adopt_vm answers vm name «from» caller).instances.table.find other =
      if other = s.current_instance_id then
        (s.instances.table.find other).map fun inst => (inst.emptied).adopt vm answers.now_ms name
      else s.instances.table.find other := by
  have adopted := rewrite_find (s := s.stop_current_vm) s.stop_current_vm.current_instance_id other
    (SandboxInstance.adopt vm answers.now_ms name) fun _ => rfl
  refine adopted.trans ?_
  rw [stopped_id, stop_find]
  split_ifs
  · rw [Option.map_map]
    rfl
  · rfl

/-- A node that is stopped, its switch over, whatever was sent. -/
theorem stopped (sent : List (String × Value)) :
    Stopped s { s.stop_current_vm with switch_slot := s.switch_slot, sent := sent } := by
  obtain ⟨inst, there⟩ := current_there (s := s)
  refine ⟨⟨inst.emptied, ?_, rfl, rfl⟩, rfl, fun other apart => ?_, rfl⟩
  · refine (stop_find s.current_instance_id).trans ?_
    rw [if_pos rfl, there]
    rfl
  · refine (stop_find other).trans ?_
    rw [if_neg apart]

theorem switched {vm : RiscVVirtualMachine} {name : String} {«from» caller : Option String} (switch_slot : Option String)
    (sent : List (String × Value)) :
    Switched name s { s.stop_current_vm.adopt_vm answers vm name «from» caller with switch_slot := switch_slot, sent := sent } := by
  obtain ⟨inst, there⟩ := current_there (s := s)
  refine ⟨⟨inst.emptied.adopt vm answers.now_ms name, vm, ?_, rfl, rfl⟩, rfl, rfl, fun other apart => ?_, rfl⟩
  · refine (adopt_find vm name «from» caller s.current_instance_id).trans ?_
    rw [if_pos rfl, there]
    rfl
  · refine (adopt_find vm name «from» caller other).trans ?_
    rw [if_neg apart]

/-- A switch that is tried: the slot is afterwards as it was, and so are the events; and what else came of it. -/
theorem try_switch_cases {name : String} {caller : Option String} {outcome : Except HostError Unit} {t : AppState}
    (tried : s.try_switch quoted answers name caller = (outcome, t)) :
    s.Refused answers name ∧ outcome.toBool = false ∧ t = s ∨
      ¬ s.Refused answers name ∧ (outcome.toBool = false ∧ t = { s.stop_current_vm with switch_slot := s.switch_slot } ∨
        outcome.toBool = true ∧ ∃ vm, vm.config.snapshot_dir = s.snapshot_dir ∧
          t = { s.stop_current_vm.adopt_vm answers vm name s.node.current_sandbox caller with switch_slot := s.switch_slot }) := by
  rw [try_switch] at tried
  cases found : s.node.sandbox_def_by_name name with
  | none =>
    simp only [found, Prod.mk.injEq] at tried
    obtain ⟨rfl, rfl⟩ := tried
    exact .inl ⟨.inr (.inr fun definition found' => by cases found.symm.trans found'), rfl, rfl⟩
  | some definition =>
    cases slot : s.switch_slot with
    | some target =>
      simp only [found, begin_sandbox_switch, slot, Prod.mk.injEq] at tried
      obtain ⟨rfl, rfl⟩ := tried
      exact .inl ⟨.inl (by simp [slot]), rfl, rfl⟩
    | none =>
      simp only [found, begin_sandbox_switch, slot] at tried
      cases switched : ({ s with switch_slot := some name } : AppState).switch_in_slot quoted answers definition name
          s.node.current_sandbox caller with
      | mk result after =>
        rw [switched, Prod.mk.injEq] at tried
        obtain ⟨rfl, rfl⟩ := tried
        have same : s = { s with switch_slot := none } := by rw [← slot]
        rcases switch_in_slot_cases switched with ⟨refused, failed, rfl⟩ | ⟨run, ⟨kernel, ready⟩, done⟩
        · refine .inl ⟨?_, failed, same.symm⟩
          rcases refused with run | unready
          · exact .inr (.inl run)
          · refine .inr (.inr fun other found' => ?_)
            cases found.symm.trans found'
            exact unready
        · refine .inr ⟨?_, ?_⟩
          · rintro (held | other | unready)
            · exact held slot
            · exact other run
            · obtain ⟨error, failed⟩ := unready definition found
              cases failed.symm.trans ready
          · rcases done with ⟨failed, rfl⟩ | ⟨success, vm, placed, rfl⟩
            · exact .inl ⟨failed, rfl⟩
            · exact .inr ⟨success, vm, placed, rfl⟩

/-- Whatever the state, and whatever the system answers: after a switch its slot is as it was before, one event tells of the
    outcome, a switch that is refused before the stop changes nothing else, and one that fails after the stop leaves the
    current instance stopped, nothing running on record and what was current as it was. -/
theorem switch_exits (quoted : String → String) (answers : Answers) (s : AppState) (name : String) (caller : Option String) :
    let (outcome, t) := s.switch_sandbox quoted answers name caller
    t.switch_slot = s.switch_slot ∧
      (∃ reason, t.sent = s.sent ++
        [(EV_SANDBOX_SWITCH, sandbox_switch_payload s.node.current_sandbox name outcome.toBool reason)]) ∧
      (s.Refused answers name → outcome.toBool = false ∧ t = { s with sent := t.sent }) ∧
      (¬ s.Refused answers name → if outcome.toBool then Switched name s t else Stopped s t) := by
  rw [switch_sandbox]
  cases tried : s.try_switch quoted answers name caller with
  | mk outcome after =>
    rcases try_switch_cases tried with ⟨refused, failed, rfl⟩ | ⟨accepted, ⟨failed, rfl⟩ | ⟨success, vm, -, rfl⟩⟩
    · exact ⟨rfl, ⟨_, rfl⟩, fun _ => ⟨failed, rfl⟩, fun accepted => absurd refused accepted⟩
    · refine ⟨rfl, ⟨_, rfl⟩, fun refused => absurd refused accepted, fun _ => ?_⟩
      simp only [failed, Bool.false_eq_true, if_false]
      exact stopped _
    · refine ⟨rfl, ⟨_, rfl⟩, fun refused => absurd refused accepted, fun _ => ?_⟩
      simp only [success, if_true]
      exact switched _ _

/-- A node that a switch put in charge of a sandbox. -/
def in_charge : AppState :=
  { with_blink with node := { with_blink.node with current_sandbox := some "old" }, active_sandbox := some "old" }

/-- The switch is not refused, it fails after the stop, and what was current is on record as before. -/
theorem failed_switch_keeps_current :
    let (outcome, t) := in_charge.switch_sandbox id no_port_left "blink" none
    ¬ in_charge.Refused no_port_left "blink" ∧ outcome = .error (.Other "port lease error: address not available") ∧
      t.node.current_sandbox = some "old" := by
  refine ⟨?_, by decide, by decide⟩
  rintro (held | run | unready)
  · exact held rfl
  · exact run rfl
  · obtain ⟨error, failed⟩ := unready _ rfl
    exact absurd failed (by rw [show in_charge.runnable no_port_left _ = .ok "/blink.elf" from rfl]; nofun)

end AppState
end Riscdom.Instances
