import Riscdom.Fingerprint
import Riscdom.KeyedTable
import Riscdom.VmStarts

/-!
The sandbox instances of a node. An instance derived from a definition is put
into the table before its machine is started, and forgotten where none starts;
the node's own instance is always there. Paths are POSIX ones.
-/
namespace Riscdom.Instances
open Json Agent Sandbox Provenance KeyedTable
open Riscdom.Sessions (HostError)

/-! ### Instances -/

def mint (device : String) (pid : UInt32) (seq : Nat) : String :=
  device ++ "-" ++ toString pid.toNat ++ "-" ++ toString seq

/-- A path seen from a directory. -/
def join (dir : List Component) (path : String) : List Component :=
  if is_absolute path then components path else dir ++ (components path).filter fun c => c ≠ .CurDir

/-- The directory that every directory of snapshots lies under. -/
def snapshot_root (workspace_root : String) : List Component :=
  join (join (components workspace_root) ".riscdom") "snapshots"

def instance_snapshot_dir (workspace_root device id : String) : List Component :=
  join (join (snapshot_root workspace_root) device) id

structure SandboxInstance where
  id : String
  /-- What it was made from; empty for the node's own until a switch names it. -/
  definition : String
  vm_slot : Option RiscVVirtualMachine
  vm_started_at_ms : Option Int
  snapshot_dir : List Component
deriving DecidableEq

def SandboxInstance.new (id definition : String) (snapshot_dir : List Component) : SandboxInstance :=
  { id, definition, vm_slot := none, vm_started_at_ms := none, snapshot_dir }

/-- A machine put into the slot, with the moment it started where none is told yet. -/
def SandboxInstance.put_vm (vm : RiscVVirtualMachine) (now : Int) (inst : SandboxInstance) : SandboxInstance :=
  { inst with vm_slot := some vm, vm_started_at_ms := inst.vm_started_at_ms.or (some now) }

def SandboxInstance.emptied (inst : SandboxInstance) : SandboxInstance :=
  { inst with vm_slot := none, vm_started_at_ms := none }
@[simp] theorem SandboxInstance.emptied_id (inst : SandboxInstance) : inst.emptied.id = inst.id := rfl

/-- The instances by their ids, each under a number that the process has given out, the node's own among them. -/
structure InstanceTable where
  device : String
  pid : UInt32
  seq : Nat
  own_instance : String
  table : Table SandboxInstance.id
  own_kept : (table.find own_instance).isSome
  minted : ∀ inst ∈ table.rows, ∃ device n, n ≤ seq ∧ inst.id = mint device pid n

/-- The number at the end of an id. -/
theorem mint_injective {device other : String} {pid : UInt32} {seq n : Nat} (same : mint device pid seq = mint other pid n) :
    seq = n := by
  have digits (k : Nat) : ∀ c ∈ (Nat.toDigits 10 k).reverse, (c != '-') = true := by
    intro c inside
    have digit := Nat.isDigit_of_mem_toDigits (by decide) (by decide) (List.mem_reverse.mp inside)
    simp only [bne_iff_ne, ne_eq]
    rintro rfl
    exact absurd digit (by decide)
  have ends (device : String) (k : Nat) :
      (mint device pid k).toList.reverse.takeWhile (· != '-') = (Nat.toDigits 10 k).reverse := by
    have shape : (mint device pid k).toList.reverse =
        (Nat.toDigits 10 k).reverse ++ '-' :: (device ++ "-" ++ toString pid.toNat).toList.reverse := by
      simp [mint, Nat.repr]
    rw [shape, List.takeWhile_append_of_pos (digits k)]
    simp
  have both := ends device seq
  rw [same, ends] at both
  calc
    seq = Nat.ofDigitChars 10 (Nat.toDigits 10 seq) 0 := Nat.ofDigitChars_ten_toDigits.symm
    _ = Nat.ofDigitChars 10 (Nat.toDigits 10 n) 0 := by rw [List.reverse_injective both]
    _ = n := Nat.ofDigitChars_ten_toDigits

namespace InstanceTable
variable (t : InstanceTable)

/-- The id that comes next is that of no instance. -/
theorem next_fresh : t.table.find (mint t.device t.pid (t.seq + 1)) = none := by
  rw [Table.find_eq_none]
  intro inst inside same
  obtain ⟨device, n, counted, id⟩ := t.minted inst inside
  have number := mint_injective (same.symm.trans id)
  omega

def register_instance (definition workspace_root : String) : SandboxInstance × InstanceTable :=
  let id := mint t.device t.pid (t.seq + 1)
  let inst := SandboxInstance.new id definition (instance_snapshot_dir workspace_root t.device id)
  (inst, { t with
    seq := t.seq + 1
    table := t.table.replace inst
    own_kept := by
      rw [Table.find_replace]
      by_cases own : t.own_instance = inst.id
      · rw [if_pos own]
        rfl
      · rw [if_neg own]
        exact t.own_kept
    minted := by
      intro row inside
      rcases List.mem_append.mp inside with old | new
      · obtain ⟨device, n, counted, id⟩ := t.minted row (List.mem_filter.mp old).1
        exact ⟨device, n, by omega, id⟩
      · obtain rfl := List.mem_singleton.mp new
        exact ⟨t.device, t.seq + 1, le_rfl, rfl⟩ })

/-- An instance taken from the table; the node's own is kept. -/
def forget_instance (id : String) : InstanceTable :=
  if own : id = t.own_instance then t
  else { t with
    table := t.table.delete id
    own_kept := by
      rw [Table.find_delete, if_neg (Ne.symm own)]
      exact t.own_kept
    minted := fun row inside => t.minted row (List.mem_filter.mp inside).1 }

/-- What stands behind the handles of an instance rewritten. -/
def rewrite (id : String) (change : SandboxInstance → SandboxInstance) (keeps : ∀ inst, (change inst).id = inst.id) :
    InstanceTable :=
  { t with
    table := t.table.update id change keeps
    own_kept := by
      rw [Table.find_update]
      split_ifs
      · simpa using t.own_kept
      · exact t.own_kept
    minted := by
      intro row inside
      obtain ⟨old, was, rfl⟩ := List.mem_map.mp inside
      obtain ⟨device, n, counted, id⟩ := t.minted old was
      refine ⟨device, n, counted, ?_⟩
      split_ifs
      · rw [keeps, id]
      · exact id }

theorem forget_table {id : String} (other : id ≠ t.own_instance) : (t.forget_instance id).table = t.table.delete id := by
  rw [forget_instance, dif_neg other]

theorem delete_rewritten (id : String) (change : SandboxInstance → SandboxInstance) (keeps : ∀ inst, (change inst).id = inst.id) :
    (t.rewrite id change keeps).table.delete id = t.table.delete id :=
  Table.delete_update t.table id change keeps

/-- An instance that is forgotten again leaves the table as it was. -/
theorem forget_registered (definition workspace_root : String) :
    ((t.register_instance definition workspace_root).2.forget_instance
      (t.register_instance definition workspace_root).1.id).table = t.table := by
  set inst := (t.register_instance definition workspace_root).1
  set after := (t.register_instance definition workspace_root).2
  have fresh : t.table.find inst.id = none := t.next_fresh
  have other : inst.id ≠ after.own_instance := by
    intro own
    have kept := t.own_kept
    rw [show t.own_instance = inst.id from own.symm, fresh] at kept
    cases kept
  rw [forget_table _ other]
  exact Table.delete_replace fresh

end InstanceTable

/-! ### The node -/

/-- A row of the audit log, as the host writes them. -/
structure Row where
  agent_id : String
  action : String
  detail : Value

/-- What a directory is told to hold. -/
structure DirEntry where
  path : String
  is_file : Bool
  modified : Option Nat

/-- What the system answers during one call. -/
structure Answers where
  environment : Environment
  read_dir : Except String (List (Except String DirEntry))
  binds : Nat → Except String UInt16
  starts : Nat → StartAnswer
  now_ms : Int

/-- The part of a node's state that a spawn and a switch read and write. -/
structure AppState where
  node : Node
  agent_id : String
  instances : InstanceTable
  current_instance : Option String
  active_sandbox : Option String
  switch_slot : Option String
  current_run_id : Option String
  /-- The ports that the process reserves. -/
  held : Finset UInt16
  rows : List Row
  sent : List (String × Value)

def EV_M_SANDBOX_SPAWN : String := "m:sandbox:spawn"
def EV_M_SANDBOX_REAP : String := "m:sandbox:reap"

def instance_payload (instance_id definition : String) : Value :=
  json [("instance_id", .string instance_id), ("definition", .string definition)]

/-- The newest executable of a directory, from the best one so far on. -/
def newest : Option (Nat × String) → List (Except String DirEntry) → Except String (Option (Nat × String))
  | best, [] => .ok best
  | _, .error why :: _ => .error why
  | best, .ok entry :: rest =>
    if entry.is_file = false ∨ extension (components entry.path) ≠ some "elf" then newest best rest
    else match entry.modified with
      | none => newest best rest
      | some modified =>
        newest (if (best.map fun held => decide (held.1 < modified)).getD true then some (modified, entry.path) else best) rest

/-- The kernel that the workspace has, or what is told where it has none. -/
def resume_kernel (read_dir : Except String (List (Except String DirEntry))) : Except String String :=
  match read_dir with
  | .error why => .error ("io error: " ++ why)
  | .ok entries =>
    match newest none entries with
    | .error why => .error ("io error: " ++ why)
    | .ok none => .error "no compiled ELF in the workspace; compile one first"
    | .ok (some (_, path)) => .ok path

namespace AppState
variable (answers : Answers) (s : AppState)

/-- A row of an act that a caller asked for. -/
def emit_m_action (caller : Option String) (action : String) (detail : Value) : AppState :=
  { s with rows := s.rows ++ [⟨caller.getD s.agent_id, action, detail⟩] }

def emit (event : String) (payload : Value) : AppState := { s with sent := s.sent ++ [(event, payload)] }

/-- The kernel of a definition. -/
def kernel (definition : SandboxDef) : Except HostError String :=
  match definition.kernel with
  | some path => .ok path
  | none => (resume_kernel answers.read_dir).mapError fun message =>
    .SandboxKernelMissing ("the definition pins none and the workspace has none: " ++ message)

/-- What can be checked of a definition before a machine is started, and the kernel it starts with. -/
def runnable (definition : SandboxDef) : Except HostError String := do
  s.node.sandbox_check answers.environment definition
  kernel answers definition

/-- What a machine of a definition is configured with on two ports. -/
def vm_config (definition : SandboxDef) (kernel : String) (snapshot_dir : List Component) (qmp serial : UInt16) : VMConfig where
  kernel := kernel
  memory_mb := definition.memory_mb.getD VM_MEMORY_MB
  qmp := .tcp "127.0.0.1" qmp
  serial := .tcp "127.0.0.1" serial
  snapshot_dir := snapshot_dir
  qemu_exe := definition.qemu_exe.or s.node.qemu_path

/-- A machine started under a configuration, or not; the ports are given back. -/
def start_vm (config : UInt16 → UInt16 → VMConfig) :
    Except SandboxError (Except String RiscVVirtualMachine) × AppState :=
  let (result, pool) := start_on_fresh_ports answers.binds answers.starts config ⟨s.held, 0⟩
  (result, { s with held := pool.held })

/-- The instance that comes next, in the table and its slot empty. -/
def register_instance (definition : String) : SandboxInstance × AppState :=
  let (inst, instances) := s.instances.register_instance definition s.node.workspace_root
  (inst, { s with instances })

def put_vm (id : String) (vm : RiscVVirtualMachine) (now : Int) : AppState :=
  { s with instances := s.instances.rewrite id (SandboxInstance.put_vm vm now) fun _ => rfl }

/-- An instance derived from a definition, and its machine started. -/
def spawn_instance (name : String) (caller : Option String) : Except HostError String × AppState :=
  match s.node.sandbox_def_by_name name with
  | none => (.error (.SandboxNotFound name), s)
  | some definition =>
    match s.runnable answers definition with
    | .error error => (.error error, s)
    | .ok kernel =>
      let (inst, s) := s.register_instance name
      match s.start_vm answers (s.vm_config definition kernel inst.snapshot_dir) with
      -- A lease that fails goes straight to the caller: the instance stays in the table.
      | (.error error, s) => (.error (.Other error.display), s)
      | (.ok (.ok vm), s) =>
        let s := s.put_vm inst.id vm answers.now_ms
        let s := s.emit_m_action caller "m.sandbox.spawn" (instance_payload inst.id name)
        (.ok inst.id, s.emit EV_M_SANDBOX_SPAWN (instance_payload inst.id name))
      | (.ok (.error last_error), s) =>
        (.error (.Other ("instance of " ++ name ++ " did not start: " ++ last_error)),
          { s with instances := s.instances.forget_instance inst.id })

/-- The machine of an instance stopped, and the instance forgotten unless it is the node's own. -/
def stop_instance (id : String) (caller : Option String) : Except HostError Unit × AppState :=
  match s.instances.table.find id with
  | none => (.error (.Other ("no instance " ++ id)), s)
  | some inst =>
    -- A stop always succeeds: what quitting fails with is ignored, and the process is killed then.
    let emptied := s.instances.rewrite id SandboxInstance.emptied SandboxInstance.emptied_id
    let s := { s with instances := emptied.forget_instance id }
    let s := s.emit_m_action caller "m.sandbox.reap" (instance_payload id inst.definition)
    (.ok (), s.emit EV_M_SANDBOX_REAP (instance_payload id inst.definition))

/-! ### What a spawn leaves -/

/-- A call that changes nothing but the count of the ids given out. -/
structure Unchanged (s t : AppState) : Prop where
  table : t.instances.table = s.instances.table
  held : t.held = s.held
  rest : t = { s with instances := t.instances }

/-- The directory of the snapshots of the instance that comes next. -/
def next_snapshot_dir : List Component :=
  instance_snapshot_dir s.node.workspace_root s.instances.device (mint s.instances.device s.instances.pid (s.instances.seq + 1))

/-- One instance more, of a definition and with a machine on ports leased for it; the process reserves what it did before. -/
structure Added (name id : String) (s t : AppState) : Prop where
  fresh : s.instances.table.find id = none
  there : ∃ inst vm definition kernel, t.instances.table.find id = some inst ∧ inst.definition = name ∧
    inst.vm_slot = some vm ∧ OnLeasedPorts answers.binds s.held (s.vm_config definition kernel inst.snapshot_dir) vm
  others : ∀ other, other ≠ id → t.instances.table.find other = s.instances.table.find other
  held : t.held = s.held

/-- An error leaves everything as it was, and a success adds one instance. -/
def AllOrNothing (name : String) (caller : Option String) : Prop :=
  match s.spawn_instance answers name caller with
  | (.error _, t) => Unchanged s t
  | (.ok id, t) => Added answers name id s t

/-- Once the definition has passed its checks, every attempt that is made to start the machine gets its two ports. -/
def PortsAtHand (name : String) : Prop :=
  ∀ definition, s.node.sandbox_def_by_name name = some definition → ∀ kernel, s.runnable answers definition = .ok kernel →
    Leasable answers.binds answers.starts (s.vm_config definition kernel s.next_snapshot_dir) Sandbox.START_ATTEMPTS 1
      ⟨s.held, 0⟩

variable {answers s}

/-- The attempts to start a machine leave the state as it was, and end with a failing lease exactly where not each one gets
    its ports. -/
theorem start_vm_spec {config : UInt16 → UInt16 → VMConfig} {result : Except SandboxError (Except String RiscVVirtualMachine)}
    {t : AppState} (starting : s.start_vm answers config = (result, t)) :
    t = s ∧
      (Leasable answers.binds answers.starts config Sandbox.START_ATTEMPTS 1 ⟨s.held, 0⟩ ↔ ∃ outcome, result = .ok outcome) ∧
      ∀ vm, result = .ok (.ok vm) → OnLeasedPorts answers.binds s.held config vm := by
  rw [start_vm] at starting
  cases attempts : start_on_fresh_ports answers.binds answers.starts config ⟨s.held, 0⟩ with
  | mk outcome pool =>
    rw [attempts] at starting
    obtain ⟨rfl, rfl⟩ := Prod.mk.inj starting
    obtain ⟨held, leasable, leased⟩ := start_attempts_spec attempts
    exact ⟨by rw [held], leasable, leased⟩

theorem put_vm_find {id : String} {vm : RiscVVirtualMachine} {now : Int} (other : String) :
    (s.put_vm id vm now).instances.table.find other =
      if other = id then (s.instances.table.find other).map (SandboxInstance.put_vm vm now) else s.instances.table.find other :=
  Table.find_update s.instances.table id other (SandboxInstance.put_vm vm now) fun _ => rfl

theorem register_find {definition : String} (other : String) :
    (s.register_instance definition).2.instances.table.find other =
      if other = (s.register_instance definition).1.id then some (s.register_instance definition).1
      else s.instances.table.find other :=
  Table.find_replace ..

theorem register_fresh {definition : String} :
    s.instances.table.find (s.register_instance definition).1.id = none :=
  s.instances.next_fresh

/-- Where the definition has passed its checks, only a failing lease leaves something behind. -/
theorem spawn_of_ready {name kernel : String} {caller : Option String} {definition : SandboxDef}
    (found : s.node.sandbox_def_by_name name = some definition) (ready : s.runnable answers definition = .ok kernel) :
    s.AllOrNothing answers name caller ↔
      Leasable answers.binds answers.starts (s.vm_config definition kernel s.next_snapshot_dir) Sandbox.START_ATTEMPTS 1
        ⟨s.held, 0⟩ := by
  rw [AllOrNothing, spawn_instance]
  simp only [found, ready]
  cases starting : (s.register_instance name).2.start_vm answers
      ((s.register_instance name).2.vm_config definition kernel (s.register_instance name).1.snapshot_dir) with
  | mk result t =>
    obtain ⟨rfl, leasable, leased⟩ := start_vm_spec starting
    refine Iff.trans ?_ leasable.symm
    cases result with
    | error error =>
      refine ⟨fun unchanged => ?_, by simp⟩
      -- The instance is in the table afterwards, and was not before.
      have there := @register_find s name (s.register_instance name).1.id
      rw [if_pos rfl, unchanged.table, register_fresh] at there
      cases there
    | ok outcome =>
      refine ⟨fun _ => ⟨outcome, rfl⟩, fun _ => ?_⟩
      cases outcome with
      | error last_error => exact ⟨s.instances.forget_registered name s.node.workspace_root, rfl, rfl⟩
      | ok vm =>
        refine ⟨register_fresh, ?_, ?_, rfl⟩
        · refine ⟨(s.register_instance name).1.put_vm vm answers.now_ms, vm, definition, kernel, ?_, rfl, rfl, leased vm rfl⟩
          refine (put_vm_find _).trans ?_
          rw [if_pos rfl, register_find, if_pos rfl]
          rfl
        · intro other apart
          refine (put_vm_find _).trans ?_
          rw [if_neg apart, register_find, if_neg apart]

/-- For every state of the instances and the leases, and whatever the system answers: a spawn changes nothing or adds one
    instance exactly where no request for ports fails once the instance is registered. -/
theorem spawn_all_or_nothing_iff (answers : Answers) (s : AppState) (name : String) (caller : Option String) :
    s.AllOrNothing answers name caller ↔ s.PortsAtHand answers name := by
  cases found : s.node.sandbox_def_by_name name with
  | none =>
    have refused : s.AllOrNothing answers name caller := by
      rw [AllOrNothing, spawn_instance]
      simp only [found]
      exact ⟨rfl, rfl, rfl⟩
    simp [refused, PortsAtHand, found]
  | some definition =>
    cases ready : s.runnable answers definition with
    | error error =>
      have refused : s.AllOrNothing answers name caller := by
        rw [AllOrNothing, spawn_instance]
        simp only [found, ready]
        exact ⟨rfl, rfl, rfl⟩
      simp [refused, PortsAtHand, found, ready]
    | ok kernel =>
      rw [spawn_of_ready found ready]
      simp [PortsAtHand, found, ready]

/-- A spawn that succeeds registers the instance that comes next and puts a machine into its slot. -/
theorem spawn_ok {name id : String} {caller : Option String} {t : AppState}
    (spawned : s.spawn_instance answers name caller = (.ok id, t)) :
    id = (s.register_instance name).1.id ∧
      ∃ vm, vm.config.snapshot_dir = (s.register_instance name).1.snapshot_dir ∧
        t.instances = ((s.register_instance name).2.put_vm id vm answers.now_ms).instances := by
  rw [spawn_instance] at spawned
  cases found : s.node.sandbox_def_by_name name with
  | none => simp [found] at spawned
  | some definition =>
    cases ready : s.runnable answers definition with
    | error error => simp [found, ready] at spawned
    | ok kernel =>
      simp only [found, ready] at spawned
      cases starting : (s.register_instance name).2.start_vm answers
          ((s.register_instance name).2.vm_config definition kernel (s.register_instance name).1.snapshot_dir) with
      | mk result after =>
        obtain ⟨rfl, -, leased⟩ := start_vm_spec starting
        match result with
        | .error error => simp [starting] at spawned
        | .ok (.error last_error) => simp [starting] at spawned
        | .ok (.ok vm) =>
          simp only [starting, Prod.mk.injEq, Except.ok.injEq] at spawned
          obtain ⟨rfl, rfl⟩ := spawned
          obtain ⟨qmp, serial, -, -, -, -, config⟩ := leased vm rfl
          exact ⟨rfl, vm, by rw [config]; rfl, rfl⟩

/-- An instance that is spawned and stopped leaves the table as it was. -/
theorem stop_spawned {name id : String} {caller reaper : Option String} {t : AppState}
    (spawned : s.spawn_instance answers name caller = (.ok id, t)) :
    (t.stop_instance id reaper).1 = .ok () ∧ (t.stop_instance id reaper).2.instances.table = s.instances.table := by
  obtain ⟨named, vm, -, same⟩ := spawn_ok spawned
  have fresh : s.instances.table.find id = none := named ▸ register_fresh
  have there : t.instances.table.find id = some ((s.register_instance name).1.put_vm vm answers.now_ms) := by
    rw [same, put_vm_find, if_pos rfl, register_find, if_pos named]
    rfl
  have other : id ≠ t.instances.own_instance := by
    intro own
    have kept := s.instances.own_kept
    rw [show s.instances.own_instance = id from (congrArg InstanceTable.own_instance same).symm.trans own.symm, fresh] at kept
    cases kept
  have emptied := t.instances.delete_rewritten id SandboxInstance.emptied SandboxInstance.emptied_id
  have forgotten := InstanceTable.forget_table (t.instances.rewrite id SandboxInstance.emptied SandboxInstance.emptied_id) other
  have put : t.instances.table.delete id = (s.register_instance name).2.instances.table.delete id := by
    rw [same]
    exact InstanceTable.delete_rewritten ..
  simp only [stop_instance, there]
  refine ⟨trivial, forgotten.trans (emptied.trans (put.trans ?_))⟩
  subst named
  exact Table.delete_replace fresh

/-- A definition whose files are there, on a system that has no port left. -/
def no_port_left : Answers where
  environment :=
    { gcc := none, zig := none, rustc := none, rust_sysroot := none, qemu := .error "no qemu", gcc_name := "gcc",
      zig_name := "zig", qemu_name := "qemu-system-riscv64", is_file := fun _ => true, toolchain_runs := fun _ => .ok "10.0",
      diagnostics := "" }
  read_dir := .ok []
  binds := fun _ => .error "address not available"
  starts := fun _ =>
    { path_exists := fun _ => true, is_file := fun _ => true, resolve_qemu_binary := "qemu-system-riscv64", diagnostics := "",
      started := .ok () }
  now_ms := 1000

def fresh_table : InstanceTable where
  device := "local"
  pid := 7
  seq := 2
  own_instance := "local-7-1"
  table := Table.empty.replace (SandboxInstance.new "local-7-1" "" (instance_snapshot_dir "/w" "local" "local-7-1"))
  own_kept := by decide
  minted := by
    intro inst inside
    obtain rfl := List.mem_singleton.mp inside
    exact ⟨"local", 1, by decide, by decide⟩

/-- A node that knows the definition. -/
def with_blink : AppState where
  node :=
    { workspace_root := "/w", toolchain_path := none, zig_path := none, rust_sysroot := none, qemu_path := none,
      llm_config := none, llm_override := false,
      manual_sandboxes := [⟨"blink", none, none, some "/qemu", some "/gcc", some "/blink.elf", none, false⟩], scanned_sandboxes := [],
      current_sandbox := none, default_sandbox := none }
  agent_id := "local-7-2"
  instances := fresh_table
  current_instance := some "local-7-1"
  active_sandbox := none
  switch_slot := none
  current_run_id := none
  held := ∅
  rows := []
  sent := []

/-- The spawn fails and the instance that never ran stays in the table. -/
theorem spawn_leaves_instance : ¬ with_blink.AllOrNothing no_port_left "blink" none := by
  have failed : (with_blink.spawn_instance no_port_left "blink" none).1 =
      .error (.Other "port lease error: address not available") := by decide
  have left : (with_blink.spawn_instance no_port_left "blink" none).2.instances.table.rows.length = 2 := by decide
  rw [AllOrNothing]
  generalize with_blink.spawn_instance no_port_left "blink" none = outcome at failed left
  obtain ⟨result, t⟩ := outcome
  obtain rfl : result = _ := failed
  intro unchanged
  rw [show t.instances.table = with_blink.instances.table from unchanged.table] at left
  exact absurd left (by decide)

end AppState
end Riscdom.Instances
