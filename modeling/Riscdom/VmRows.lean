import Riscdom.AuditHook
import Riscdom.Qmp
import Riscdom.SnapshotNames

/-!
The rows a virtual machine writes of its own life. A start writes its row at the
very end, when the guest is up; a stop writes its row where there is a process,
which a start that fails half-way leaves behind.
-/
namespace Riscdom.Sandbox.VmRows
open Json Machine Fallible Fallible.Act
open Agent (SandboxEvent Component)
open Instances (snapshot_file SNAPSHOT_JSON_EXT)

inductive QmpEndpoint
  | Tcp (host : String) (port : Nat)
  | UnixSocket (path : String)

inductive SerialEndpoint
  | Tcp (host : String) (port : Nat)
  | File (path : String)

structure VMConfig where
  kernel : String
  memory_mb : Nat
  qmp : QmpEndpoint
  serial : SerialEndpoint
  snapshot_dir : List Component
  incoming_snapshot : Option String
  incoming_relay_addr : Option (String × Nat)
  qemu_exe : Option String

inductive VmEvent
  | Own (event : SandboxEvent)
  | SnapshotLoad (name path : String)

namespace VmEvent

def action : VmEvent → String
  | .Own event => event.action
  | .SnapshotLoad _ _ => "vm.snapshot.load"

def detail : VmEvent → Value
  | .Own event => event.detail
  | .SnapshotLoad name path => json [("name", .string name), ("path", .string path), ("mode", .string "mvp-reboot")]

end VmEvent

/-- A row, with the guest it is written for, which the code does not keep. -/
structure Row where
  guest : Nat
  event : VmEvent

/-- A machine and the rows that it has appended. Its guests are numbered as their processes are spawned. -/
structure RiscVVirtualMachine where
  config : VMConfig
  qemu_bin : String
  child : Option Nat
  qmp : Bool
  serial_write : Bool
  reader : Bool
  snapshot_sender : Bool
  qemu_log : Option String
  port_leases : List (String × Nat)
  spawned : Nat
  rows : List Row

/-- What the system answers while a machine is started. -/
structure StartAnswer where
  lease : Except SandboxError Nat
  log_path : String
  log_file : Except String Unit
  log_clone : Except String Unit
  spawn : Except String Unit
  serial_connect : Except SandboxError Unit
  serial_clone : Except String Unit
  qmp_connect : Except SandboxError Unit
  exited : Option Exit
  /-- The statuses as they are asked for; after the last, the time is over. -/
  status : Except SandboxError String
  later_statuses : List (Except SandboxError String)
  /-- What the sender of the snapshot has come to when it is looked at. -/
  sender : Option (Except SandboxError Nat)

/-- What it answers while a snapshot is read, and then while the machine is started from it. -/
structure LoadAnswer where
  read_to_string : Except String String
  from_str : String → Except String Value
  from_value : Value → Except String VMConfig
  start : StartAnswer

/-- What it answers while a machine is made and started. -/
structure MadeAnswer where
  kernel_exists : Bool
  resolve_qemu_binary : String
  is_file : Bool
  diagnostics : String
  start : StartAnswer

def QmpEndpoint.to_qemu_arg : QmpEndpoint → String
  | .Tcp host port => "tcp:" ++ host ++ ":" ++ toString port ++ ",server=on,wait=off"
  | .UnixSocket path => "unix:" ++ path ++ ",server=on,wait=off"

def SerialEndpoint.to_qemu_arg : SerialEndpoint → String
  | .Tcp host port => "tcp:" ++ host ++ ":" ++ toString port ++ ",server=on,wait=on"
  | .File path => "file:" ++ path

def VM_MACHINE : String := "virt"
def VM_CPU : String := "rv64"

abbrev Vm (T : Type) : Type := Act RiscVVirtualMachine SandboxError T

namespace RiscVVirtualMachine

def qemu_args (vm : RiscVVirtualMachine) : List String :=
  ["-machine", VM_MACHINE, "-cpu", VM_CPU, "-m", toString vm.config.memory_mb ++ "M", "-bios", "none", "-display", "none",
    "-kernel", vm.config.kernel, "-qmp", vm.config.qmp.to_qemu_arg, "-serial",
    vm.config.serial.to_qemu_arg] ++
  match vm.config.incoming_relay_addr with
  | some (ip, port) => ["-incoming", "tcp:" ++ ip ++ ":" ++ toString port]
  | none => []

def emit (guest : Nat) (event : VmEvent) : Vm Unit := modify fun vm => { vm with rows := vm.rows ++ [⟨guest, event⟩] }

def new (answer : MadeAnswer) (config : VMConfig) : Except SandboxError RiscVVirtualMachine :=
  if ¬ answer.kernel_exists then .error (.Config ("kernel not found: " ++ config.kernel))
  else if ¬ answer.is_file then .error (.QemuNotFound answer.diagnostics)
  else .ok ⟨config, config.qemu_exe.getD answer.resolve_qemu_binary, none, false, false, false, false, none, [], 0, []⟩

/-! ### A start -/

/-- The port that an incoming snapshot is sent to. -/
def lease_incoming (answer : StartAnswer) : Vm Unit := do
  match ← get fun vm => vm.config.incoming_snapshot with
  | none => pure ()
  | some _ => do
    let port ← ofExcept answer.lease
    modify fun vm =>
      { vm with
        config := { vm.config with incoming_relay_addr := some ("127.0.0.1", port) }
        port_leases := vm.port_leases ++ [("127.0.0.1", port)] }

def open_log (answer : StartAnswer) : Vm Unit := do
  ofExcept (answer.log_file.mapError fun e => .Io ("qemu log " ++ answer.log_path ++ ": " ++ e))
  ofExcept (answer.log_clone.mapError .Io)
  modify fun vm => { vm with qemu_log := some answer.log_path }

/-- The process, and the sender of the snapshot it waits for. -/
def spawn (answer : StartAnswer) : Vm Unit := do
  let qemu_bin ← get (·.qemu_bin)
  ofExcept (answer.spawn.mapError fun e => .Spawn (qemu_bin ++ " (" ++ e ++ ")"))
  modify fun vm =>
    { vm with
      child := some vm.spawned, spawned := vm.spawned + 1
      snapshot_sender := vm.snapshot_sender || vm.config.incoming_snapshot.isSome }

/-- The guest is asked for its status until it runs. -/
def wait_for_running (status : Except SandboxError String) (later : List (Except SandboxError String)) :
    Except SandboxError Unit :=
  match status with
  | .error error => .error error
  | .ok status =>
    if status = "running" then .ok ()
    else if status = "shutdown" ∨ status = "internal-error" then
      .error (.Relay ("guest ended up in state '" ++ status ++ "' while restoring"))
    else
      match later with
      | [] => .error (.RelayTimeout ("waiting for restored guest to run (last status: " ++ status ++ ")"))
      | next :: later => wait_for_running next later

def attach_serial (answer : StartAnswer) : Vm Unit := do
  match ← get fun vm => vm.config.serial with
  | .Tcp _ _ => do
    ofExcept answer.serial_connect
    ofExcept (answer.serial_clone.mapError .Serial)
    modify fun vm => { vm with serial_write := true, reader := true }
  | .File _ => pure ()

def finish_start (answer : StartAnswer) : Vm Unit := do
  attach_serial answer
  ofExcept (answer.qmp_connect.mapError (explain_qmp "the QMP connect" answer.exited))
  modify fun vm => { vm with qmp := true }
  if (← get fun vm => vm.config.incoming_snapshot).isSome then
    ofExcept (wait_for_running answer.status answer.later_statuses)

def take_snapshot_sender (answer : StartAnswer) : Vm (Option (Except SandboxError Nat)) := do
  let sending ← get (·.snapshot_sender)
  modify fun vm => { vm with snapshot_sender := false }
  pure (if sending then answer.sender else none)

/-- What follows the spawn: a failure also tells what the sender saw. -/
def come_up (answer : StartAnswer) : Vm Unit := do
  let started ← attempt (finish_start answer)
  let sender ← take_snapshot_sender answer
  match started, sender with
  | .ok (), some (.error error) => fail (.Relay ("the snapshot sender failed while restoring: " ++ error.to_string))
  | .ok (), _ => pure ()
  | .error error, some (.error sender_error) =>
    fail (.Relay (error.to_string ++ "; the snapshot sender also failed: " ++ sender_error.to_string))
  | .error error, _ => fail error

/-- The rest of a start, once the machine is ready to be spawned. -/
def launch (answer : StartAnswer) (args : List String) : Vm Unit := do
  let guest ← get (·.spawned)
  spawn answer
  come_up answer
  let row ← get fun vm => SandboxEvent.Start vm.config.kernel vm.config.memory_mb vm.qemu_bin args
  emit guest (.Own row)

def start (answer : StartAnswer) : Vm Unit := do
  if (← get (·.child)).isSome then fail .AlreadyRunning
  else do
    modify fun vm => { vm with port_leases := [] }
    lease_incoming answer
    let args ← get qemu_args
    open_log answer
    launch answer args

/-! ### The other operations -/

/-- What comes of the quit is not looked at, and the process is killed where it does not end. -/
def stop : Vm Unit := do
  let child ← get (·.child)
  modify fun vm =>
    { vm with
      child := none, qmp := false, serial_write := false, reader := false, snapshot_sender := false, qemu_log := none }
  match child with
  | some guest => emit guest (.Own .Stop)
  | none => pure ()

def snapshot_path (vm : RiscVVirtualMachine) (name : String) : List Component :=
  Instances.join vm.config.snapshot_dir (snapshot_file name SNAPSHOT_JSON_EXT)

def stored_config (path : String) (answer : LoadAnswer) : Except SandboxError VMConfig := do
  let text ← answer.read_to_string.mapError fun e => .Snapshot (path ++ ": " ++ e)
  let value ← (answer.from_str text).mapError .Snapshot
  match value.get "config" with
  | none => .error (.Snapshot "snapshot missing 'config'")
  | some stored => (answer.from_value stored).mapError .Snapshot

def load_snapshot (name : String) (answer : LoadAnswer) : Vm Unit := do
  let path ← get fun vm => Agent.display (vm.snapshot_path name)
  let config ← ofExcept (stored_config path answer)
  stop
  modify fun vm => { vm with config }
  start answer.start
  let guest ← get fun vm => vm.child.getD vm.spawned
  emit guest (.SnapshotLoad name path)

/-- One attempt: a machine that does not start is dropped, its process killed. -/
def boot (config : VMConfig) (answer : MadeAnswer) : Except SandboxError RiscVVirtualMachine :=
  match new answer config with
  | .error error => .error error
  | .ok vm =>
    match start answer.start vm with
    | (.ok (), vm) => .ok vm
    | (.error error, _) => .error error

def RESUME_ATTEMPTS : Nat := 3

/-- The attempts that are left, from one of a number on, with the reasons of those before. -/
def resume_attempts (config : VMConfig) (answers : Nat → MadeAnswer) :
    Nat → Nat → List String → Except SandboxError RiscVVirtualMachine
  | 0, _, reasons =>
    .error (.Relay ("failed to resume from snapshot after " ++ toString RESUME_ATTEMPTS ++ " attempts: " ++
      String.intercalate "; " reasons))
  | left + 1, attempt, reasons =>
    match boot config (answers attempt) with
    | .ok vm => .ok vm
    | .error error =>
      resume_attempts config answers left (attempt + 1)
        (reasons ++ ["attempt " ++ toString attempt ++ ": " ++ error.to_string])

def resume_from_snapshot_real (config : VMConfig) (snapshot_path : String) (path_exists : Bool) (answers : Nat → MadeAnswer) :
    Except SandboxError RiscVVirtualMachine :=
  if ¬ path_exists then .error (.Snapshot ("snapshot not found: " ++ snapshot_path))
  else resume_attempts { config with incoming_snapshot := some snapshot_path } answers RESUME_ATTEMPTS 1 []

end RiscVVirtualMachine

inductive VmAct
  | Start (answer : StartAnswer)
  | Stop
  | Load (name : String) (answer : LoadAnswer)

namespace RiscVVirtualMachine

def perform : VmAct → Vm Unit
  | .Start answer => start answer
  | .Stop => stop
  | .Load name answer => load_snapshot name answer

def step (vm : RiscVVirtualMachine) (act : VmAct) : RiscVVirtualMachine := (perform act vm).2

/-! ### What an operation can do -/

/-- A start on this configuration gets as far as a process. -/
structure Spawns (answer : StartAnswer) (config : VMConfig) : Prop where
  lease : config.incoming_snapshot.isSome → answer.lease.isOk
  log_file : answer.log_file.isOk
  log_clone : answer.log_clone.isOk
  spawn : answer.spawn.isOk

/-- What follows the spawn goes well. -/
structure ComesUp (answer : StartAnswer) (config : VMConfig) : Prop where
  serial : ∀ host port, config.serial = .Tcp host port → answer.serial_connect.isOk ∧ answer.serial_clone.isOk
  qmp : answer.qmp_connect.isOk
  running : config.incoming_snapshot.isSome → (wait_for_running answer.status answer.later_statuses).isOk
  sender : config.incoming_snapshot.isSome → ∀ error, answer.sender ≠ some (.error error)

/-- Nothing that the rows depend on has changed. -/
structure Alike (s t : RiscVVirtualMachine) : Prop where
  child : t.child = s.child
  spawned : t.spawned = s.spawned
  rows : t.rows = s.rows
  snapshot_sender : t.snapshot_sender = s.snapshot_sender
  incoming_snapshot : t.config.incoming_snapshot = s.config.incoming_snapshot
  serial : t.config.serial = s.config.serial

variable {answer : StartAnswer} {s t : RiscVVirtualMachine}

theorem Alike.refl (s : RiscVVirtualMachine) : Alike s s := ⟨rfl, rfl, rfl, rfl, rfl, rfl⟩

theorem Alike.trans {r : RiscVVirtualMachine} (first : Alike r s) (second : Alike s t) : Alike r t :=
  ⟨second.child.trans first.child, second.spawned.trans first.spawned, second.rows.trans first.rows,
    second.snapshot_sender.trans first.snapshot_sender, second.incoming_snapshot.trans first.incoming_snapshot,
    second.serial.trans first.serial⟩

/-- A part of a start leaves what the rows depend on, and succeeds exactly under the condition. -/
def Passes {T : Type} (x : Vm T) (s : RiscVVirtualMachine) (condition : Prop) : Prop :=
  Alike s (x s).2 ∧ ((x s).1.isOk ↔ condition)

theorem passes_bind {T U : Type} {x : Vm T} {f : T → Vm U} {first second : Prop} (one : Passes x s first)
    (two : ∀ a t, Alike s t → Passes (f a) t second) : Passes (x >>= f) s (first ∧ second) := by
  obtain ⟨alike, ok⟩ := one
  unfold Passes
  cases result : x s with
  | mk outcome t =>
    rw [result] at alike ok
    cases outcome with
    | error error =>
      rw [bind_of_error result]
      refine ⟨alike, ?_⟩
      simp only [Except.isOk, Except.toBool, Bool.false_eq_true, false_iff] at ok ⊢
      exact fun both => ok both.1
    | ok a =>
      rw [bind_of_ok result]
      obtain ⟨later, ok'⟩ := two a t alike
      refine ⟨alike.trans later, ?_⟩
      simp only [Except.isOk, Except.toBool, true_iff] at ok
      rw [ok']
      exact ⟨fun second => ⟨ok, second⟩, fun both => both.2⟩

theorem passes_ofExcept {T : Type} (result : Except SandboxError T) (s : RiscVVirtualMachine) :
    Passes (ofExcept result) s result.isOk := ⟨.refl s, Iff.rfl⟩

theorem passes_iff {T : Type} {x : Vm T} {first second : Prop} (same : first ↔ second) (passes : Passes x s first) :
    Passes x s second := ⟨passes.1, passes.2.trans same⟩

theorem mapError_ok {T E F : Type} (f : E → F) (result : Except E T) : (result.mapError f).isOk = result.isOk := by
  cases result <;> rfl

theorem lease_incoming_passes (s : RiscVVirtualMachine) :
    Passes (lease_incoming answer) s (s.config.incoming_snapshot.isSome → answer.lease.isOk) := by
  unfold Passes lease_incoming
  rw [bind_of_ok (get_run _ s)]
  cases incoming : s.config.incoming_snapshot with
  | none => exact ⟨.refl s, by simp [Except.isOk, Except.toBool]⟩
  | some path =>
    cases leased : answer.lease with
    | error error => exact ⟨.refl s, by simp [bind_run, Except.isOk, Except.toBool]⟩
    | ok port => exact ⟨⟨rfl, rfl, rfl, rfl, rfl, rfl⟩, by simp [bind_run, Except.isOk, Except.toBool]⟩

theorem open_log_passes (s : RiscVVirtualMachine) :
    Passes (open_log answer) s (answer.log_file.isOk ∧ answer.log_clone.isOk ∧ True) := by
  refine passes_bind ?_ fun _ t _ => passes_bind ?_ fun _ u _ => ?_
  · exact passes_iff (by rw [mapError_ok]) (passes_ofExcept _ s)
  · exact passes_iff (by rw [mapError_ok]) (passes_ofExcept _ t)
  · exact ⟨⟨rfl, rfl, rfl, rfl, rfl, rfl⟩, by simp [Except.isOk, Except.toBool]⟩

theorem attach_serial_passes (s : RiscVVirtualMachine) :
    Passes (attach_serial answer) s
      (∀ host port, s.config.serial = .Tcp host port → answer.serial_connect.isOk ∧ answer.serial_clone.isOk) := by
  unfold Passes attach_serial
  rw [bind_of_ok (get_run _ s)]
  cases serial : s.config.serial with
  | File path => exact ⟨.refl s, by simp [Except.isOk, Except.toBool]⟩
  | Tcp host port =>
    cases connected : answer.serial_connect with
    | error error => exact ⟨.refl s, by simp [bind_run, Except.isOk, Except.toBool]⟩
    | ok _ =>
      cases cloned : answer.serial_clone with
      | error why => exact ⟨.refl s, by simp [bind_run, Except.mapError, Except.isOk, Except.toBool]⟩
      | ok _ => exact ⟨⟨rfl, rfl, rfl, rfl, rfl, rfl⟩, by simp [bind_run, Except.mapError, Except.isOk, Except.toBool]⟩

theorem finish_start_passes (s : RiscVVirtualMachine) :
    Passes (finish_start answer) s
      ((∀ host port, s.config.serial = .Tcp host port → answer.serial_connect.isOk ∧ answer.serial_clone.isOk) ∧
        answer.qmp_connect.isOk ∧ True ∧
        (s.config.incoming_snapshot.isSome → (wait_for_running answer.status answer.later_statuses).isOk)) := by
  refine passes_bind (attach_serial_passes s) fun _ t alike => passes_bind ?_ fun _ u alike' => passes_bind ?_ fun _ v alike'' => ?_
  · exact passes_iff (by rw [mapError_ok]) (passes_ofExcept _ t)
  · exact ⟨⟨rfl, rfl, rfl, rfl, rfl, rfl⟩, by simp [Except.isOk, Except.toBool]⟩
  · unfold Passes
    rw [bind_of_ok (get_run _ v)]
    have incoming := ((alike.trans alike').trans alike'').incoming_snapshot
    rw [incoming]
    by_cases restored : s.config.incoming_snapshot.isSome = true
    · rw [if_pos restored]
      exact passes_iff (by simp [restored]) (passes_ofExcept _ v)
    · rw [if_neg restored]
      exact ⟨.refl v, by simp [restored, Except.isOk, Except.toBool]⟩

/-- What follows the spawn changes nothing but that the sender is done with, and succeeds where all goes well. -/
theorem come_up_spec (s : RiscVVirtualMachine) (sending : s.snapshot_sender = s.config.incoming_snapshot.isSome) :
    Alike { s with snapshot_sender := false } (come_up answer s).2 ∧ ((come_up answer s).1.isOk ↔ ComesUp answer s.config) := by
  obtain ⟨alike, passed⟩ := @finish_start_passes answer s
  have finished : attempt (finish_start answer) s = (.ok (finish_start answer s).1, (finish_start answer s).2) := rfl
  have sender : (finish_start answer s).2.snapshot_sender = s.config.incoming_snapshot.isSome := alike.snapshot_sender.trans sending
  have state : Alike { s with snapshot_sender := false } { (finish_start answer s).2 with snapshot_sender := false } :=
    ⟨alike.child, alike.spawned, alike.rows, rfl, alike.incoming_snapshot, alike.serial⟩
  unfold come_up
  rw [bind_of_ok finished]
  have taken : take_snapshot_sender answer (finish_start answer s).2 =
      (.ok (if s.config.incoming_snapshot.isSome then answer.sender else none),
        { (finish_start answer s).2 with snapshot_sender := false }) := by
    rw [← sender]
    rfl
  rw [bind_of_ok taken]
  have up : ComesUp answer s.config ↔ (finish_start answer s).1.isOk ∧
      ∀ error, (if s.config.incoming_snapshot.isSome then answer.sender else none) ≠ some (.error error) := by
    rw [passed]
    constructor
    · intro up
      refine ⟨⟨up.serial, up.qmp, trivial, up.running⟩, fun error => ?_⟩
      split_ifs with restored
      · exact up.sender restored error
      · simp
    · rintro ⟨⟨serial, qmp, -, running⟩, sender⟩
      exact ⟨serial, qmp, running, fun restored error => by simpa [restored] using sender error⟩
  rw [up]
  generalize (if s.config.incoming_snapshot.isSome then answer.sender else none) = seen
  cases (finish_start answer s).1 with
  | ok _ =>
    cases seen with
    | none => exact ⟨state, by simp [Except.isOk, Except.toBool]⟩
    | some sent => cases sent <;> exact ⟨state, by simp [Except.isOk, Except.toBool]⟩
  | error error =>
    cases seen with
    | none => exact ⟨state, by simp [Except.isOk, Except.toBool]⟩
    | some sent => cases sent <;> exact ⟨state, by simp [Except.isOk, Except.toBool]⟩

theorem start_running (running : s.child.isSome) : start answer s = (.error .AlreadyRunning, s) := by
  unfold start
  rw [bind_of_ok (get_run _ s), if_pos running]
  rfl

/-- A start where there is no process: it fails before the spawn, or is launched on a state that is alike. -/
theorem start_cases (free : s.child = none) :
    (¬ ((s.config.incoming_snapshot.isSome → answer.lease.isOk) ∧ answer.log_file.isOk ∧ answer.log_clone.isOk) ∧
      (start answer s).1.isOk = false ∧ Alike s (start answer s).2) ∨
    (((s.config.incoming_snapshot.isSome → answer.lease.isOk) ∧ answer.log_file.isOk ∧ answer.log_clone.isOk) ∧
      ∃ args t, Alike s t ∧ start answer s = launch answer args t) := by
  have cleared : Alike s { s with port_leases := [] } := ⟨rfl, rfl, rfl, rfl, rfl, rfl⟩
  have opened : start answer s = (do
      lease_incoming answer
      let args ← get qemu_args
      open_log answer
      launch answer args : Vm Unit) { s with port_leases := [] } := by
    unfold start
    rw [bind_of_ok (get_run _ s), if_neg (by simp [free]), bind_of_ok (modify_run _ s)]
  rw [opened]
  obtain ⟨alike, leased⟩ := @lease_incoming_passes answer { s with port_leases := [] }
  cases lease : lease_incoming answer { s with port_leases := [] } with
  | mk outcome t =>
    rw [lease] at alike leased
    cases outcome with
    | error error =>
      left
      rw [bind_of_error lease]
      refine ⟨fun ready => ?_, rfl, cleared.trans alike⟩
      exact absurd (leased.mpr ready.1) (by simp [Except.isOk, Except.toBool])
    | ok _ =>
      rw [bind_of_ok lease, bind_of_ok (get_run _ t)]
      obtain ⟨alike', logged⟩ := @open_log_passes answer t
      have ready := leased.mp rfl
      cases opened : open_log answer t with
      | mk outcome u =>
        rw [opened] at alike' logged
        cases outcome with
        | error error =>
          left
          rw [bind_of_error opened]
          refine ⟨fun ready => ?_, rfl, (cleared.trans alike).trans alike'⟩
          exact absurd (logged.mpr ⟨ready.2.1, ready.2.2, trivial⟩) (by simp [Except.isOk, Except.toBool])
        | ok _ =>
          right
          obtain ⟨created, cloned, -⟩ := logged.mp rfl
          exact ⟨⟨ready, created, cloned⟩, _, u, (cleared.trans alike).trans alike', bind_of_ok opened⟩

/-- The part of a machine that its rows are about. -/
structure Life where
  child : Option Nat
  spawned : Nat
  rows : List Row

def life (vm : RiscVVirtualMachine) : Life := ⟨vm.child, vm.spawned, vm.rows⟩

theorem Alike.life (alike : Alike s t) : t.life = s.life := by
  rw [RiscVVirtualMachine.life, alike.child, alike.spawned, alike.rows, RiscVVirtualMachine.life]

/-- What a start makes of a machine without a process: nothing, a process without a row, or a process with its row. -/
inductive Started (answer : StartAnswer) (s : RiscVVirtualMachine) : Except SandboxError Unit → RiscVVirtualMachine → Prop
  | Unspawned {error : SandboxError} {t : RiscVVirtualMachine} (fails : ¬ Spawns answer s.config) (same : t.life = s.life) (rested : t.snapshot_sender = false) :
    Started answer s (.error error) t
  | Stranded {error : SandboxError} {t : RiscVVirtualMachine} (spawns : Spawns answer s.config) (fails : ¬ ComesUp answer s.config)
    (life : t.life = ⟨some s.spawned, s.spawned + 1, s.rows⟩) (rested : t.snapshot_sender = false) :
    Started answer s (.error error) t
  | Up {t : RiscVVirtualMachine} (spawns : Spawns answer s.config) (up : ComesUp answer s.config)
    (life : ∃ kernel memory_mb qemu args,
      t.life = ⟨some s.spawned, s.spawned + 1, s.rows ++ [⟨s.spawned, .Own (.Start kernel memory_mb qemu args)⟩]⟩)
    (rested : t.snapshot_sender = false) : Started answer s (.ok ()) t

theorem comes_up_alike (alike : Alike s t) : ComesUp answer t.config ↔ ComesUp answer s.config := by
  constructor
  · intro up
    refine ⟨fun host port serial => up.serial host port ?_, up.qmp, ?_, ?_⟩
    · rw [alike.serial]
      exact serial
    · rw [← alike.incoming_snapshot]
      exact up.running
    · rw [← alike.incoming_snapshot]
      exact up.sender
  · intro up
    refine ⟨fun host port serial => up.serial host port ?_, up.qmp, ?_, ?_⟩
    · rw [← alike.serial]
      exact serial
    · rw [alike.incoming_snapshot]
      exact up.running
    · rw [alike.incoming_snapshot]
      exact up.sender

/-- What is launched is spawned, and then comes up or leaves its process. -/
theorem launch_started (args : List String)
    (ready : (s.config.incoming_snapshot.isSome → answer.lease.isOk) ∧ answer.log_file.isOk ∧ answer.log_clone.isOk)
    (rested : s.snapshot_sender = false) (alike : Alike s t) :
    Started answer s (launch answer args t).1 (launch answer args t).2 := by
  obtain ⟨leased, created, cloned⟩ := ready
  have quiet : t.snapshot_sender = false := alike.snapshot_sender.trans rested
  unfold launch
  rw [bind_of_ok (get_run _ t)]
  cases spawned : answer.spawn with
  | error why =>
    have failed : spawn answer t = (.error (.Spawn (t.qemu_bin ++ " (" ++ why ++ ")")), t) := by
      unfold spawn
      rw [bind_of_ok (get_run _ t), spawned]
      rfl
    rw [bind_of_error failed]
    refine .Unspawned (fun spawns => ?_) alike.life quiet
    have ok := spawns.spawn
    rw [spawned] at ok
    cases ok
  | ok _ =>
    have spawns : Spawns answer s.config := ⟨leased, created, cloned, by rw [spawned]; rfl⟩
    have made : spawn answer t = (.ok ⟨⟩, { t with
        child := some t.spawned, spawned := t.spawned + 1
        snapshot_sender := t.snapshot_sender || t.config.incoming_snapshot.isSome }) := by
      unfold spawn
      rw [bind_of_ok (get_run _ t), spawned]
      rfl
    rw [bind_of_ok made]
    generalize following : ({ t with
        child := some t.spawned, spawned := t.spawned + 1
        snapshot_sender := t.snapshot_sender || t.config.incoming_snapshot.isSome } : RiscVVirtualMachine) = u
    have sending : u.snapshot_sender = u.config.incoming_snapshot.isSome := by
      rw [← following]
      simp [quiet]
    have config : u.config = t.config := by rw [← following]
    obtain ⟨alike', up⟩ := @come_up_spec answer u sending
    rw [config, comes_up_alike alike] at up
    have life : (come_up answer u).2.life = ⟨some s.spawned, s.spawned + 1, s.rows⟩ := by
      rw [alike'.life, ← following, ← alike.spawned, ← alike.rows]
      rfl
    have quiet' : (come_up answer u).2.snapshot_sender = false := alike'.snapshot_sender
    cases came : come_up answer u with
    | mk outcome v =>
      rw [came] at up life quiet'
      cases outcome with
      | error error =>
        rw [bind_of_error came]
        refine .Stranded spawns (fun comes => ?_) life quiet'
        cases up.mpr comes
      | ok _ =>
        rw [bind_of_ok came]
        refine .Up spawns (up.mp rfl) ?_ quiet'
        rw [bind_of_ok (get_run _ v)]
        simp only [RiscVVirtualMachine.life, Life.mk.injEq] at life
        obtain ⟨child, count, rows⟩ := life
        simp only [emit, modify_run, RiscVVirtualMachine.life, child, count, rows, alike.spawned]
        exact ⟨_, _, _, _, rfl⟩

/-- The ways a start can go where there is no process. -/
theorem start_started (free : s.child = none) (rested : s.snapshot_sender = false) :
    Started answer s (start answer s).1 (start answer s).2 := by
  rcases @start_cases answer s free with ⟨unready, failed, alike⟩ | ⟨ready, args, t, alike, launched⟩
  · cases started : start answer s with
    | mk outcome t =>
      rw [started] at failed alike
      cases outcome with
      | ok _ => cases failed
      | error error =>
        refine .Unspawned (fun spawns => unready ?_) alike.life (alike.snapshot_sender.trans rested)
        exact ⟨spawns.lease, spawns.log_file, spawns.log_clone⟩
  · rw [launched]
    exact launch_started args ready rested alike

/-- The row of a stop, where there is a process. -/
def stop_rows (child : Option Nat) : List Row :=
  match child with
  | some guest => [⟨guest, .Own .Stop⟩]
  | none => []

theorem stop_spec (s : RiscVVirtualMachine) :
    (stop s).1 = .ok () ∧ (stop s).2.life = ⟨none, s.spawned, s.rows ++ stop_rows s.child⟩ ∧
      (stop s).2.snapshot_sender = false := by
  unfold stop
  rw [bind_of_ok (get_run _ s), bind_of_ok (modify_run _ s)]
  cases child : s.child with
  | some guest => exact ⟨rfl, rfl, rfl⟩
  | none => exact ⟨rfl, by simp [life, stop_rows], rfl⟩

/-- A snapshot that cannot be read leaves the machine as it is. -/
theorem load_unread {name : String} {answer : LoadAnswer} {error : SandboxError}
    (unread : stored_config (Agent.display (s.snapshot_path name)) answer = .error error) :
    load_snapshot name answer s = (.error error, s) := by
  unfold load_snapshot
  rw [bind_of_ok (get_run _ s), unread]
  rfl

/-- The machine that a snapshot is started on. -/
def emptied (s : RiscVVirtualMachine) (config : VMConfig) : RiscVVirtualMachine := { (stop s).2 with config }

/-- A snapshot that can be read: a stop, and a start of the machine it tells of. -/
theorem load_read {name : String} {answer : LoadAnswer} {config : VMConfig}
    (stored : stored_config (Agent.display (s.snapshot_path name)) answer = .ok config) :
    (load_snapshot name answer s).2 =
      match start answer.start (s.emptied config) with
      | (.ok _, t) =>
        { t with rows := t.rows ++ [⟨t.child.getD t.spawned, .SnapshotLoad name (Agent.display (s.snapshot_path name))⟩] }
      | (.error _, t) => t := by
  have stopped : stop s = (.ok (), (stop s).2) := by rw [← (stop_spec s).1]
  unfold load_snapshot
  rw [bind_of_ok (get_run _ s), stored, bind_of_ok (ofExcept_run _ s), bind_of_ok stopped, bind_of_ok (modify_run _ _)]
  rw [show ({ (stop s).2 with config } : RiscVVirtualMachine) = s.emptied config from rfl]
  cases started : start answer.start (s.emptied config) with
  | mk outcome t =>
    cases outcome with
    | ok _ => rw [bind_of_ok started, bind_of_ok (get_run _ t)]; rfl
    | error error => rw [bind_of_error started]

theorem emptied_spec (s : RiscVVirtualMachine) (config : VMConfig) :
    (s.emptied config).life = ⟨none, s.spawned, s.rows ++ stop_rows s.child⟩ ∧ (s.emptied config).config = config ∧
      (s.emptied config).snapshot_sender = false :=
  ⟨(stop_spec s).2.1, rfl, (stop_spec s).2.2⟩

/-- The operation stops the machine first. -/
def Stops (s : RiscVVirtualMachine) : VmAct → Bool
  | .Start _ => false
  | .Stop => true
  | .Load name answer => (stored_config (Agent.display (s.snapshot_path name)) answer).isOk

/-- The operation spawns a process and fails after that. -/
def Strands (s : RiscVVirtualMachine) : VmAct → Prop
  | .Start answer => s.child = none ∧ Spawns answer s.config ∧ ¬ ComesUp answer s.config
  | .Stop => False
  | .Load name answer => ∃ config, stored_config (Agent.display (s.snapshot_path name)) answer = .ok config ∧
      Spawns answer.start config ∧ ¬ ComesUp answer.start config

end RiscVVirtualMachine

/-! ### Rows that pair -/

/-- The rows of starts and stops. -/
def lifecycle (rows : List Row) : List Row :=
  rows.filter fun row => row.event.action = "vm.start" ∨ row.event.action = "vm.stop"

/-- Starts and stops alternate, a start first, and the guest of each stop has a start before it. -/
structure RowsPair (rows : List Row) : Prop where
  alternate : ∀ (i : Nat) row, (lifecycle rows)[i]? = some row →
    row.event.action = if i % 2 = 0 then "vm.start" else "vm.stop"
  started : ∀ before row after, rows = before ++ row :: after → row.event.action = "vm.stop" →
    ∃ start ∈ before, start.guest = row.guest ∧ start.event.action = "vm.start"

/-- Rows as they come, with the guest that has started and not stopped. -/
inductive Paired : Option Nat → List Row → Prop
  | Empty : Paired none []
  | Start {rows : List Row} (paired : Paired none rows) (guest : Nat) (kernel : String) (memory_mb : Nat) (qemu : String)
    (args : List String) : Paired (some guest) (rows ++ [⟨guest, .Own (.Start kernel memory_mb qemu args)⟩])
  | Stop {rows : List Row} {guest : Nat} (paired : Paired (some guest) rows) :
    Paired none (rows ++ [⟨guest, .Own .Stop⟩])
  | Load {rows : List Row} {running : Option Nat} (paired : Paired running rows) (guest : Nat) (name path : String) :
    Paired running (rows ++ [⟨guest, .SnapshotLoad name path⟩])

theorem lifecycle_append (rows : List Row) (row : Row) :
    lifecycle (rows ++ [row]) =
      lifecycle rows ++ if row.event.action = "vm.start" ∨ row.event.action = "vm.stop" then [row] else [] := by
  rw [lifecycle, List.filter_append, List.filter_singleton, lifecycle]
  split_ifs <;> simp_all

/-- A row that fits where the rows are goes on with them. -/
theorem pair_append {rows : List Row} {last : Row} (pair : RowsPair rows)
    (fits : last.event.action = "vm.start" ∨ last.event.action = "vm.stop" →
      last.event.action = if (lifecycle rows).length % 2 = 0 then "vm.start" else "vm.stop")
    (begun : last.event.action = "vm.stop" → ∃ start ∈ rows, start.guest = last.guest ∧ start.event.action = "vm.start") :
    RowsPair (rows ++ [last]) := by
  constructor
  · intro i row found
    rw [lifecycle_append] at found
    by_cases counts : last.event.action = "vm.start" ∨ last.event.action = "vm.stop"
    · rw [if_pos counts, List.getElem?_append] at found
      by_cases earlier : i < (lifecycle rows).length
      · rw [if_pos earlier] at found
        exact pair.alternate i row found
      · rw [if_neg earlier, List.getElem?_singleton] at found
        split_ifs at found with first
        cases found
        have here : i = (lifecycle rows).length := by omega
        rw [here]
        exact fits counts
    · rw [if_neg counts, List.append_nil] at found
      exact pair.alternate i row found
  · intro before row after split stops
    rcases List.eq_nil_or_concat after with rfl | ⟨after, other, rfl⟩
    · obtain ⟨rfl, same⟩ := List.append_inj' split rfl
      cases same
      exact begun stops
    · rw [List.concat_eq_append, ← List.cons_append, ← List.append_assoc] at split
      obtain ⟨same, -⟩ := List.append_inj' split rfl
      exact pair.started before row after same stops

theorem paired_pair {running : Option Nat} {rows : List Row} (paired : Paired running rows) :
    RowsPair rows ∧ (lifecycle rows).length % 2 = (if running.isSome then 1 else 0) ∧
      ∀ guest, running = some guest → ∃ start ∈ rows, start.guest = guest ∧ start.event.action = "vm.start" := by
  induction paired with
  | Empty =>
    refine ⟨⟨fun i row found => ?_, fun before row after split => ?_⟩, rfl, fun guest same => by cases same⟩
    · simp [lifecycle] at found
    · simp at split
  | Start paired guest kernel memory_mb qemu args ih =>
    obtain ⟨pair, parity, -⟩ := ih
    refine ⟨pair_append pair (fun _ => ?_) (fun stops => ?_), ?_, fun other same => ?_⟩
    · rw [parity]
      rfl
    · simp [VmEvent.action, SandboxEvent.action] at stops
    · rw [lifecycle_append, if_pos (.inl rfl), List.length_append, Nat.add_mod, parity]
      simp
    · cases same
      exact ⟨_, List.mem_append_right _ (List.mem_singleton_self _), rfl, rfl⟩
  | Stop paired ih =>
    obtain ⟨pair, parity, started⟩ := ih
    refine ⟨pair_append pair (fun _ => ?_) (fun _ => started _ rfl), ?_, fun other same => by cases same⟩
    · rw [parity]
      rfl
    · rw [lifecycle_append, if_pos (.inr rfl), List.length_append, Nat.add_mod, parity]
      simp
  | Load paired guest name path ih =>
    obtain ⟨pair, parity, started⟩ := ih
    have other : ¬ ((VmEvent.SnapshotLoad name path).action = "vm.start" ∨ (VmEvent.SnapshotLoad name path).action = "vm.stop") := by
      simp [VmEvent.action]
    refine ⟨pair_append pair (fun counts => absurd counts other) (fun stops => absurd (.inr stops) other), ?_, ?_⟩
    · rw [lifecycle_append, if_neg other, List.append_nil]
      exact parity
    · intro guest same
      obtain ⟨start, there, begun⟩ := started guest same
      exact ⟨start, List.mem_append_left _ there, begun⟩

/-! ### Where a run of a machine stands -/

namespace RiscVVirtualMachine
variable {s : RiscVVirtualMachine} {a : VmAct}

/-- Between operations, every row is of a guest that was spawned, and no snapshot is sent. -/
structure Sane (s : RiscVVirtualMachine) : Prop where
  rows : ∀ row ∈ s.rows, row.guest < s.spawned
  child : ∀ guest, s.child = some guest → guest < s.spawned
  rested : s.snapshot_sender = false

/-- The rows pair, and the guest that has started is the one that is there. -/
def Settled (s : RiscVVirtualMachine) : Prop := Paired s.child s.rows

/-- The rows pair, but the guest that is there has none. -/
def Stranded (s : RiscVVirtualMachine) : Prop :=
  Paired none s.rows ∧ ∃ guest, s.child = some guest ∧ ∀ row ∈ s.rows, row.guest ≠ guest

/-- A stop was written for a guest without a row. -/
def Orphaned (rows : List Row) : Prop :=
  ∃ before guest after, rows = before ++ ⟨guest, .Own .Stop⟩ :: after ∧ ∀ row ∈ before, row.guest ≠ guest

theorem orphaned_wrong {rows : List Row} (orphaned : Orphaned rows) : ¬ RowsPair rows := by
  rintro pair
  obtain ⟨before, guest, after, split, unknown⟩ := orphaned
  obtain ⟨start, there, same, -⟩ := pair.started before _ after split rfl
  exact unknown start there same

theorem Orphaned.append {rows : List Row} (orphaned : Orphaned rows) (more : List Row) : Orphaned (rows ++ more) := by
  obtain ⟨before, guest, after, split, unknown⟩ := orphaned
  exact ⟨before, guest, after ++ more, by rw [split]; simp, unknown⟩

/-- The guest and the rows once the operation has stopped the machine, where it does. -/
def freed (s : RiscVVirtualMachine) (a : VmAct) : Option Nat × List Row :=
  if s.Stops a then (none, s.rows ++ stop_rows s.child) else (s.child, s.rows)

/-- What an operation does: after the stop, if it stops, there is nothing more, or a guest without a row, or one with its row. -/
inductive Effect (s : RiscVVirtualMachine) (a : VmAct) (t : RiscVVirtualMachine) : Prop
  | Quiet (safe : ¬ s.Strands a) (life : t.life = ⟨(s.freed a).1, s.spawned, (s.freed a).2⟩)
  | Stranding (free : (s.freed a).1 = none) (strands : s.Strands a)
    (life : t.life = ⟨some s.spawned, s.spawned + 1, (s.freed a).2⟩)
  | Starting (free : (s.freed a).1 = none) (safe : ¬ s.Strands a) (kernel : String) (memory_mb : Nat) (qemu : String)
    (args : List String)
    (life : t.life = ⟨some s.spawned, s.spawned + 1,
      (s.freed a).2 ++ [⟨s.spawned, .Own (.Start kernel memory_mb qemu args)⟩]⟩)
  | Loading (free : (s.freed a).1 = none) (safe : ¬ s.Strands a) (kernel : String) (memory_mb : Nat) (qemu : String)
    (args : List String) (name path : String)
    (life : t.life = ⟨some s.spawned, s.spawned + 1, (s.freed a).2 ++ [⟨s.spawned, .Own (.Start kernel memory_mb qemu args)⟩] ++
      [⟨s.spawned, .SnapshotLoad name path⟩]⟩)

theorem life_eq {child : Option Nat} {spawned : Nat} {rows : List Row} (same : s.life = ⟨child, spawned, rows⟩) :
    s.child = child ∧ s.spawned = spawned ∧ s.rows = rows := by
  simpa only [life, Life.mk.injEq] using same

theorem start_effect {answer : StartAnswer} (rested : s.snapshot_sender = false) :
    Effect s (.Start answer) (s.step (.Start answer)) ∧ (s.step (.Start answer)).snapshot_sender = false := by
  have stepped : s.step (.Start answer) = (start answer s).2 := rfl
  have freed_eq : s.freed (.Start answer) = (s.child, s.rows) := rfl
  rw [stepped]
  cases child : s.child with
  | some guest =>
    rw [start_running (by simp [child])]
    refine ⟨.Quiet (fun strands => ?_) (by rw [freed_eq]; rfl), rested⟩
    have free := strands.1
    rw [child] at free
    cases free
  | none =>
    have started := @start_started answer s child rested
    cases ran : start answer s with
    | mk outcome t =>
      rw [ran] at started
      cases started with
      | Unspawned fails same rested =>
        exact ⟨.Quiet (fun strands => fails strands.2.1) (by rw [freed_eq]; exact same), rested⟩
      | Stranded spawns fails life rested =>
        exact ⟨.Stranding (by rw [freed_eq]; exact child) ⟨child, spawns, fails⟩ (by rw [freed_eq]; exact life), rested⟩
      | Up spawns up life rested =>
        obtain ⟨kernel, memory_mb, qemu, args, life⟩ := life
        exact ⟨.Starting (by rw [freed_eq]; exact child) (fun strands => strands.2.2 up) kernel memory_mb qemu args
          (by rw [freed_eq]; exact life), rested⟩

theorem stop_effect : Effect s .Stop (s.step .Stop) ∧ (s.step .Stop).snapshot_sender = false := by
  obtain ⟨-, life, rested⟩ := stop_spec s
  have freed_eq : s.freed .Stop = (none, s.rows ++ stop_rows s.child) := rfl
  exact ⟨.Quiet id (by rw [freed_eq]; exact life), rested⟩

theorem load_effect {name : String} {answer : LoadAnswer} (rested : s.snapshot_sender = false) :
    Effect s (.Load name answer) (s.step (.Load name answer)) ∧ (s.step (.Load name answer)).snapshot_sender = false := by
  have stepped : s.step (.Load name answer) = (load_snapshot name answer s).2 := rfl
  rw [stepped]
  cases stored : stored_config (Agent.display (s.snapshot_path name)) answer with
  | error error =>
    have stays : ¬ s.Stops (.Load name answer) := by simp [Stops, stored, Except.isOk, Except.toBool]
    have freed_eq : s.freed (.Load name answer) = (s.child, s.rows) := if_neg stays
    rw [load_unread stored]
    refine ⟨.Quiet (fun strands => ?_) (by rw [freed_eq]; rfl), rested⟩
    obtain ⟨config, read, -⟩ := strands
    rw [stored] at read
    cases read
  | ok config =>
    have stops : s.Stops (.Load name answer) := by simp [Stops, stored, Except.isOk, Except.toBool]
    have freed_eq : s.freed (.Load name answer) = (none, s.rows ++ stop_rows s.child) := if_pos stops
    obtain ⟨emptied_life, emptied_config, emptied_rested⟩ := emptied_spec s config
    obtain ⟨free, count, rows⟩ := life_eq emptied_life
    rw [load_read stored]
    have started := @start_started answer.start (s.emptied config) free emptied_rested
    have strands_iff : s.Strands (.Load name answer) ↔ Spawns answer.start config ∧ ¬ ComesUp answer.start config := by
      simp [Strands, stored]
    cases ran : start answer.start (s.emptied config) with
    | mk outcome t =>
      rw [ran] at started
      rw [Prod.fst, Prod.snd] at started
      cases started with
      | Unspawned fails same rested =>
        rw [emptied_config] at fails
        refine ⟨.Quiet (fun strands => fails (strands_iff.mp strands).1) ?_, rested⟩
        rw [freed_eq]
        exact same.trans emptied_life
      | Stranded spawns fails life rested =>
        rw [emptied_config] at spawns fails
        refine ⟨.Stranding (by rw [freed_eq]) (strands_iff.mpr ⟨spawns, fails⟩) ?_, rested⟩
        rw [freed_eq, ← rows, ← count]
        exact life
      | Up spawns up life rested =>
        rw [emptied_config] at spawns up
        obtain ⟨kernel, memory_mb, qemu, args, life⟩ := life
        have made : t.life = _ := life
        obtain ⟨child', count', rows'⟩ := life_eq made
        refine ⟨.Loading (by rw [freed_eq]) (fun strands => (strands_iff.mp strands).2 up) kernel memory_mb qemu args name
          (Agent.display (s.snapshot_path name)) ?_, rested⟩
        rw [freed_eq, ← rows, ← count]
        simp only [RiscVVirtualMachine.life, child', count', rows', Option.getD_some]

/-- What every operation does. -/
theorem step_effect (rested : s.snapshot_sender = false) : Effect s a (s.step a) ∧ (s.step a).snapshot_sender = false := by
  cases a with
  | Start answer => exact start_effect rested
  | Stop => exact stop_effect
  | Load name answer => exact load_effect rested

/-! ### What a run writes -/

theorem freed_rows (s : RiscVVirtualMachine) (a : VmAct) : s.rows <+: (s.freed a).2 := by
  unfold freed
  split_ifs
  · exact List.prefix_append _ _
  · exact List.prefix_refl _

theorem freed_sane (sane : s.Sane) : (∀ row ∈ (s.freed a).2, row.guest < s.spawned) ∧
    ∀ guest, (s.freed a).1 = some guest → guest < s.spawned := by
  unfold freed
  split_ifs with stops
  · refine ⟨fun row inside => ?_, fun guest same => by cases same⟩
    rcases List.mem_append.mp inside with old | last
    · exact sane.rows row old
    · cases child : s.child with
      | none => simp [stop_rows, child] at last
      | some guest =>
        simp only [stop_rows, child, List.mem_singleton] at last
        rw [last]
        exact sane.child guest child
  · exact ⟨sane.rows, sane.child⟩

/-- The rows go on from what the stop left of them. -/
theorem step_rows (sane : s.Sane) : (s.freed a).2 <+: (s.step a).rows := by
  cases (step_effect sane.rested).1 with
  | Quiet safe life => rw [(life_eq life).2.2]
  | Stranding free strands life => rw [(life_eq life).2.2]
  | Starting free safe kernel memory_mb qemu args life =>
    rw [(life_eq life).2.2]
    exact List.prefix_append _ _
  | Loading free safe kernel memory_mb qemu args name path life =>
    rw [(life_eq life).2.2, List.append_assoc]
    exact List.prefix_append _ _

theorem step_sane (sane : s.Sane) : (s.step a).Sane := by
  obtain ⟨rows, child⟩ := freed_sane (a := a) sane
  obtain ⟨effect, rested⟩ := step_effect (a := a) sane.rested
  cases effect with
  | Quiet safe life =>
    obtain ⟨child', count, rows'⟩ := life_eq life
    exact ⟨by rw [rows', count]; exact rows, by rw [child', count]; exact child, rested⟩
  | Stranding free strands life =>
    obtain ⟨child', count, rows'⟩ := life_eq life
    refine ⟨fun row inside => ?_, fun guest same => ?_, rested⟩
    · rw [rows'] at inside
      have old := rows row inside
      omega
    · rw [child'] at same
      cases same
      omega
  | Starting free safe kernel memory_mb qemu args life =>
    obtain ⟨child', count, rows'⟩ := life_eq life
    refine ⟨fun row inside => ?_, fun guest same => ?_, rested⟩
    · rw [rows', List.mem_append, List.mem_singleton] at inside
      rcases inside with old | rfl
      · have old := rows row old
        omega
      · simp [count]
    · rw [child'] at same
      cases same
      omega
  | Loading free safe kernel memory_mb qemu args name path life =>
    obtain ⟨child', count, rows'⟩ := life_eq life
    refine ⟨fun row inside => ?_, fun guest same => ?_, rested⟩
    · rw [rows', List.mem_append, List.mem_append, List.mem_singleton, List.mem_singleton] at inside
      rcases inside with (old | rfl) | rfl
      · have old := rows row old
        omega
      · simp [count]
      · simp [count]
    · rw [child'] at same
      cases same
      omega

theorem freed_paired (settled : s.Settled) : Paired (s.freed a).1 (s.freed a).2 := by
  unfold Settled at settled
  unfold freed
  split_ifs with stops
  · cases child : s.child with
    | none =>
      rw [child] at settled
      simpa [stop_rows] using settled
    | some guest =>
      rw [child] at settled
      exact .Stop settled
  · exact settled

/-- An operation that strands no guest leaves the machine settled. -/
theorem settled_step (sane : s.Sane) (settled : s.Settled) (safe : ¬ s.Strands a) : (s.step a).Settled := by
  have paired := freed_paired (a := a) settled
  unfold Settled
  cases (step_effect (a := a) sane.rested).1 with
  | Quiet safe life =>
    obtain ⟨child, -, rows⟩ := life_eq life
    rw [child, rows]
    exact paired
  | Stranding free strands life => exact absurd strands safe
  | Starting free safe kernel memory_mb qemu args life =>
    obtain ⟨child, -, rows⟩ := life_eq life
    rw [child, rows]
    rw [free] at paired
    exact .Start paired _ _ _ _ _
  | Loading free safe kernel memory_mb qemu args name path life =>
    obtain ⟨child, -, rows⟩ := life_eq life
    rw [child, rows]
    rw [free] at paired
    exact .Load (.Start paired _ _ _ _ _) _ _ _

theorem settled_strands (sane : s.Sane) (settled : s.Settled) (strands : s.Strands a) : (s.step a).Stranded := by
  have paired := freed_paired (a := a) settled
  obtain ⟨numbered, -⟩ := freed_sane (a := a) sane
  cases (step_effect (a := a) sane.rested).1 with
  | Stranding free strands life =>
    obtain ⟨child, -, rows⟩ := life_eq life
    rw [free] at paired
    refine ⟨by rw [rows]; exact paired, s.spawned, child, fun row inside => ?_⟩
    rw [rows] at inside
    have known := numbered row inside
    omega
  | Quiet safe life => exact absurd strands safe
  | Starting free safe kernel memory_mb qemu args life => exact absurd strands safe
  | Loading free safe kernel memory_mb qemu args name path life => exact absurd strands safe

/-- A guest without a row stays until the machine is stopped. -/
theorem stranded_step (sane : s.Sane) (stranded : s.Stranded) (stays : ¬ s.Stops a) : (s.step a).Stranded ∧ ¬ s.Strands a := by
  obtain ⟨paired, guest, there, unknown⟩ := stranded
  have freed_eq : s.freed a = (s.child, s.rows) := if_neg stays
  have busy : (s.freed a).1 ≠ none := by
    rw [freed_eq, there]
    exact Option.some_ne_none guest
  cases (step_effect (a := a) sane.rested).1 with
  | Quiet safe life =>
    obtain ⟨child, -, rows⟩ := life_eq life
    rw [freed_eq] at child rows
    refine ⟨⟨by rw [rows]; exact paired, guest, child.trans there, by rw [rows]; exact unknown⟩, safe⟩
  | Stranding free strands life => exact absurd free busy
  | Starting free safe kernel memory_mb qemu args life => exact absurd free busy
  | Loading free safe kernel memory_mb qemu args name path life => exact absurd free busy

theorem orphaned_prefix {rows more : List Row} (orphaned : Orphaned rows) (goes_on : rows <+: more) : Orphaned more := by
  obtain ⟨rest, rfl⟩ := goes_on
  exact orphaned.append rest

/-- The stop of a guest without a row is written all the same. -/
theorem stranded_stops (sane : s.Sane) (stranded : s.Stranded) (stops : s.Stops a) : Orphaned (s.step a).rows := by
  obtain ⟨paired, guest, there, unknown⟩ := stranded
  refine orphaned_prefix ?_ (step_rows sane)
  have freed_eq : s.freed a = (none, s.rows ++ stop_rows s.child) := if_pos stops
  rw [freed_eq, there]
  exact ⟨s.rows, guest, [], rfl, unknown⟩

theorem run_rows {acts : List VmAct} (sane : s.Sane) : s.rows <+: (run step s acts).rows := by
  induction acts generalizing s with
  | nil => exact List.prefix_refl _
  | cons a acts ih => exact ((freed_rows s a).trans (step_rows sane)).trans (ih (step_sane sane))

variable {acts : List VmAct}

/-- A stranded guest is orphaned by the first operation that stops the machine. -/
theorem stranded_run (sane : s.Sane) (stranded : s.Stranded) :
    Allowed step (fun t b => ¬ t.Stops b) s acts ∧ (run step s acts).Stranded ∨
      ¬ Allowed step (fun t b => ¬ t.Stops b) s acts ∧ Orphaned (run step s acts).rows := by
  induction acts generalizing s with
  | nil => exact .inl ⟨trivial, stranded⟩
  | cons a acts ih =>
    rw [allowed_cons, run_cons]
    by_cases stops : s.Stops a = true
    · right
      exact ⟨fun allowed => allowed.1 stops, orphaned_prefix (stranded_stops sane stranded stops) (run_rows (step_sane sane))⟩
    · rcases ih (step_sane (a := a) sane) (stranded_step sane stranded stops).1 with ⟨allowed, later⟩ | ⟨refused, later⟩
      · exact .inl ⟨⟨stops, allowed⟩, later⟩
      · exact .inr ⟨fun allowed => refused allowed.2, later⟩

/-- No operation stops the machine after one that has stranded its guest. -/
def LeftAlone (s : RiscVVirtualMachine) (acts : List VmAct) : Prop :=
  ∀ before a after, acts = before ++ a :: after → (run step s before).Strands a →
    Allowed step (fun t b => ¬ t.Stops b) (run step s (before ++ [a])) after

theorem leftAlone_cons {a : VmAct} : LeftAlone s (a :: acts) ↔
    (s.Strands a → Allowed step (fun t b => ¬ t.Stops b) (s.step a) acts) ∧ LeftAlone (s.step a) acts := by
  constructor
  · intro alone
    refine ⟨alone [] a acts rfl, fun before b after split => ?_⟩
    have later := alone (a :: before) b after (by rw [split, List.cons_append])
    rwa [run_cons, List.cons_append, run_cons] at later
  · rintro ⟨first, later⟩ before b after split
    cases before with
    | nil =>
      cases split
      exact first
    | cons c before =>
      rw [List.cons_append] at split
      cases split
      rw [run_cons, List.cons_append, run_cons]
      exact later before b after rfl

/-- While a stranded guest is there, no other operation strands one. -/
theorem stranded_alone (sane : s.Sane) (stranded : s.Stranded) (alone : Allowed step (fun t b => ¬ t.Stops b) s acts) :
    LeftAlone s acts := by
  induction acts generalizing s with
  | nil => intro before a after split; simp at split
  | cons a acts ih =>
    obtain ⟨stays, later⟩ := alone
    obtain ⟨stranded', safe⟩ := stranded_step sane stranded stays
    exact leftAlone_cons.mpr ⟨fun strands => absurd strands safe, ih (step_sane sane) stranded' later⟩

theorem settled_run (sane : s.Sane) (settled : s.Settled) : RowsPair (run step s acts).rows ↔ LeftAlone s acts := by
  induction acts generalizing s with
  | nil =>
    refine ⟨fun _ before a after split => ?_, fun _ => (paired_pair settled).1⟩
    simp at split
  | cons a acts ih =>
    rw [leftAlone_cons, run_cons]
    by_cases strands : s.Strands a
    · have stranded := settled_strands sane settled strands
      have sane' := step_sane (a := a) sane
      rcases @stranded_run _ acts sane' stranded with ⟨allowed, later⟩ | ⟨refused, later⟩
      · exact ⟨fun _ => ⟨fun _ => allowed, stranded_alone sane' stranded allowed⟩, fun _ => (paired_pair later.1).1⟩
      · exact ⟨fun pair => absurd pair (orphaned_wrong later), fun alone => absurd (alone.1 strands) refused⟩
    · rw [ih (step_sane sane) (settled_step sane settled strands)]
      exact ⟨fun alone => ⟨fun bad => absurd bad strands, alone⟩, fun both => both.2⟩

/-- A machine as it is made, or as it comes out of a resume. -/
def Born (s : RiscVVirtualMachine) : Prop :=
  (∃ answer config, new answer config = .ok s) ∨
    ∃ config path path_exists answers, resume_from_snapshot_real config path path_exists answers = .ok s

theorem new_settled {answer : MadeAnswer} {config : VMConfig} (made : new answer config = .ok s) :
    s.Sane ∧ s.Settled ∧ s.child = none := by
  unfold new at made
  split_ifs at made
  cases made
  refine ⟨⟨fun row inside => ?_, fun guest same => ?_, rfl⟩, .Empty, rfl⟩
  · cases inside
  · cases same

theorem boot_settled {answer : MadeAnswer} {config : VMConfig} (booted : boot config answer = .ok s) : s.Sane ∧ s.Settled := by
  unfold boot at booted
  cases made : new answer config with
  | error error =>
    rw [made] at booted
    cases booted
  | ok vm =>
    obtain ⟨sane, settled, free⟩ := new_settled made
    rw [made] at booted
    have same : (step vm (.Start answer.start)) = (start answer.start vm).2 := rfl
    have started := @start_started answer.start vm free sane.rested
    cases ran : start answer.start vm with
    | mk outcome t =>
      simp only [ran] at booted started same
      cases started with
      | Unspawned fails life rested => cases booted
      | Stranded spawns fails life rested => cases booted
      | Up spawns up life rested =>
        cases booted
        rw [← same]
        exact ⟨step_sane sane, settled_step sane settled fun strands => strands.2.2 up⟩

theorem resume_settled {config : VMConfig} {answers : Nat → MadeAnswer} {left attempt : Nat} {reasons : List String}
    (resumed : resume_attempts config answers left attempt reasons = .ok s) : s.Sane ∧ s.Settled := by
  induction left generalizing attempt reasons with
  | zero => cases resumed
  | succ left ih =>
    rw [resume_attempts] at resumed
    cases booted : boot config (answers attempt) with
    | ok vm =>
      rw [booted] at resumed
      cases resumed
      exact boot_settled booted
    | error error =>
      rw [booted] at resumed
      exact ih resumed

/-- The rows of a machine pair exactly where it is never stopped after a start that failed with its guest spawned. -/
theorem rows_pair_iff (born : Born s) : RowsPair (run step s acts).rows ↔ LeftAlone s acts := by
  rcases born with ⟨answer, config, made⟩ | ⟨config, path, path_exists, answers, resumed⟩
  · obtain ⟨sane, settled, -⟩ := new_settled made
    exact settled_run sane settled
  · unfold resume_from_snapshot_real at resumed
    split_ifs at resumed
    obtain ⟨sane, settled⟩ := resume_settled resumed
    exact settled_run sane settled

/-! ### A machine on two ports -/

def two_ports : VMConfig := ⟨"guest.elf", 128, .Tcp "127.0.0.1" 5000, .Tcp "127.0.0.1" 5001, [], none, none, none⟩

/-- A start whose QMP connection comes to what is given, all else going well. -/
def answering (qmp_connect : Except SandboxError Unit) : StartAnswer :=
  ⟨.ok 5002, "qemu.log", .ok (), .ok (), .ok (), .ok (), .ok (), qmp_connect, none, .ok "running", [], none⟩

def made : MadeAnswer := ⟨true, "qemu-system-riscv64", true, "", answering (.ok ())⟩

def fresh : RiscVVirtualMachine := ⟨two_ports, "qemu-system-riscv64", none, false, false, false, false, none, [], 0, []⟩

theorem fresh_born : Born fresh := .inl ⟨made, two_ports, rfl⟩

/-- A start, a stop and another start, each going well. -/
theorem restarted_rows :
    RowsPair (run step fresh [.Start (answering (.ok ())), .Stop, .Start (answering (.ok ()))]).rows := by
  refine (rows_pair_iff fresh_born).mpr ?_
  have up : ComesUp (answering (.ok ())) two_ports := ⟨fun _ _ _ => ⟨rfl, rfl⟩, rfl, nofun, nofun⟩
  refine leftAlone_cons.mpr ⟨fun strands => absurd up strands.2.2, leftAlone_cons.mpr ⟨fun strands => strands.elim, ?_⟩⟩
  refine leftAlone_cons.mpr ⟨fun _ => trivial, fun before a after split => ?_⟩
  simp at split

/-- A start whose QMP connection is refused, and the stop after it: a stop is written, and no start. -/
theorem refused_start_stopped :
    Born fresh ∧
      (run step fresh [.Start (answering (.error (.Timeout "qmp"))), .Stop]).rows = [⟨0, .Own .Stop⟩] ∧
      ¬ RowsPair (run step fresh [.Start (answering (.error (.Timeout "qmp"))), .Stop]).rows := by
  have rows : (run step fresh [.Start (answering (.error (.Timeout "qmp"))), .Stop]).rows = [⟨0, .Own .Stop⟩] := rfl
  refine ⟨fresh_born, rows, fun pair => ?_⟩
  rw [rows] at pair
  obtain ⟨start, there, -⟩ := pair.started [] _ [] rfl rfl
  cases there

end RiscVVirtualMachine

end Riscdom.Sandbox.VmRows
