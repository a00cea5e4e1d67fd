import Riscdom.Policy
import Riscdom.PortLeases

/-!
The start of a virtual machine on two ports of its own: they are leased, the
machine is made, the listeners are let go and the machine is started; what fails
then is tried again on fresh ports. Whatever comes of it, the process reserves
afterwards what it reserved before.
-/
namespace Riscdom.Sandbox

def SandboxError.display : SandboxError → String
  | .Spawn m => "failed to spawn QEMU: " ++ m
  | .Io m => "io error: " ++ m
  | .Serial m => "serial error: " ++ m
  | .Qmp m => "qmp error: " ++ m
  | .Timeout m => "timed out: " ++ m
  | .Config m => "invalid config: " ++ m
  | .NotRunning => "the virtual machine is not running"
  | .AlreadyRunning => "the virtual machine is already running"
  | .Snapshot m => "snapshot error: " ++ m
  | .Relay m => "relay error: " ++ m
  | .PortLease m => "port lease error: " ++ m
  | .RelayTimeout m => "relay timeout: " ++ m
  | .Unsupported m => "unsupported: " ++ m
  | .QemuNotFound diagnostics => diagnostics

/-! ### The ports of one call -/

/-- The numbers that the process reserves, and how many binds the call has made. -/
structure PortPool where
  held : Finset UInt16
  bound : Nat
deriving DecidableEq

/-- Leases dropped. -/
def PortPool.release (ports : List UInt16) (pool : PortPool) : PortPool := { pool with held := pool.held \ ports.toFinset }

section
variable (binds : Nat → Except String UInt16)

/-- The binds for one port, as many as are left; none where they are used up. -/
def lease_port (made : List UInt16) : Nat → PortPool → Except SandboxError (Option UInt16) × PortPool
  | 0, pool => (.ok none, pool)
  | tries + 1, pool =>
    let after : PortPool := { pool with bound := pool.bound + 1 }
    match binds pool.bound with
    | .error why => (.error (.PortLease why), after)
    | .ok port =>
      if port ∈ made ∨ port ∈ pool.held then lease_port made tries after
      else (.ok (some port), { after with held := insert port pool.held })

/-- The leases still to be made beside those that were; a call that fails drops what it made. -/
def lease_ports (attempts : Nat) (made : List UInt16) : Nat → PortPool → Except SandboxError (List UInt16) × PortPool
  | 0, pool => (.ok made, pool)
  | count + 1, pool =>
    match lease_port binds made attempts pool with
    | (.error error, after) => (.error error, after.release made)
    | (.ok none, after) =>
      (.error (.PortLease ("no free loopback port after " ++ toString attempts ++ " attempts (" ++
        toString made.length ++ " already reserved by this process)")), after.release made)
    | (.ok (some port), after) => lease_ports attempts (made ++ [port]) count after

def lease_local_ports (count : Nat) (pool : PortPool) : Except SandboxError (List UInt16) × PortPool :=
  lease_ports binds MAX_LEASE_ATTEMPTS [] count pool

end

/-! ### Machines -/

structure Endpoint where
  host : String
  port : UInt16
deriving DecidableEq

def Endpoint.tcp (host : String) (port : UInt16) : Endpoint := ⟨host, port⟩

structure VMConfig where
  kernel : String
  memory_mb : Nat
  qmp : Endpoint
  serial : Endpoint
  snapshot_dir : List Agent.Component
  qemu_exe : Option String
deriving DecidableEq

structure RiscVVirtualMachine where
  config : VMConfig
  qemu_bin : String
deriving DecidableEq

/-- What the system answers while one machine is made and started. -/
structure StartAnswer where
  path_exists : String → Bool
  is_file : String → Bool
  resolve_qemu_binary : String
  diagnostics : String
  started : Except SandboxError Unit

def RiscVVirtualMachine.new (answer : StartAnswer) (config : VMConfig) : Except SandboxError RiscVVirtualMachine :=
  let qemu_bin := config.qemu_exe.getD answer.resolve_qemu_binary
  if ¬ answer.path_exists config.kernel then .error (.Config ("kernel not found: " ++ config.kernel))
  else if ¬ answer.is_file qemu_bin then .error (.QemuNotFound answer.diagnostics)
  else .ok { config, qemu_bin }

/-- A machine made and started. -/
def boot (answer : StartAnswer) (config : VMConfig) : Except SandboxError RiscVVirtualMachine :=
  match RiscVVirtualMachine.new answer config with
  | .error error => .error error
  | .ok vm => answer.started.map fun _ => vm

def START_ATTEMPTS : Nat := 3

section
variable (binds : Nat → Except String UInt16) (starts : Nat → StartAnswer) (config : UInt16 → UInt16 → VMConfig)

/-- The attempts that are left, from one of a number on: a lease that fails ends them, and else what the last one failed
    with is told where none succeeds. -/
def start_attempts : Nat → Nat → String → PortPool → Except SandboxError (Except String RiscVVirtualMachine) × PortPool
  | 0, _, last_error, pool => (.ok (.error last_error), pool)
  | left + 1, attempt, _, pool =>
    match lease_local_ports binds 2 pool with
    | (.error error, after) => (.error error, after)
    | (.ok ports, after) =>
      -- The leases are taken from the end, and dropped when the attempt is over.
      let (qmp, serial) := (ports.getD 0 0, ports.getD 1 0)
      match boot (starts attempt) (config qmp serial) with
      | .ok vm => (.ok (.ok vm), after.release ports)
      | .error error =>
        start_attempts left (attempt + 1) ("attempt " ++ toString attempt ++ ": " ++ error.display) (after.release ports)

def start_on_fresh_ports (pool : PortPool) : Except SandboxError (Except String RiscVVirtualMachine) × PortPool :=
  start_attempts binds starts config START_ATTEMPTS 1 "unknown error" pool

/-- Of the attempts that are left, each one that is made gets its two ports. -/
def Leasable : Nat → Nat → PortPool → Prop
  | 0, _, _ => True
  | left + 1, attempt, pool =>
    match lease_local_ports binds 2 pool with
    | (.error _, _) => False
    | (.ok ports, after) =>
      (boot (starts attempt) (config (ports.getD 0 0) (ports.getD 1 0))).toBool ∨
        Leasable left (attempt + 1) (after.release ports)

end

/-! ### What the process reserves -/

/-- Beside what was reserved before, the leases made so far are reserved: distinct numbers that were free. -/
structure Leased (base : Finset UInt16) (made : List UInt16) (pool : PortPool) : Prop where
  distinct : made.Nodup
  free : ∀ port ∈ made, port ∉ base
  held : pool.held = base ∪ made.toFinset

theorem Leased.start (pool : PortPool) : Leased pool.held [] pool := ⟨List.nodup_nil, nofun, by simp⟩

/-- What is left when the leases are dropped is what there was. -/
theorem Leased.release {base : Finset UInt16} {made : List UInt16} {pool : PortPool} (leased : Leased base made pool) :
    (pool.release made).held = base := by
  rw [PortPool.release, leased.held]
  ext port
  simp only [Finset.mem_sdiff, Finset.mem_union, List.mem_toFinset]
  constructor
  · rintro ⟨old | new, kept⟩
    · exact old
    · exact absurd new kept
  · intro old
    exact ⟨.inl old, fun new => leased.free port new old⟩

variable {binds : Nat → Except String UInt16}

/-- A port that is leased was free, and it alone is reserved in addition. -/
theorem lease_port_spec {made : List UInt16} {tries : Nat} {pool after : PortPool}
    {result : Except SandboxError (Option UInt16)} (leasing : lease_port binds made tries pool = (result, after)) :
    (∃ port, result = .ok (some port) ∧ port ∉ made ∧ port ∉ pool.held ∧ after.held = insert port pool.held) ∨
      (∀ port, result ≠ .ok (some port)) ∧ after.held = pool.held := by
  induction tries generalizing pool with
  | zero =>
    simp only [lease_port, Prod.mk.injEq] at leasing
    obtain ⟨rfl, rfl⟩ := leasing
    exact .inr ⟨by simp, rfl⟩
  | succ tries ih =>
    simp only [lease_port] at leasing
    cases bound : binds pool.bound with
    | error why =>
      simp only [bound, Prod.mk.injEq] at leasing
      obtain ⟨rfl, rfl⟩ := leasing
      exact .inr ⟨by simp, rfl⟩
    | ok port =>
      simp only [bound] at leasing
      by_cases taken : port ∈ made ∨ port ∈ pool.held
      · rw [if_pos taken] at leasing
        have later := ih leasing
        exact later
      · rw [if_neg taken, Prod.mk.injEq] at leasing
        obtain ⟨rfl, rfl⟩ := leasing
        obtain ⟨new, free⟩ := not_or.mp taken
        exact .inl ⟨port, rfl, new, free, rfl⟩

/-- The leases of a call that succeeds are reserved in addition; one that fails leaves what there was. -/
theorem lease_ports_spec {base : Finset UInt16} {attempts count : Nat} {made : List UInt16} {pool after : PortPool}
    {result : Except SandboxError (List UInt16)} (leased : Leased base made pool)
    (leasing : lease_ports binds attempts made count pool = (result, after)) :
    match result with
    | .ok ports => ports.length = made.length + count ∧ Leased base ports after
    | .error _ => after.held = base := by
  induction count generalizing made pool with
  | zero =>
    simp only [lease_ports, Prod.mk.injEq] at leasing
    obtain ⟨rfl, rfl⟩ := leasing
    exact ⟨rfl, leased⟩
  | succ count ih =>
    simp only [lease_ports] at leasing
    cases one : lease_port binds made attempts pool with
    | mk got then_ =>
      rcases lease_port_spec one with ⟨port, rfl, new, free, held⟩ | ⟨none_got, held⟩
      · simp only [one] at leasing
        have more : Leased base (made ++ [port]) then_ := by
          refine ⟨?_, ?_, ?_⟩
          · refine List.nodup_append.mpr ⟨leased.distinct, List.nodup_singleton _, ?_⟩
            rintro old inside last once rfl
            exact new (List.mem_singleton.mp once ▸ inside)
          · intro other inside
            rcases List.mem_append.mp inside with old | last
            · exact leased.free other old
            · obtain rfl := List.mem_singleton.mp last
              intro reserved
              exact free (by simp [leased.held, reserved])
          · rw [held, leased.held]
            ext other
            simp only [Finset.mem_insert, Finset.mem_union, List.mem_toFinset, List.mem_append, List.mem_singleton]
            tauto
        have spec := ih more leasing
        cases result with
        | error error => exact spec
        | ok ports =>
          obtain ⟨long, leases⟩ := spec
          exact ⟨by simp at long; omega, leases⟩
      · have kept : Leased base made then_ := ⟨leased.distinct, leased.free, held.trans leased.held⟩
        cases got with
        | error error =>
          simp only [one, Prod.mk.injEq] at leasing
          obtain ⟨rfl, rfl⟩ := leasing
          exact kept.release
        | ok port =>
          cases port with
          | none =>
            simp only [one, Prod.mk.injEq] at leasing
            obtain ⟨rfl, rfl⟩ := leasing
            exact kept.release
          | some port => exact absurd rfl (none_got port)

/-- Two leases are two distinct numbers that were free. -/
theorem lease_local_ports_spec {pool after : PortPool} {result : Except SandboxError (List UInt16)}
    (leasing : lease_local_ports binds 2 pool = (result, after)) :
    match result with
    | .ok ports => (∃ qmp serial, ports = [qmp, serial] ∧ qmp ≠ serial ∧ qmp ∉ pool.held ∧ serial ∉ pool.held) ∧
        (after.release ports).held = pool.held
    | .error _ => after.held = pool.held := by
  have spec := lease_ports_spec (Leased.start pool) leasing
  cases result with
  | error error => exact spec
  | ok ports =>
    obtain ⟨long, leased⟩ := spec
    match ports, long, leased with
    | [qmp, serial], _, leased =>
      have apart : qmp ≠ serial := by simpa using leased.distinct
      exact ⟨⟨qmp, serial, rfl, apart, leased.free qmp (by simp), leased.free serial (by simp)⟩, leased.release⟩

/-- A machine on the two ports of a lease of its own, asked for while the process reserved what it reserved before. -/
def OnLeasedPorts (binds : Nat → Except String UInt16) (held : Finset UInt16) (config : UInt16 → UInt16 → VMConfig)
    (vm : RiscVVirtualMachine) : Prop :=
  ∃ qmp serial pool after, pool.held = held ∧ lease_local_ports binds 2 pool = (.ok [qmp, serial], after) ∧
    vm.config = config qmp serial

variable {starts : Nat → StartAnswer} {config : UInt16 → UInt16 → VMConfig}

theorem boot_config {answer : StartAnswer} {asked : VMConfig} {vm : RiscVVirtualMachine} (booted : boot answer asked = .ok vm) :
    vm.config = asked := by
  rw [boot, RiscVVirtualMachine.new] at booted
  by_cases kernel : answer.path_exists asked.kernel
  · by_cases qemu : answer.is_file (asked.qemu_exe.getD answer.resolve_qemu_binary)
    · cases started : answer.started with
      | error error => simp [kernel, qemu, started, Except.map] at booted
      | ok done =>
        simp only [kernel, qemu, started, not_true_eq_false, if_false, Except.map, Except.ok.injEq] at booted
        rw [← booted]
    · simp [kernel, qemu] at booted
  · simp [kernel] at booted

/-- The attempts end with a lease that fails exactly where not each one gets its ports; they leave the reserved numbers as
    they were, and a machine that starts is on the ports of a lease of its own. -/
theorem start_attempts_spec {left attempt : Nat} {last_error : String} {pool after : PortPool}
    {result : Except SandboxError (Except String RiscVVirtualMachine)}
    (starting : start_attempts binds starts config left attempt last_error pool = (result, after)) :
    after.held = pool.held ∧ (Leasable binds starts config left attempt pool ↔ ∃ outcome, result = .ok outcome) ∧
      ∀ vm, result = .ok (.ok vm) → OnLeasedPorts binds pool.held config vm := by
  induction left generalizing attempt last_error pool with
  | zero =>
    simp only [start_attempts, Prod.mk.injEq] at starting
    obtain ⟨rfl, rfl⟩ := starting
    exact ⟨rfl, by simp [Leasable], by simp⟩
  | succ left ih =>
    cases leasing : lease_local_ports binds 2 pool with
    | mk leases then_ =>
      have spec := lease_local_ports_spec leasing
      cases leases with
      | error error =>
        simp only [start_attempts, leasing, Prod.mk.injEq] at starting
        obtain ⟨rfl, rfl⟩ := starting
        exact ⟨spec, by simp [Leasable, leasing], by simp⟩
      | ok ports =>
        obtain ⟨⟨qmp, serial, rfl, -⟩, released⟩ := spec
        simp only [start_attempts, leasing, List.getD_cons_zero, List.getD_cons_succ] at starting
        simp only [Leasable, leasing, List.getD_cons_zero, List.getD_cons_succ]
        cases booted : boot (starts attempt) (config qmp serial) with
        | ok vm =>
          simp only [booted, Prod.mk.injEq] at starting
          obtain ⟨rfl, rfl⟩ := starting
          refine ⟨released, by simp [Except.toBool], ?_⟩
          rintro other same
          cases same
          exact ⟨qmp, serial, pool, then_, rfl, leasing, boot_config booted⟩
        | error error =>
          simp only [booted] at starting
          obtain ⟨held, leasable, own⟩ := ih starting
          refine ⟨held.trans released, by simpa [Except.toBool] using leasable, fun vm up => ?_⟩
          rw [← released]
          exact own vm up

end Riscdom.Sandbox
