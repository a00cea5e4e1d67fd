import Riscdom.Policy
import Riscdom.RunRecords
import Riscdom.Sessions

/-!
What a run is configured with, resolved through the sandbox, the node and what
is found on the machine; and the document whose digest a run is opened under.
The document tells of the run exactly where its sandbox overrides nothing that
the node would resolve otherwise, and no other machine stands in the slot that the
run acts on.
-/
namespace Riscdom.Provenance
open Riscdom.Json Riscdom.Agent Riscdom.Audit
open Riscdom.Sessions (HostError)

/-! ### The machine and the node -/

inductive ToolchainSource
  | EnvVar
  | KnownPath
  | Path
  | Manual
deriving DecidableEq

def ToolchainSource.as_str : ToolchainSource → String
  | .EnvVar => "EnvVar"
  | .KnownPath => "KnownPath"
  | .Path => "Path"
  | .Manual => "Manual"

/-- What is found on the machine. -/
structure Environment where
  gcc : Option (String × ToolchainSource)
  zig : Option (String × ToolchainSource)
  rustc : Option String
  rust_sysroot : Option String
  qemu : Except String (String × ToolchainSource)
  /-- What an executable is called where none is found. -/
  gcc_name : String
  zig_name : String
  qemu_name : String
  is_file : String → Bool
  /-- What an executable answers when it is asked for its version. -/
  toolchain_runs : String → Except String String
  diagnostics : String

/-- A compiler for each of the languages. -/
structure CompilerConfig where
  gcc : String
  source : ToolchainSource
  march : String
  mabi : String
  link_addr : String
  zig : String
  rustc : Option String
  rust_sysroot : Option String
deriving DecidableEq

structure SandboxDef where
  name : String
  display_name : Option String
  memory_mb : Option Nat
  qemu_exe : Option String
  toolchain_path : Option String
  kernel : Option String
  notes : Option String
  supports_multiplexing : Bool
deriving DecidableEq

structure LlmConfigInput where
  provider_id : String
  api_key : String
  base_url : String
  model : String

/-- The part of a node's state that a run is configured from. -/
structure Node where
  workspace_root : String
  toolchain_path : Option String
  zig_path : Option String
  rust_sysroot : Option String
  qemu_path : Option String
  llm_config : Option LlmConfigInput
  llm_override : Bool
  manual_sandboxes : List SandboxDef
  scanned_sandboxes : List SandboxDef
  current_sandbox : Option String
  default_sandbox : Option String

/-- What is compiled into the program. -/
structure Build where
  app_version : String
  tools_json : String
  constitution : String
  operating_rules : String

def VM_MEMORY_MB : Nat := 128
def DEFAULT_SANDBOX_NAME : String := "default"

/-- The definition that overrides nothing. -/
def SandboxDef.fallback : SandboxDef :=
  ⟨DEFAULT_SANDBOX_NAME, some "whatever this host finds", none, none, none, none, none, false⟩

def CompilerConfig.manual (environment : Environment) (gcc : String) : CompilerConfig :=
  { gcc, source := .Manual, march := "rv64gc", mabi := "lp64d", link_addr := "0x80000000",
    zig := (environment.zig.map Prod.fst).getD environment.zig_name, rustc := environment.rustc,
    rust_sysroot := environment.rust_sysroot }

def CompilerConfig.from_env (environment : Environment) : CompilerConfig :=
  let (gcc, source) := environment.gcc.getD (environment.gcc_name, .Path)
  { CompilerConfig.manual environment gcc with source }

structure ToolchainView where
  found : Bool
  path : Option String
  source : String
  diagnostics : String

structure QemuView where
  found : Bool
  path : Option String
  source : String
  diagnostics : String

namespace Node
variable (environment : Environment) (node : Node)

def toolchain_config : CompilerConfig :=
  let cfg := match node.toolchain_path with
    | some path => CompilerConfig.manual environment path
    | none => CompilerConfig.from_env environment
  let cfg := match node.zig_path with
    | some zig => { cfg with zig }
    | none => cfg
  match node.rust_sysroot with
  | some sysroot => { cfg with rust_sysroot := some sysroot }
  | none => cfg

/-- What is said of a path that was chosen by hand. -/
def manual_diagnostics (path : String) : String :=
  match environment.toolchain_runs path with
  | .ok version => "manual path: " ++ path ++ "\n" ++ version
  | .error error => "manual path: " ++ path ++ " is not runnable: " ++ error

def probe_toolchain : ToolchainView :=
  match node.toolchain_path with
  | some path => ⟨(environment.toolchain_runs path).toBool, some path, "Manual", manual_diagnostics environment path⟩
  | none =>
    let cfg := CompilerConfig.from_env environment
    let found := environment.is_file cfg.gcc
    ⟨found, if found then some cfg.gcc else none, cfg.source.as_str, environment.diagnostics⟩

def probe_qemu : QemuView :=
  match node.qemu_path with
  | some path => ⟨(environment.toolchain_runs path).toBool, some path, "Manual", manual_diagnostics environment path⟩
  | none =>
    match environment.qemu with
    | .ok (exe, source) => ⟨true, some exe, source.as_str, environment.diagnostics⟩
    | .error _ => ⟨false, none, "Path", environment.diagnostics⟩

/-- The definitions, the ones written by hand first and the one of the host last. -/
def merged_sandbox_defs : List SandboxDef := node.manual_sandboxes ++ node.scanned_sandboxes ++ [SandboxDef.fallback]
def sandbox_def_by_name (name : String) : Option SandboxDef := node.merged_sandbox_defs.find? fun definition => definition.name == name

def resolve_task_sandbox (task_sandbox : Option String) : Except HostError (Option (SandboxDef × String)) :=
  match task_sandbox with
  | some name =>
    match node.sandbox_def_by_name name with
    | some definition => .ok (some (definition, name))
    | none => .error (.SandboxNotFound name)
  | none =>
    .ok (([node.current_sandbox, some (node.default_sandbox.getD DEFAULT_SANDBOX_NAME), some DEFAULT_SANDBOX_NAME].filterMap
      id).findSome? fun name => (node.sandbox_def_by_name name).map fun definition => (definition, name))

/-- Whether a definition can run now. -/
def sandbox_check (definition : SandboxDef) : Except HostError Unit := do
  match definition.qemu_exe with
  | some path =>
    if ¬ environment.is_file path then throw (.SandboxQemuMissing ("not a file: " ++ path))
    match environment.toolchain_runs path with
    | .ok _ => pure ()
    | .error error => throw (.SandboxQemuMissing (path ++ " is not runnable: " ++ error))
  | none =>
    if ¬ (probe_qemu environment node).found then throw (.SandboxQemuMissing (probe_qemu environment node).diagnostics)
  match definition.toolchain_path with
  | some path => if ¬ environment.is_file path then throw (.SandboxToolchainMissing ("not a file: " ++ path))
  | none =>
    if ¬ (probe_toolchain environment node).found then
      throw (.SandboxToolchainMissing (probe_toolchain environment node).diagnostics)
  match definition.kernel with
  | some path => if ¬ environment.is_file path then throw (.SandboxKernelMissing ("not a file: " ++ path))
  | none => pure ()

def agent_config : AgentConfig :=
  let (api_key, base_url, model, provider_id) := match node.llm_config with
    | some config => (config.api_key, config.base_url, config.model, config.provider_id)
    | none => ("", "https://api.deepseek.com", "deepseek-chat", "deepseek")
  { api_key := if node.llm_override ∧ Text.trim api_key = "" then "override-test-client" else api_key,
    base_url, model, provider_id, max_iterations := 10, request_timeout_secs := 120 }

end Node

/-! ### A run's configuration -/

/-- A virtual machine that stands in a slot: what it was made with, and whether it runs yet. -/
structure Guest where
  qemu : String
  memory_mb : Nat
  alive : Bool
deriving DecidableEq

/-- A sandbox instance as a run finds it. -/
structure InstanceHandle where
  id : String
  definition : String
  vm_slot : Option Guest
deriving DecidableEq

/-- A run on a machine, asked for a sandbox and an instance or not: the instances of the node, its own always among them; the
    sandbox of the machine that runs; and what the gate on the model says. -/
structure RunSetup where
  build : Build
  environment : Environment
  node : Node
  quoted : String → String
  own_instance : InstanceHandle
  instances : List InstanceHandle
  current_instance : Option String
  active_sandbox : Option String
  readiness : Except HostError Unit
  sandbox : Option String
  task_instance : Option String

/-- What the loop of a run is configured with, and the machines it is worked with: the one that is there, and one that it
    starts. -/
structure Effective where
  compiler : CompilerConfig
  guest : Option Guest
  qemu : String
  memory_mb : Nat
  config : AgentConfig
  tools_json : String
  policy : WorkspacePolicy

/-- The executables and memories of the machines of a run. -/
def Effective.machines (effective : Effective) : List (String × Nat) :=
  effective.guest.toList.map (fun guest => (guest.qemu, guest.memory_mb)) ++ [(effective.qemu, effective.memory_mb)]

namespace RunSetup
variable (setup : RunSetup)

def probe_toolchain : ToolchainView := setup.node.probe_toolchain setup.environment
def probe_qemu : QemuView := setup.node.probe_qemu setup.environment

/-- The executable of the virtual machine where nothing names one. -/
def resolve_qemu_binary : String :=
  match setup.environment.qemu with
  | .ok (exe, _) => exe
  | .error _ => setup.environment.qemu_name

/-- The compilers of a run under a definition. -/
def compiler (definition : Option SandboxDef) : CompilerConfig :=
  match definition.bind SandboxDef.toolchain_path with
  | some path => CompilerConfig.manual setup.environment path
  | none => setup.node.toolchain_config setup.environment

/-! The instance a run acts on. -/

def instance_by_id (id : String) : Option InstanceHandle := (setup.own_instance :: setup.instances).find? fun handle => handle.id == id

/-- The instance that acts on the node mean. -/
def current : InstanceHandle := (setup.current_instance.bind setup.instance_by_id).getD setup.own_instance

def vm_is_running : Bool := (setup.current.vm_slot.map Guest.alive).getD false

/-- The instance a run is asked for, or the current one. -/
def acts_on : Except HostError InstanceHandle :=
  match setup.task_instance with
  | none => .ok setup.current
  | some id =>
    match setup.instance_by_id id with
    | none => .error (.InstanceNotFound ("no instance " ++ id ++ " on this node"))
    | some handle =>
      match setup.sandbox with
      | none => .ok handle
      | some requested =>
        if handle.definition = requested then .ok handle
        else .error (.InstanceConflict ("instance " ++ id ++ " was made from " ++ setup.quoted handle.definition ++ ", not " ++
          setup.quoted requested))

/-- A sandbox asked for by name is the one of the current machine, while that runs. -/
def check_task_sandbox : Except HostError Unit :=
  match setup.sandbox with
  | none => .ok ()
  | some requested =>
    if ¬ setup.vm_is_running ∨ setup.active_sandbox = some requested then .ok ()
    else .error (.SandboxConflict ("a VM is already running (" ++ setup.active_sandbox.getD "from a snapshot or an earlier run" ++
      ") and a task may not switch the node; stop it, or switch to " ++ setup.quoted requested ++
      " with POST /v0/sandboxes/switch"))

/-- The machine in the slot of an instance. The current one's is looked at before the run, and taken out where it is dead. -/
def found_in (handle : InstanceHandle) : Option Guest :=
  if handle.id = setup.current.id then handle.vm_slot.filter Guest.alive else handle.vm_slot

/-- What a run is configured with under a definition, on a slot. -/
def configured (definition : Option SandboxDef) (guest : Option Guest) : Effective where
  compiler := setup.compiler definition
  guest := guest
  qemu := ((definition.bind SandboxDef.qemu_exe).or setup.node.qemu_path).getD setup.resolve_qemu_binary
  memory_mb := (definition.bind SandboxDef.memory_mb).getD VM_MEMORY_MB
  config := setup.node.agent_config
  tools_json := setup.build.tools_json
  policy := WorkspacePolicy.new setup.node.workspace_root

/-- The check of the compiler and of the executable. -/
def check_tools (resolved : Option (SandboxDef × String)) : Except HostError Unit := do
  match resolved with
  | some (definition, _) => setup.node.sandbox_check setup.environment definition
  | none =>
    if ¬ setup.probe_toolchain.found then throw (.Other ("toolchain_missing\n" ++ setup.probe_toolchain.diagnostics))
    if ¬ setup.probe_qemu.found then throw (.Other ("qemu_missing\n" ++ setup.probe_qemu.diagnostics))

/-- The checks before a run, and what it is then configured with. -/
def run_agent_for : Except HostError Effective := do
  let handle ← setup.acts_on
  let resolved ← setup.node.resolve_task_sandbox setup.sandbox
  setup.check_task_sandbox
  setup.readiness
  setup.check_tools resolved
  return setup.configured (resolved.map Prod.fst) (setup.found_in handle)

/-! ### The document -/

/-- What the document of a run tells, less what is the same in every run. -/
@[ext] structure Seen where
  app_version : String
  provider_id : String
  base_url : String
  model : String
  tools_sha256 : String
  qemu_path : String
  qemu_version : String
  toolchain_path : String
  toolchain_version : String
  toolchain_source : String
  prompt_sha256 : String
deriving DecidableEq

/-- The version of an executable, where there is one and it tells. -/
def version_of (path : Option String) : String :=
  match path with
  | some path =>
    match setup.environment.toolchain_runs path with
    | .ok version => version
    | .error _ => "unknown"
  | none => "unknown"

/-- What is read for the document. -/
def seen (crates : Crates) : Seen where
  app_version := setup.build.app_version
  provider_id := setup.node.agent_config.provider_id
  base_url := setup.node.agent_config.base_url
  model := setup.node.agent_config.model
  tools_sha256 := crates.sha256_hex setup.build.tools_json
  qemu_path := setup.probe_qemu.path.getD "unknown"
  qemu_version := setup.version_of setup.probe_qemu.path
  toolchain_path := setup.probe_toolchain.path.getD "unknown"
  toolchain_version := setup.version_of setup.probe_toolchain.path
  toolchain_source := setup.probe_toolchain.source
  prompt_sha256 := crates.sha256_hex (setup.build.constitution ++ "\n\n" ++ setup.build.operating_rules)

def texts (items : List String) : Value := .array (items.map .string)

def run_fingerprint (crates : Crates) : Value :=
  let seen := setup.seen crates
  let agent_config := setup.node.agent_config
  let compiler := setup.node.toolchain_config setup.environment
  let policy := WorkspacePolicy.new setup.node.workspace_root
  json [
    ("schema", json [("fingerprint_schema", .string FINGERPRINT_SCHEMA_V1), ("app_version", .string seen.app_version)]),
    ("llm", json [("provider_id", .string seen.provider_id), ("base_url", .string seen.base_url),
      ("model", .string seen.model)]),
    ("agent", json [("max_iterations", .integer agent_config.max_iterations),
      ("request_timeout_secs", .integer agent_config.request_timeout_secs), ("tools_sha256", .string seen.tools_sha256),
      ("march", .string compiler.march), ("mabi", .string compiler.mabi), ("link_addr", .string compiler.link_addr),
      ("crt0", .string "injected"), ("language_allowlist", texts policy.allowed_extensions)]),
    ("vm", json [("memory_mb", .integer VM_MEMORY_MB), ("machine", .string "virt"), ("cpu", .string "rv64"),
      ("qemu_path", .string seen.qemu_path), ("qemu_version", .string seen.qemu_version),
      ("snapshot_mode", .string "tcp-relay")]),
    ("toolchain", json [("path", .string seen.toolchain_path), ("version", .string seen.toolchain_version),
      ("source", .string seen.toolchain_source)]),
    ("policy", json [("allowed_extensions", texts policy.allowed_extensions),
      ("traversal_guard", .string "normalize+containment")]),
    ("prompt", json [("sha256", .string seen.prompt_sha256)])]

/-- A value of a section of a document. -/
def leaf (part key : String) (document : Value) : Option Value := (document.get part).bind (Value.get key)

theorem leaf_canonicalize (part key : String) (document : Value) :
    leaf part key (canonicalize document) = (leaf part key document).map canonicalize := by
  rw [leaf, leaf, get_canonicalize]
  cases document.get part with
  | none => rfl
  | some section_ => exact get_canonicalize key section_

/-! ### What the document tells -/

variable {setup} {crates : Crates}

theorem shallow_json {members : List (String × Value)} {d : Nat} (each : ∀ m ∈ members, Plain m.2 ∧ depth m.2 ≤ d) :
    Plain (json members) ∧ depth (json members) ≤ d + 1 :=
  ⟨plain_json fun m inside => (each m inside).1, depth_json fun m inside => (each m inside).2⟩

theorem shallow_texts (items : List String) : Plain (texts items) ∧ depth (texts items) ≤ 1 := by
  have each : ∀ v ∈ items.map Value.string, Plain v ∧ depth v ≤ 0 := by
    intro v inside
    obtain ⟨text, _, rfl⟩ := List.mem_map.mp inside
    simp
  refine ⟨plainItems_iff.mpr fun v inside => (each v inside).1, ?_⟩
  have items_le := depth_items_le.mpr fun v inside => (each v inside).2
  rw [texts, depth]
  omega

/-- The document can be written and read. -/
theorem run_fingerprint_plain (setup : RunSetup) (crates : Crates) : Plain (setup.run_fingerprint crates) ∧ depth (setup.run_fingerprint crates) ≤ 127 := by
  have part (members : List (String × Value)) (each : ∀ m ∈ members, Plain m.2 ∧ depth m.2 ≤ 1) :
      Plain (json members) ∧ depth (json members) ≤ 2 := shallow_json each
  obtain ⟨plain, shallow⟩ : Plain (setup.run_fingerprint crates) ∧ depth (setup.run_fingerprint crates) ≤ 2 + 1 := by
    refine shallow_json ?_
    simp only [List.mem_cons, List.not_mem_nil, or_false]
    rintro m (rfl | rfl | rfl | rfl | rfl | rfl | rfl)
    all_goals
      refine part _ ?_
      simp [shallow_texts]
  exact ⟨plain, le_trans shallow (by decide)⟩

/-- Where two documents are one once their keys are in order, so is every text in them. -/
theorem same_text (part key : String) (read : Seen → String)
    (told : ∀ setup : RunSetup, leaf part key (setup.run_fingerprint crates) = some (.string (read (setup.seen crates))))
    {first second : RunSetup} (same : canonicalize (first.run_fingerprint crates) = canonicalize (second.run_fingerprint crates)) :
    read (first.seen crates) = read (second.seen crates) := by
  have leaves := congrArg (leaf part key) same
  rw [leaf_canonicalize, leaf_canonicalize, told, told] at leaves
  simpa [canonicalize] using leaves

theorem same_seen {first second : RunSetup}
    (same : canonicalize (first.run_fingerprint crates) = canonicalize (second.run_fingerprint crates)) :
    first.seen crates = second.seen crates := by
  have app_version := same_text "schema" "app_version" Seen.app_version
    (by intro setup; simp [leaf, run_fingerprint, get_json, lookup]) same
  have provider_id := same_text "llm" "provider_id" Seen.provider_id
    (by intro setup; simp [leaf, run_fingerprint, get_json, lookup]) same
  have base_url := same_text "llm" "base_url" Seen.base_url
    (by intro setup; simp [leaf, run_fingerprint, get_json, lookup]) same
  have model := same_text "llm" "model" Seen.model
    (by intro setup; simp [leaf, run_fingerprint, get_json, lookup]) same
  have tools_sha256 := same_text "agent" "tools_sha256" Seen.tools_sha256
    (by intro setup; simp [leaf, run_fingerprint, get_json, lookup]) same
  have qemu_path := same_text "vm" "qemu_path" Seen.qemu_path
    (by intro setup; simp [leaf, run_fingerprint, get_json, lookup]) same
  have qemu_version := same_text "vm" "qemu_version" Seen.qemu_version
    (by intro setup; simp [leaf, run_fingerprint, get_json, lookup]) same
  have toolchain_path := same_text "toolchain" "path" Seen.toolchain_path
    (by intro setup; simp [leaf, run_fingerprint, get_json, lookup]) same
  have toolchain_version := same_text "toolchain" "version" Seen.toolchain_version
    (by intro setup; simp [leaf, run_fingerprint, get_json, lookup]) same
  have toolchain_source := same_text "toolchain" "source" Seen.toolchain_source
    (by intro setup; simp [leaf, run_fingerprint, get_json, lookup]) same
  have prompt_sha256 := same_text "prompt" "sha256" Seen.prompt_sha256
    (by intro setup; simp [leaf, run_fingerprint, get_json, lookup]) same
  exact Seen.ext app_version provider_id base_url model tools_sha256 qemu_path qemu_version toolchain_path toolchain_version
    toolchain_source prompt_sha256

theorem agent_config_bounds (node : Node) :
    node.agent_config.max_iterations = 10 ∧ node.agent_config.request_timeout_secs = 120 := by
  rw [Node.agent_config]
  cases node.llm_config <;> exact ⟨rfl, rfl⟩

/-- Every compiler builds for one machine. -/
def CompilerConfig.Native (compiler : CompilerConfig) : Prop :=
  compiler.march = "rv64gc" ∧ compiler.mabi = "lp64d" ∧ compiler.link_addr = "0x80000000"

theorem toolchain_config_native (environment : Environment) (node : Node) :
    CompilerConfig.Native (node.toolchain_config environment) := by
  rw [Node.toolchain_config]
  cases node.toolchain_path <;> cases node.zig_path <;> cases node.rust_sysroot <;> exact ⟨rfl, rfl, rfl⟩

/-- Setups that the document reads alike have one document. -/
theorem run_fingerprint_congr {first second : RunSetup} (same : first.seen crates = second.seen crates) :
    first.run_fingerprint crates = second.run_fingerprint crates := by
  obtain ⟨iterations, timeout⟩ := agent_config_bounds first.node
  obtain ⟨iterations_too, timeout_too⟩ := agent_config_bounds second.node
  obtain ⟨march, mabi, link_addr⟩ := toolchain_config_native first.environment first.node
  obtain ⟨march_too, mabi_too, link_addr_too⟩ := toolchain_config_native second.environment second.node
  unfold run_fingerprint
  simp only [same, iterations, timeout, march, mabi, link_addr, iterations_too, timeout_too, march_too, mabi_too,
    link_addr_too, WorkspacePolicy.new]

/-- Without collisions of the digest, one fingerprint is of one reading. -/
theorem fingerprint_seen_iff (collision_free : Function.Injective crates.sha256_hex) (first second : RunSetup) :
    fingerprint crates (first.run_fingerprint crates) = fingerprint crates (second.run_fingerprint crates) ↔
      first.seen crates = second.seen crates := by
  constructor
  · intro same
    have texts := collision_free same
    rw [canonical_json, canonical_json] at texts
    have read (setup : RunSetup) :
        crates.json.from_str (crates.json.to_string (canonicalize (setup.run_fingerprint crates))) =
          .ok (canonicalize (setup.run_fingerprint crates)) := by
      obtain ⟨plain, shallow⟩ := setup.run_fingerprint_plain crates
      exact crates.json.reads_back _ (plain_canonicalize _ plain) (le_trans (depth_canonicalize _) shallow)
    have documents := (read first).symm.trans ((congrArg crates.json.from_str texts).trans (read second))
    exact same_seen (Except.ok.inj documents)
  · intro same
    rw [run_fingerprint_congr same]

/-! ### The law of the fingerprint -/

/-- The definition a run resolves to. -/
def definition (setup : RunSetup) : Option SandboxDef :=
  match setup.node.resolve_task_sandbox setup.sandbox with
  | .ok resolved => resolved.map Prod.fst
  | .error _ => none

/-- The machine that stands in the slot a run acts on. -/
def guest (setup : RunSetup) : Option Guest :=
  match setup.acts_on with
  | .ok handle => setup.found_in handle
  | .error _ => none

/-- The sandbox of the run overrides nothing, or with what the node finds itself; and a machine that stands in the slot was
    made with that. -/
structure Agrees (setup : RunSetup) : Prop where
  sandbox : ∀ definition, setup.definition = some definition →
    (∀ path, definition.toolchain_path = some path → path = setup.probe_toolchain.path.getD "unknown") ∧
      (∀ path, definition.qemu_exe = some path → path = setup.probe_qemu.path.getD "unknown") ∧
        ∀ memory_mb, definition.memory_mb = some memory_mb → memory_mb = VM_MEMORY_MB
  slot : ∀ guest, setup.guest = some guest →
    guest.qemu = setup.probe_qemu.path.getD "unknown" ∧ guest.memory_mb = VM_MEMORY_MB

/-- The document names the compiler of the run, and the executable and the memory of each of its machines. -/
def Describes (document : Value) (effective : Effective) : Prop :=
  leaf "toolchain" "path" document = some (.string effective.compiler.gcc) ∧
    ∀ machine ∈ effective.machines, leaf "vm" "qemu_path" document = some (.string machine.1) ∧
      leaf "vm" "memory_mb" document = some (.integer machine.2)

theorem probe_toolchain_found (found : setup.probe_toolchain.found = true) :
    setup.probe_toolchain.path = some (setup.node.toolchain_config setup.environment).gcc := by
  have gcc : (setup.node.toolchain_config setup.environment).gcc =
      setup.node.toolchain_path.getD (CompilerConfig.from_env setup.environment).gcc := by
    rw [Node.toolchain_config]
    cases setup.node.toolchain_path <;> cases setup.node.zig_path <;> cases setup.node.rust_sysroot <;> rfl
  rw [gcc]
  rw [probe_toolchain, Node.probe_toolchain] at found ⊢
  cases manual : setup.node.toolchain_path with
  | some path => rfl
  | none =>
    simp only [manual] at found ⊢
    rw [if_pos found]
    rfl

theorem probe_qemu_found (found : setup.probe_qemu.found = true) :
    setup.probe_qemu.path = some (setup.node.qemu_path.getD setup.resolve_qemu_binary) := by
  rw [probe_qemu, Node.probe_qemu] at found ⊢
  cases manual : setup.node.qemu_path with
  | some path => rfl
  | none =>
    rw [resolve_qemu_binary]
    simp only [manual] at found ⊢
    cases place : setup.environment.qemu with
    | ok pair => rfl
    | error error =>
      rw [place] at found
      cases found

/-- A definition that passes its check: what it leaves open was found. -/
theorem sandbox_check_ok {definition : SandboxDef}
    (passed : setup.node.sandbox_check setup.environment definition = .ok ()) :
    (definition.toolchain_path = none → setup.probe_toolchain.found = true) ∧
      (definition.qemu_exe = none → setup.probe_qemu.found = true) := by
  rw [Node.sandbox_check] at passed
  constructor
  · intro no_path
    by_contra missing
    have missing : ¬ (Node.probe_toolchain setup.environment setup.node).found := missing
    simp only [no_path, if_pos missing] at passed
    -- the check of the executable comes first, and whatever it says the compiler is missing
    cases exe : definition.qemu_exe with
    | none =>
      simp only [exe] at passed
      split_ifs at passed
      all_goals cases passed
    | some path =>
      simp only [exe] at passed
      cases runs : setup.environment.toolchain_runs path with
      | ok version =>
        simp only [runs] at passed
        split_ifs at passed
        all_goals cases passed
      | error error =>
        simp only [runs] at passed
        split_ifs at passed
        all_goals cases passed
  · intro no_exe
    by_contra missing
    have missing : ¬ (Node.probe_qemu setup.environment setup.node).found := missing
    simp only [no_exe, if_pos missing] at passed
    cases passed

theorem bind_ok {ε α β : Type} {x : Except ε α} {f : α → Except ε β} {b : β} (whole : (x >>= f) = .ok b) :
    ∃ a, x = .ok a ∧ f a = .ok b := by
  cases x with
  | error error => cases whole
  | ok a => exact ⟨a, rfl, whole⟩

/-- What passes the check of the tools: what the definition leaves open was found. -/
theorem check_tools_ok {resolved : Option (SandboxDef × String)} (passed : setup.check_tools resolved = .ok ()) :
    ((resolved.map Prod.fst).bind SandboxDef.toolchain_path = none → setup.probe_toolchain.found = true) ∧
      ((resolved.map Prod.fst).bind SandboxDef.qemu_exe = none → setup.probe_qemu.found = true) := by
  unfold check_tools at passed
  cases resolved with
  | some pair => exact sandbox_check_ok passed
  | none =>
    simp only at passed
    by_cases toolchain : setup.probe_toolchain.found = true
    · by_cases qemu : setup.probe_qemu.found = true
      · exact ⟨fun _ => toolchain, fun _ => qemu⟩
      · simp only [toolchain, qemu] at passed
        cases passed
    · simp only [toolchain] at passed
      cases passed

/-- A run that passes the checks: it is configured under its definition and on its slot, and what the definition leaves open
    was found. -/
theorem run_agent_for_ok {effective : Effective} (opened : setup.run_agent_for = .ok effective) :
    effective = setup.configured setup.definition setup.guest ∧
      (setup.definition.bind SandboxDef.toolchain_path = none → setup.probe_toolchain.found = true) ∧
      (setup.definition.bind SandboxDef.qemu_exe = none → setup.probe_qemu.found = true) := by
  obtain ⟨handle, handled, opened⟩ := bind_ok opened
  obtain ⟨resolved, resolution, opened⟩ := bind_ok opened
  obtain ⟨⟨⟩, -, opened⟩ := bind_ok opened
  obtain ⟨⟨⟩, -, opened⟩ := bind_ok opened
  obtain ⟨⟨⟩, checked, opened⟩ := bind_ok opened
  have named : setup.definition = resolved.map Prod.fst := by rw [definition, resolution]
  have stands : setup.guest = setup.found_in handle := by rw [guest, handled]
  rw [named, stands]
  exact ⟨(Except.ok.inj opened).symm, check_tools_ok checked⟩

/-- What decides over a run that the document does not read. -/
def unseen (setup : RunSetup) : String × Option String × Option String × List Component :=
  let compiler := setup.compiler setup.definition
  (compiler.zig, compiler.rustc, compiler.rust_sysroot, (WorkspacePolicy.new setup.node.workspace_root).root)

theorem documented (crates : Crates) :
    leaf "toolchain" "path" (setup.run_fingerprint crates) = some (.string (setup.probe_toolchain.path.getD "unknown")) ∧
      leaf "vm" "qemu_path" (setup.run_fingerprint crates) = some (.string (setup.probe_qemu.path.getD "unknown")) ∧
        leaf "vm" "memory_mb" (setup.run_fingerprint crates) = some (.integer VM_MEMORY_MB) := by
  refine ⟨?_, ?_, ?_⟩
  all_goals simp [leaf, run_fingerprint, seen, get_json, lookup]

/-- The document names what a run is configured with exactly where its sandbox and its slot agree with the node. -/
theorem describes_iff {effective : Effective} (opened : setup.run_agent_for = .ok effective) :
    Describes (setup.run_fingerprint crates) effective ↔ setup.Agrees := by
  obtain ⟨rfl, toolchain, qemu⟩ := run_agent_for_ok opened
  obtain ⟨path, qemu_path, memory_mb⟩ := setup.documented crates
  -- each of the three is overridden, and compared; or left open, and then it was found
  have gcc : setup.probe_toolchain.path.getD "unknown" = (setup.configured setup.definition setup.guest).compiler.gcc ↔
      ∀ path, setup.definition.bind SandboxDef.toolchain_path = some path → path = setup.probe_toolchain.path.getD "unknown" := by
    show _ = (setup.compiler setup.definition).gcc ↔ _
    rw [compiler]
    cases override : setup.definition.bind SandboxDef.toolchain_path with
    | none => simp [probe_toolchain_found (toolchain override)]
    | some path => simp [CompilerConfig.manual, eq_comm]
  have exe : setup.probe_qemu.path.getD "unknown" = (setup.configured setup.definition setup.guest).qemu ↔
      ∀ path, setup.definition.bind SandboxDef.qemu_exe = some path → path = setup.probe_qemu.path.getD "unknown" := by
    show _ = ((setup.definition.bind SandboxDef.qemu_exe).or setup.node.qemu_path).getD setup.resolve_qemu_binary ↔ _
    cases override : setup.definition.bind SandboxDef.qemu_exe with
    | none => simp [probe_qemu_found (qemu override)]
    | some path => simp [eq_comm]
  have memory : VM_MEMORY_MB = (setup.configured setup.definition setup.guest).memory_mb ↔
      ∀ memory_mb, setup.definition.bind SandboxDef.memory_mb = some memory_mb → memory_mb = VM_MEMORY_MB := by
    show _ = (setup.definition.bind SandboxDef.memory_mb).getD VM_MEMORY_MB ↔ _
    cases override : setup.definition.bind SandboxDef.memory_mb with
    | none => simp
    | some memory_mb => simp [eq_comm]
  have machines : (∀ machine ∈ (setup.configured setup.definition setup.guest).machines,
      leaf "vm" "qemu_path" (setup.run_fingerprint crates) = some (.string machine.1) ∧
        leaf "vm" "memory_mb" (setup.run_fingerprint crates) = some (.integer machine.2)) ↔
      (∀ guest, setup.guest = some guest → guest.qemu = setup.probe_qemu.path.getD "unknown" ∧ guest.memory_mb = VM_MEMORY_MB) ∧
        setup.probe_qemu.path.getD "unknown" = (setup.configured setup.definition setup.guest).qemu ∧
          VM_MEMORY_MB = (setup.configured setup.definition setup.guest).memory_mb := by
    rw [Effective.machines, qemu_path, memory_mb]
    have stands : (setup.configured setup.definition setup.guest).guest = setup.guest := rfl
    rw [stands]
    cases setup.guest with
    | none => simp [Int.natCast_inj]
    | some guest => simp [eq_comm, Int.natCast_inj]
  rw [Describes, path, machines, Option.some.injEq, Value.string.injEq, gcc, exe, memory]
  constructor
  · rintro ⟨compiler, slot, qemu, memory⟩
    refine ⟨?_, slot⟩
    intro definition resolved
    rw [resolved] at compiler qemu memory
    exact ⟨compiler, qemu, memory⟩
  · rintro ⟨sandbox, slot⟩
    cases resolved : setup.definition with
    | none => exact ⟨nofun, slot, nofun, nofun⟩
    | some definition =>
      obtain ⟨compiler, qemu, memory⟩ := sandbox definition resolved
      exact ⟨compiler, slot, qemu, memory⟩

end RunSetup

/-! ### Pairs of runs -/

/-- One configuration, wherever its compiler was found, and the same machines. -/
def Effective.Same (first second : Effective) : Prop :=
  { first.compiler with source := second.compiler.source } = second.compiler ∧
    (∀ machine, machine ∈ first.machines ↔ machine ∈ second.machines) ∧ first.config.provider_id = second.config.provider_id ∧
      first.config.base_url = second.config.base_url ∧ first.config.model = second.config.model ∧
        first.tools_json = second.tools_json ∧ first.policy = second.policy

namespace RunSetup
variable {crates : Crates} {first second : RunSetup}

theorem compiler_native (setup : RunSetup) (definition : Option SandboxDef) :
    CompilerConfig.Native (setup.compiler definition) := by
  rw [compiler]
  cases definition.bind SandboxDef.toolchain_path with
  | none => exact toolchain_config_native _ _
  | some path => exact ⟨rfl, rfl, rfl⟩

/-- Two described runs that the document reads alike differ in nothing but what it does not read. -/
theorem same_iff (collision_free : Function.Injective crates.sha256_hex) {e f : Effective}
    (opened : first.run_agent_for = .ok e) (opened_too : second.run_agent_for = .ok f)
    (described : Describes (first.run_fingerprint crates) e) (described_too : Describes (second.run_fingerprint crates) f)
    (alike : first.seen crates = second.seen crates) : Effective.Same e f ↔ first.unseen = second.unseen := by
  rw [run_fingerprint_congr alike] at described
  obtain ⟨path, documented⟩ := described
  obtain ⟨path_too, documented_too⟩ := described_too
  have gcc : e.compiler.gcc = f.compiler.gcc := by simpa [path] using path_too
  have one (machine : String × Nat) (inside : machine ∈ e.machines) (other : String × Nat) (beside : other ∈ f.machines) :
      machine = other := by
    obtain ⟨qemu_path, memory_mb⟩ := documented machine inside
    obtain ⟨qemu_path_too, memory_mb_too⟩ := documented_too other beside
    exact Prod.ext (by simpa [qemu_path] using qemu_path_too) (by simpa [memory_mb, Int.natCast_inj] using memory_mb_too)
  have last (effective : Effective) : (effective.qemu, effective.memory_mb) ∈ effective.machines := by
    simp [Effective.machines]
  have machines (machine : String × Nat) : machine ∈ e.machines ↔ machine ∈ f.machines :=
    ⟨fun inside => one machine inside _ (last f) ▸ last f, fun inside => one _ (last e) machine inside ▸ last e⟩
  obtain ⟨rfl, -, -⟩ := run_agent_for_ok opened
  obtain ⟨rfl, -, -⟩ := run_agent_for_ok opened_too
  have provider_id : first.node.agent_config.provider_id = second.node.agent_config.provider_id :=
    congrArg Seen.provider_id alike
  have base_url : first.node.agent_config.base_url = second.node.agent_config.base_url := congrArg Seen.base_url alike
  have model : first.node.agent_config.model = second.node.agent_config.model := congrArg Seen.model alike
  have tools : first.build.tools_json = second.build.tools_json := collision_free (congrArg Seen.tools_sha256 alike)
  obtain ⟨march, mabi, link_addr⟩ := first.compiler_native first.definition
  obtain ⟨march_too, mabi_too, link_addr_too⟩ := second.compiler_native second.definition
  simp only [configured] at gcc
  have compilers : { first.compiler first.definition with source := (second.compiler second.definition).source } =
      second.compiler second.definition ↔
      (first.compiler first.definition).zig = (second.compiler second.definition).zig ∧
        (first.compiler first.definition).rustc = (second.compiler second.definition).rustc ∧
          (first.compiler first.definition).rust_sysroot = (second.compiler second.definition).rust_sysroot := by
    generalize first.compiler first.definition = c at gcc march mabi link_addr ⊢
    generalize second.compiler second.definition = d at gcc march_too mabi_too link_addr_too ⊢
    obtain ⟨_, _, _, _, _, _, _, _⟩ := c
    obtain ⟨_, _, _, _, _, _, _, _⟩ := d
    simp only at gcc march mabi link_addr march_too mabi_too link_addr_too
    simp [gcc, march, mabi, link_addr, march_too, mabi_too, link_addr_too]
  have roots : WorkspacePolicy.new first.node.workspace_root = WorkspacePolicy.new second.node.workspace_root ↔
      (WorkspacePolicy.new first.node.workspace_root).root = (WorkspacePolicy.new second.node.workspace_root).root := by
    simp [WorkspacePolicy.new]
  rw [Effective.Same]
  simp only [machines, implies_true, true_and]
  simp only [configured, compilers, provider_id, base_url, model, tools, roots, unseen, Prod.mk.injEq, true_and, and_assoc]

/-- Two runs are described by their documents, and by different ones where they are configured differently, exactly
    where their sandboxes agree with their nodes and what is not read differs only beside something that is. -/
theorem fingerprint_describes_iff (crates : Crates) (collision_free : Function.Injective crates.sha256_hex)
    (first second : RunSetup) (e f : Effective) (opened : first.run_agent_for = .ok e)
    (opened_too : second.run_agent_for = .ok f) :
    (Describes (first.run_fingerprint crates) e ∧ Describes (second.run_fingerprint crates) f ∧
      (¬ Effective.Same e f →
        fingerprint crates (first.run_fingerprint crates) ≠ fingerprint crates (second.run_fingerprint crates))) ↔
    first.Agrees ∧ second.Agrees ∧ (first.seen crates = second.seen crates → first.unseen = second.unseen) := by
  have agrees : Describes (first.run_fingerprint crates) e ↔ first.Agrees := describes_iff opened
  have agrees_too : Describes (second.run_fingerprint crates) f ↔ second.Agrees := describes_iff opened_too
  rw [← agrees, ← agrees_too]
  constructor
  · rintro ⟨described, described_too, differ⟩
    refine ⟨described, described_too, ?_⟩
    intro alike
    rw [← same_iff collision_free opened opened_too described described_too alike]
    by_contra different
    exact differ different ((fingerprint_seen_iff collision_free first second).mpr alike)
  · rintro ⟨described, described_too, read⟩
    refine ⟨described, described_too, ?_⟩
    intro different shared
    have alike := (fingerprint_seen_iff collision_free first second).mp shared
    exact different ((same_iff collision_free opened opened_too described described_too alike).mpr (read alike))

end RunSetup

/-! ### On a concrete machine -/

/-- A machine with a compiler and an emulator on its path. -/
def found_environment : Environment where
  gcc := some ("/usr/bin/riscv64-unknown-elf-gcc", .Path)
  zig := none
  rustc := none
  rust_sysroot := none
  qemu := .ok ("/usr/bin/qemu-system-riscv64", .Path)
  gcc_name := "riscv64-unknown-elf-gcc"
  zig_name := "zig"
  qemu_name := "qemu-system-riscv64"
  is_file := fun _ => true
  toolchain_runs := fun _ => .ok "12.2.0"
  diagnostics := ""

/-- A node nobody has configured, in a build without tools and rules. -/
def plain_setup : RunSetup where
  build := ⟨"1.0.0", "[]", "", ""⟩
  environment := found_environment
  node := ⟨"work", none, none, none, none, none, false, [], [], none, none⟩
  quoted := fun text => "\"" ++ text ++ "\""
  own_instance := ⟨"dev-1-0", "default", none⟩
  instances := []
  current_instance := none
  active_sandbox := none
  readiness := .ok ()
  sandbox := none
  task_instance := none

def coder_setup : RunSetup :=
  { plain_setup with
    node := { plain_setup.node with llm_config := some ⟨"deepseek", "", "https://api.deepseek.com", "deepseek-coder"⟩ } }

/-- The node with a sandbox of twice the memory, for which a run is asked. -/
def larger_setup : RunSetup :=
  { plain_setup with
    node := { plain_setup.node with manual_sandboxes := [⟨"large", none, some 256, none, none, none, none, false⟩] }
    sandbox := some "large" }

/-- The text of the document of the node, with a model. -/
def plain_text (model : String) : String :=
  "\x7b\"agent\":\x7b\"crt0\":\"injected\",\"language_allowlist\":[\".c\",\".h\",\".S\"," ++
  "\".s\",\".zig\",\".rs\"],\"link_addr\":\"0x80000000\",\"mabi\":\"lp64d\"," ++
  "\"march\":\"rv64gc\",\"max_iterations\":10,\"request_timeout_secs\":120," ++
  "\"tools_sha256\":\"4f53cda18c2baa0c0354bb5f9a3ecbe5ed12ab4d8e11ba873c2f11161202b945\"\x7d," ++
  "\"llm\":\x7b\"base_url\":\"https://api.deepseek.com\",\"model\":\"" ++
  model ++ "\",\"provider_id\":\"deepseek\"\x7d,\"policy\":\x7b\"allowed_extensions\":[\".c\",\".h\"," ++
  "\".S\",\".s\",\".zig\",\".rs\"],\"traversal_guard\":\"normalize+containment\"\x7d," ++
  "\"prompt\":\x7b\"sha256\":\"75a11da44c802486bc6f65640aa48a730f0f684c5c07a42ba3cd1735eb3fb070\"\x7d," ++
  "\"schema\":\x7b\"app_version\":\"1.0.0\"," ++
  "\"fingerprint_schema\":\"riscdom.run.fingerprint.v1\"\x7d," ++
  "\"toolchain\":\x7b\"path\":\"/usr/bin/riscv64-unknown-elf-gcc\",\"source\":\"Path\"," ++
  "\"version\":\"12.2.0\"\x7d,\"vm\":\x7b\"cpu\":\"rv64\",\"machine\":\"virt\"," ++
  "\"memory_mb\":128,\"qemu_path\":\"/usr/bin/qemu-system-riscv64\"," ++
  "\"qemu_version\":\"12.2.0\",\"snapshot_mode\":\"tcp-relay\"\x7d\x7d"

/-- SHA-256 on the texts of the two documents and of what is digested into them. -/
def document_crates : Crates where
  sha256_hex := digest_of
    [("[]", "4f53cda18c2baa0c0354bb5f9a3ecbe5ed12ab4d8e11ba873c2f11161202b945"),
      ("\n\n", "75a11da44c802486bc6f65640aa48a730f0f684c5c07a42ba3cd1735eb3fb070"),
      (plain_text "deepseek-chat", "e7fef6be23c04176030b87a0ee24c135be27215c6b438d75ac79341a2504fe57"),
      (plain_text "deepseek-coder", "aca51aa9b40cff5907f4bd4a02bef6529502cbca03087a2292193eb6bae9750e")]
  json := compact

namespace RunSetup

theorem models_fingerprinted :
    fingerprint document_crates (plain_setup.run_fingerprint document_crates) ≠
      fingerprint document_crates (coder_setup.run_fingerprint document_crates) := by
  have agree (setup : RunSetup) (plain : setup.definition = some SandboxDef.fallback) (empty : setup.guest = none) :
      setup.Agrees := by
    constructor
    · intro definition resolved
      cases plain.symm.trans resolved
      refine ⟨?_, ?_, ?_⟩
      all_goals
        rintro _ ⟨⟩
    · intro guest stands
      cases empty.symm.trans stands
  obtain ⟨-, -, differ⟩ := (fingerprint_describes_iff document_crates (digest_of_injective (by decide) (by decide))
    plain_setup coder_setup (plain_setup.configured (some .fallback) none) (coder_setup.configured (some .fallback) none) rfl rfl).mpr
    ⟨agree plain_setup rfl rfl, agree coder_setup rfl rfl, fun alike => absurd (congrArg Seen.model alike) (by decide)⟩
  apply differ
  rintro ⟨-, -, -, -, model, -⟩
  exact absurd model (by decide)

/-- A guest of twice the memory is documented, and fingerprinted, as the guest of the node. -/
theorem larger_guest_undocumented : ¬ ∃ crates : Crates, ∀ (first second : RunSetup) (e f : Effective),
    first.run_agent_for = .ok e → second.run_agent_for = .ok f →
      Describes (first.run_fingerprint crates) e ∧ Describes (second.run_fingerprint crates) f ∧
        (¬ Effective.Same e f →
          fingerprint crates (first.run_fingerprint crates) ≠ fingerprint crates (second.run_fingerprint crates)) := by
  rintro ⟨crates, law⟩
  obtain ⟨-, -, differ⟩ := law larger_setup plain_setup
    (larger_setup.configured (some ⟨"large", none, some 256, none, none, none, none, false⟩) none)
    (plain_setup.configured (some .fallback) none) rfl rfl
  apply differ
  · rintro ⟨-, machines, -⟩
    exact absurd ((machines ("/usr/bin/qemu-system-riscv64", 256)).mp (by decide)) (by decide)
  · exact congrArg (fingerprint crates) (run_fingerprint_congr rfl)

end RunSetup

end Riscdom.Provenance
