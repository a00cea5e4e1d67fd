import Riscdom.AuditHook
import Riscdom.Policy

/-!
The tools a run offers to its model, each with every way it can end, and their
dispatcher. The files, the compilers, the emulator and the host's queue are
given by what they answer.
-/
namespace Riscdom.Agent
open Riscdom.Json Riscdom.Text Riscdom.Audit Riscdom.Fallible.Act

/-! ### What the tools meet -/

structure CompileOutput where
  ok : Bool
  stdout : String
  stderr : String

/-- How an attempt to start a machine goes, and what is recorded until it has started or is given up. -/
structure Attempt where
  ports : Except String (Nat × Nat)
  created : Except String Unit
  started : Except String Unit
  records : List SandboxEvent

/-- What stands in a directory; a directory may stop being readable after some of its entries. -/
inductive Entry
  | file (name : String)
  | dir (name : String) (entries : List Entry) (error : Option String)

/-- The serial output, read before the deadline at some times and once when it has passed. -/
structure Serial where
  polls : List (Nat × List UInt8)
  last : List UInt8

/-- The host's queue of sandbox requests. -/
structure SandboxRequester where
  request : String → Option String → Option String → Except String String
  status : Except String String

/-- What a call of a tool is given, with what the files and programs around it answer. -/
structure ToolContext where
  hook : Hook
  policy : WorkspacePolicy
  requester : Option SandboxRequester
  create_dir_all : List Component → Except String Unit
  write : List Component → String → Except String Unit
  compile_freestanding : List Component → List Component → Except AgentError CompileOutput
  attempts : Nat → Attempt
  serial : Serial
  from_utf8_lossy : List UInt8 → String
  workspace : Option (List Entry × Option String)
  quoted : String → String

def MAX_TOOL_RESULT : Nat := 8 * 1024
def SERIAL_SETTLE_QUIET : Nat := 150
def START_ATTEMPTS : Nat := 3

def truncate_result (s : String) : String := truncate s MAX_TOOL_RESULT

def arg_str (args : Value) (key : String) : Except AgentError String :=
  match args.get key with
  | some (.string text) => .ok text
  | _ => .error (.Tool ("missing string argument: " ++ key))

def optional_str (args : Value) (key : String) : Option String :=
  match args.get key with
  | some (.string text) => some text
  | _ => none

/-! ### The tools -/

namespace ToolContext
variable (ctx : ToolContext)

/-- A path the policy has answered on: a refusal is recorded. -/
def granted (tool path : String) (verdict : Except AgentError (List Component)) : Tool (List Component) :=
  match verdict with
  | .ok abs => return abs
  | .error err => do
    ctx.hook.record_policy_deny err.display (json [("tool", .string tool), ("path", .string path)])
    fail err

/-- The directory of a file, made where it is missing. -/
def create_parent (abs : List Component) : Except AgentError Unit :=
  if abs = [] ∨ abs = [.RootDir] then .ok () else (ctx.create_dir_all abs.dropLast).mapError .Io

def tool_write_source (args : Value) : Tool String := do
  let path ← ofExcept (arg_str args "path")
  let content ← ofExcept (arg_str args "content")
  let abs ← ctx.granted "write_source" path (ctx.policy.check_write path)
  ofExcept (ctx.create_parent abs)
  ofExcept ((ctx.write abs content).mapError .Io)
  ctx.hook.record_file_write path content.utf8ByteSize
  return "wrote " ++ toString content.utf8ByteSize ++ " bytes to " ++ path

def tool_compile (args : Value) : Tool String := do
  let src_rel ← ofExcept (arg_str args "source_path")
  let out_rel ← ofExcept (arg_str args "output_elf")
  let src ← ctx.granted "compile" src_rel (ctx.policy.check_read src_rel)
  let out ← ctx.granted "compile" out_rel (ctx.policy.check_read out_rel)
  if extension out ≠ some "elf" then fail (.Tool "output_elf must end in .elf")
  else do
    ofExcept (ctx.create_parent out)
    ctx.hook.emit "agent.compile.start" (json [("source", .string src_rel), ("output", .string out_rel)])
    let res ← ofExcept (ctx.compile_freestanding src out)
    ctx.hook.emit "agent.compile.result" (json [("ok", .bool res.ok), ("stderr", .string (truncate_result res.stderr)),
      ("stdout", .string (truncate_result res.stdout))])
    if res.ok then return "compiled " ++ src_rel ++ " -> " ++ out_rel ++ " (ok)"
    else fail (.Tool ("compile failed:\n" ++ if trim res.stderr = "" then trim res.stdout else trim res.stderr))

/-- Attempts until one starts the machine or breaks off, or the last has failed. -/
def start_attempts : List Nat → String → Tool String
  | [], last_error => fail (.Tool ("failed to start the VM after " ++ toString START_ATTEMPTS ++ " attempts: " ++ last_error))
  | attempt :: rest, _ => do
    let (qmp_port, serial_port) ← ofExcept ((ctx.attempts attempt).ports.mapError .Tool)
    ofExcept ((ctx.attempts attempt).created.mapError .Sandbox)
    ctx.hook.sandbox_records (ctx.attempts attempt).records
    match (ctx.attempts attempt).started with
    | .ok () =>
      modify fun bench => { bench with vm := some ⟨true⟩ }
      return "VM started (qmp=" ++ toString qmp_port ++ ", serial=" ++ toString serial_port ++ ")"
    | .error error => start_attempts rest ("attempt " ++ toString attempt ++ ": " ++ error)

def tool_start_vm (args : Value) : Tool String := do
  match ← get fun bench => bench.vm with
  | some _ =>
    fail (.Tool ("a VM is already running; reuse it (compile and read_serial) instead of starting another one; " ++
      "call stop_vm only if the user asks to stop the VM"))
  | none =>
    let elf_rel ← ofExcept (arg_str args "elf_path")
    let _ ← ctx.granted "start_vm" elf_rel (ctx.policy.check_read elf_rel)
    ctx.start_attempts (List.range' 1 START_ATTEMPTS) "unknown error"

/-- The output once it has been quiet for a while, or what there is when the wait is over. -/
def settled : List (Nat × List UInt8) → Nat → Option Nat → String
  | [], _, _ =>
    if ctx.serial.last = [] then
      "No serial output yet: the guest may still be booting. You can call read_serial again in a moment."
    else ctx.from_utf8_lossy ctx.serial.last
  | (now, out) :: rest, seen, quiet_since =>
    let grown := out.length > seen
    let since := if grown then some now else quiet_since
    if out ≠ [] ∧ (since.map fun since => decide (now - since ≥ SERIAL_SETTLE_QUIET)).getD false then ctx.from_utf8_lossy out
    else settled rest (if grown then out.length else seen) since

def tool_read_serial : Tool String := do
  match ← get fun bench => bench.vm with
  | none => fail (.Tool "no VM running; call start_vm first")
  | some _ => return ctx.settled ctx.serial.polls 0 none

def tool_stop_vm : Tool String := do
  match ← get fun bench => bench.vm with
  | none => fail (.Tool "no VM running")
  | some vm =>
    ctx.hook.sandbox_records ((← get fun bench => bench.chatter.headD []) ++ if vm.spawned then [.Stop] else [])
    modify fun bench => { bench with vm := none, chatter := bench.chatter.tail }
    return "VM stopped"

mutual

/-- The files under an entry, hidden ones left out. -/
def collect_entry (under : String) : Entry → Except String (List String)
  | .file name =>
    if starts_with "." name then .ok [] else .ok [(under ++ name).map fun c => if c = '\\' then '/' else c]
  | .dir name entries error =>
    if starts_with "." name then .ok [] else collect_files (under ++ name ++ "/") entries error

def collect_files (under : String) : List Entry → Option String → Except String (List String)
  | [], none => .ok []
  | [], some error => .error error
  | entry :: rest, error => do
    let first ← collect_entry under entry
    return first ++ (← collect_files under rest error)

end

def tool_list_workspace : Tool String :=
  match ctx.workspace with
  | none => return "(workspace is empty)"
  | some (entries, error) => do
    let files ← ofExcept ((collect_files "" entries error).mapError .Io)
    if files = [] then return "(workspace is empty)"
    else return "\n".intercalate (files.mergeSort fun a b => decide (a ≤ b))

def requester_or_error : Except AgentError SandboxRequester :=
  match ctx.requester with
  | some requester => .ok requester
  | none => .error (.Tool ("this host exposes no sandbox request surface; the user has to make the change " ++
      "through the interface"))

def tool_request_sandbox (args : Value) : Tool String := do
  let action ← ofExcept (arg_str args "action")
  if action ∉ ["switch", "define", "assemble"] then
    fail (.Tool ("unknown action " ++ ctx.quoted action ++ ": expected switch, define or assemble"))
  else do
    let requester ← ofExcept ctx.requester_or_error
    let id ← ofExcept ((requester.request action (optional_str args "sandbox") (optional_str args "reason")).mapError .Tool)
    return "requested " ++ action ++ "; the id is " ++ id ++ " — it is waiting for approval"

def tool_sandbox_status : Tool String := do
  let requester ← ofExcept ctx.requester_or_error
  ofExcept (requester.status.mapError .Tool)

/-! ### The dispatcher -/

/-- The arguments of a call; blank ones are none. -/
def parse_args (args : String) : Except AgentError Value :=
  if trim args = "" then .ok (json [])
  else
    match ctx.hook.crates.json.from_str args with
    | .ok parsed => .ok parsed
    | .error error => .error (.Tool ("invalid tool arguments JSON: " ++ error))

def run_tool (name : String) (parsed : Value) : Tool String :=
  match name with
  | "write_source" => ctx.tool_write_source parsed
  | "compile" => ctx.tool_compile parsed
  | "start_vm" => ctx.tool_start_vm parsed
  | "read_serial" => ctx.tool_read_serial
  | "stop_vm" => ctx.tool_stop_vm
  | "list_workspace" => ctx.tool_list_workspace
  | "request_sandbox" => ctx.tool_request_sandbox parsed
  | "sandbox_status" => ctx.tool_sandbox_status
  | other => fail (.Tool ("unknown tool: " ++ other))

/-- The next number of a call. -/
def fetch_add : Tool Nat := do
  let seq ← get fun bench => bench.call_seq
  modify fun bench => { bench with call_seq := bench.call_seq + 1 }
  return seq

def execute_tool (name args : String) : Tool String := do
  let parsed ← ofExcept (ctx.parse_args args)
  let seq ← fetch_add
  let call : ToolCall := ⟨"tool-" ++ toString seq ++ "-" ++ name, "function", ⟨name, args⟩⟩
  ctx.hook.record_tool_call call
  let result ← attempt (ctx.run_tool name parsed)
  match result with
  | .ok text => ctx.hook.record_tool_result call.id text true
  | .error error => ctx.hook.record_tool_result call.id error.display false
  ofExcept (result.map truncate_result)

/-! ### What a tool leaves in the store -/

/-- The rows a computation leaves are counted: so many denials and nothing else. -/
def Denies {α : Type} (x : Tool α) (n : Nat) (bench : Bench) : Prop :=
  ∃ marks, Marks ctx.hook bench (x bench).2 marks ∧ marks.length = n ∧ ∀ m ∈ marks, m.action = "agent.policy.deny"

section Rules
variable {ctx} {α β : Type} {n : Nat} {bench second : Bench} {f : α → Tool β}

theorem denies_still {x : Tool α} (granted : bench.world.appends = []) (still : (x bench).2.world = bench.world) :
    ctx.Denies x 0 bench := by
  refine ⟨[], ⟨by rw [still, granted], [], ?_, rfl⟩, rfl, by simp⟩
  rw [still]
  exact ctx.hook.leaves_nil _

/-- A silent first part leaves the count to the second. -/
theorem denies_bind {x : Tool α} {a : α} (first : x bench = (.ok a, second)) (silent : Marks ctx.hook bench second [])
    (rest : ctx.Denies (f a) n second) : ctx.Denies (x >>= f) n bench := by
  obtain ⟨marks, held, count, denials⟩ := rest
  refine ⟨marks, ?_, count, denials⟩
  rw [bind_of_ok first]
  exact marks_append silent held

theorem denies_ofExcept {result : Except AgentError α} (granted : bench.world.appends = [])
    (passed : ∀ a, result = .ok a → ctx.Denies (f a) n bench) (failed : ∀ e, result = .error e → n = 0) :
    ctx.Denies (ofExcept result >>= f) n bench := by
  cases result with
  | ok a => exact denies_bind rfl (marks_nil _ granted) (passed a rfl)
  | error e =>
    rw [failed e rfl]
    exact denies_still granted rfl

theorem denies_get {view : Bench → α} (granted : bench.world.appends = []) (rest : ctx.Denies (f (view bench)) n bench) :
    ctx.Denies (get view >>= f) n bench := denies_bind rfl (marks_nil _ granted) rest

theorem denies_emit {f : Unit → Tool β} {action : String} {detail : Value} (granted : bench.world.appends = [])
    (uncounted : action ∉ ["agent.tool.call", "agent.tool.result", "agent.policy.deny"])
    (rest : ∀ second : Bench, second.world.appends = [] → ctx.Denies (f ()) n second) :
    ctx.Denies (ctx.hook.emit action detail >>= f) n bench := by
  obtain ⟨second, emitted, marks⟩ := emit_uncounted ctx.hook uncounted granted detail
  exact denies_bind emitted marks (rest second marks.1)

theorem denies_records {f : Unit → Tool β} {events : List SandboxEvent} (granted : bench.world.appends = [])
    (rest : ∀ second : Bench, second.world.appends = [] → ctx.Denies (f ()) n second) :
    ctx.Denies (ctx.hook.sandbox_records events >>= f) n bench := by
  obtain ⟨second, recorded, marks, -⟩ := sandbox_records_marks ctx.hook granted events
  exact denies_bind recorded marks (rest second marks.1)

theorem deny_counted : "agent.policy.deny" ∈ ["agent.tool.call", "agent.tool.result", "agent.policy.deny"] := by simp

/-- A path that is refused leaves the one denial, and ends the tool. -/
theorem denies_granted {f : List Component → Tool β} {tool path : String} {verdict : Except AgentError (List Component)}
    (granted : bench.world.appends = []) (passed : ∀ abs, verdict = .ok abs → ctx.Denies (f abs) n bench)
    (refused : ∀ e, verdict = .error e → n = 1) : ctx.Denies (ctx.granted tool path verdict >>= f) n bench := by
  cases verdict with
  | ok abs => exact denies_bind rfl (marks_nil _ granted) (passed abs rfl)
  | error error =>
    obtain ⟨second, event, emitted, marks, action, -⟩ := emit_counted ctx.hook deny_counted granted
      (json [("reason", .string error.display), ("detail", json [("tool", .string tool), ("path", .string path)])])
    have denied : ctx.granted tool path (.error error) bench = (.error error, second) := by
      rw [ToolContext.granted, Hook.record_policy_deny, bind_of_ok emitted]
      rfl
    refine ⟨[event], ?_, (refused error rfl).symm, ?_⟩
    · rw [bind_of_error denied]
      exact marks
    · intro m inside
      rw [List.mem_singleton.mp inside, action]

end Rules

/-! ### The verdict of the policy on a call -/

/-- What the policy answers on the paths a call names, where the call comes so far. -/
def verdicts (vm : Option Vm) (name : String) (parsed : Value) : List (Except AgentError (List Component)) :=
  match name with
  | "write_source" =>
    match arg_str parsed "path", arg_str parsed "content" with
    | .ok path, .ok _ => [ctx.policy.check_write path]
    | _, _ => []
  | "compile" =>
    match arg_str parsed "source_path", arg_str parsed "output_elf" with
    | .ok src_rel, .ok out_rel => [ctx.policy.check_read src_rel, ctx.policy.check_read out_rel]
    | _, _ => []
  | "start_vm" =>
    match vm, arg_str parsed "elf_path" with
    | none, .ok elf_rel => [ctx.policy.check_read elf_rel]
    | _, _ => []
  | _ => []

/-- The policy refuses one of the paths. -/
def refuses (vm : Option Vm) (name : String) (parsed : Value) : Bool :=
  (ctx.verdicts vm name parsed).any fun verdict => !verdict.toBool

def denials (vm : Option Vm) (name : String) (parsed : Value) : Nat := if ctx.refuses vm name parsed then 1 else 0

section Tools
variable {ctx} {bench : Bench}

theorem tool_write_source_denies (granted : bench.world.appends = []) (parsed : Value) :
    ctx.Denies (ctx.tool_write_source parsed) (ctx.denials bench.vm "write_source" parsed) bench := by
  rw [tool_write_source]
  refine denies_ofExcept granted ?_ (by intro e no_path; simp [denials, refuses, verdicts, no_path])
  intro path path_ok
  refine denies_ofExcept granted ?_ (by intro e no_content; simp [denials, refuses, verdicts, path_ok, no_content])
  intro content content_ok
  have counted : ctx.denials bench.vm "write_source" parsed = if !(ctx.policy.check_write path).toBool then 1 else 0 := by
    simp [denials, refuses, verdicts, path_ok, content_ok]
  rw [counted]
  refine denies_granted granted ?_ (by intro e refused; rw [refused]; rfl)
  intro abs passed
  rw [passed]
  refine denies_ofExcept granted ?_ (fun _ _ => rfl)
  intro _ _
  refine denies_ofExcept granted ?_ (fun _ _ => rfl)
  intro _ _
  refine denies_emit granted (by simp) ?_
  intro second granted
  exact denies_still granted rfl

theorem tool_compile_denies (granted : bench.world.appends = []) (parsed : Value) :
    ctx.Denies (ctx.tool_compile parsed) (ctx.denials bench.vm "compile" parsed) bench := by
  rw [tool_compile]
  refine denies_ofExcept granted ?_ (by intro e no_path; simp [denials, refuses, verdicts, no_path])
  intro src_rel src_ok
  refine denies_ofExcept granted ?_ (by intro e no_path; simp [denials, refuses, verdicts, src_ok, no_path])
  intro out_rel out_ok
  have counted : ctx.denials bench.vm "compile" parsed =
      if !(ctx.policy.check_read src_rel).toBool || !(ctx.policy.check_read out_rel).toBool then 1 else 0 := by
    simp [denials, refuses, verdicts, src_ok, out_ok]
  rw [counted]
  refine denies_granted granted ?_ (by intro e refused; rw [refused]; rfl)
  intro src src_passed
  rw [src_passed]
  refine denies_granted granted ?_ (by intro e refused; rw [refused]; rfl)
  intro out out_passed
  rw [out_passed]
  by_cases elf : extension out ≠ some "elf"
  · rw [if_pos elf]
    exact denies_still granted rfl
  · rw [if_neg elf]
    refine denies_ofExcept granted ?_ (fun _ _ => rfl)
    intro _ _
    refine denies_emit granted (by simp) ?_
    intro second granted
    refine denies_ofExcept granted ?_ (fun _ _ => rfl)
    intro res _
    refine denies_emit granted (by simp) ?_
    intro third granted
    cases res.ok
    · exact denies_still granted rfl
    · exact denies_still granted rfl

theorem start_attempts_denies (attempts : List Nat) (last_error : String) {bench : Bench}
    (granted : bench.world.appends = []) : ctx.Denies (ctx.start_attempts attempts last_error) 0 bench := by
  induction attempts generalizing last_error bench with
  | nil => exact denies_still granted rfl
  | cons attempt rest ih =>
    rw [start_attempts]
    refine denies_ofExcept granted ?_ (fun _ _ => rfl)
    intro ports _
    refine denies_ofExcept granted ?_ (fun _ _ => rfl)
    intro _ _
    refine denies_records granted ?_
    intro second granted
    cases (ctx.attempts attempt).started with
    | ok _ => exact denies_still granted rfl
    | error error => exact ih _ granted

theorem tool_start_vm_denies (granted : bench.world.appends = []) (parsed : Value) :
    ctx.Denies (ctx.tool_start_vm parsed) (ctx.denials bench.vm "start_vm" parsed) bench := by
  rw [tool_start_vm]
  refine denies_get granted ?_
  cases bench.vm with
  | some vm => exact denies_still granted rfl
  | none =>
    refine denies_ofExcept granted ?_ (by intro e no_path; simp [denials, refuses, verdicts, no_path])
    intro elf_rel path_ok
    have counted : ctx.denials none "start_vm" parsed = if !(ctx.policy.check_read elf_rel).toBool then 1 else 0 := by
      simp [denials, refuses, verdicts, path_ok]
    rw [counted]
    refine denies_granted granted ?_ (by intro e refused; rw [refused]; rfl)
    intro elf passed
    rw [passed]
    exact start_attempts_denies _ _ granted

theorem tool_read_serial_denies (granted : bench.world.appends = []) : ctx.Denies ctx.tool_read_serial 0 bench := by
  refine denies_get granted ?_
  cases bench.vm with
  | none => exact denies_still granted rfl
  | some vm => exact denies_still granted rfl

theorem tool_stop_vm_denies (granted : bench.world.appends = []) : ctx.Denies ctx.tool_stop_vm 0 bench := by
  refine denies_get granted ?_
  cases bench.vm with
  | none => exact denies_still granted rfl
  | some vm =>
    refine denies_get granted ?_
    refine denies_records granted ?_
    intro second granted
    exact denies_still granted rfl

theorem tool_list_workspace_denies (granted : bench.world.appends = []) : ctx.Denies ctx.tool_list_workspace 0 bench := by
  rw [tool_list_workspace]
  cases ctx.workspace with
  | none => exact denies_still granted rfl
  | some listed =>
    refine denies_ofExcept granted ?_ (fun _ _ => rfl)
    intro files _
    by_cases empty : files = []
    · rw [if_pos empty]
      exact denies_still granted rfl
    · rw [if_neg empty]
      exact denies_still granted rfl

theorem tool_request_sandbox_denies (granted : bench.world.appends = []) (parsed : Value) :
    ctx.Denies (ctx.tool_request_sandbox parsed) 0 bench := by
  refine denies_ofExcept granted ?_ (fun _ _ => rfl)
  intro action _
  by_cases unknown : action ∉ ["switch", "define", "assemble"]
  · rw [if_pos unknown]
    exact denies_still granted rfl
  · rw [if_neg unknown]
    refine denies_ofExcept granted ?_ (fun _ _ => rfl)
    intro requester _
    refine denies_ofExcept granted ?_ (fun _ _ => rfl)
    intro id _
    exact denies_still granted rfl

theorem tool_sandbox_status_denies (granted : bench.world.appends = []) : ctx.Denies ctx.tool_sandbox_status 0 bench := by
  refine denies_ofExcept granted ?_ (fun _ _ => rfl)
  intro requester _
  exact denies_still granted rfl

/-- Every tool leaves a denial where the policy refused it, and no other row that is counted. -/
theorem run_tool_denies (granted : bench.world.appends = []) (name : String) (parsed : Value) :
    ctx.Denies (ctx.run_tool name parsed) (ctx.denials bench.vm name parsed) bench := by
  unfold run_tool
  split
  · exact tool_write_source_denies granted parsed
  · exact tool_compile_denies granted parsed
  · exact tool_start_vm_denies granted parsed
  · exact tool_read_serial_denies granted
  · exact tool_stop_vm_denies granted
  · exact tool_list_workspace_denies granted
  · exact tool_request_sandbox_denies granted parsed
  · exact tool_sandbox_status_denies granted
  · next other no_write no_compile no_start _ _ _ _ _ =>
    have none_checked : ctx.denials bench.vm name parsed = 0 := by
      simp [denials, refuses, verdicts]
    rw [none_checked]
    exact denies_still granted rfl

end Tools

/-! ### The trail of a call -/

/-- What a call is given can be parsed. -/
def Parses (args : String) : Prop := trim args = "" ∨ ∃ parsed, ctx.hook.crates.json.from_str args = .ok parsed

/-- The call, and its result under the call's id, with a denial between them where the policy refused the call. -/
def Audited (name args : String) (before after : Bench) : Prop :=
  ∃ (id : String) (events : List AuditEvent) (call : AuditEvent) (denied : List AuditEvent) (result : AuditEvent),
    ctx.hook.Leaves before.world after.world events ∧
    events.filter Marked = call :: (denied ++ [result]) ∧
      call.action = "agent.tool.call" ∧ call.detail.get "id" = some (.string id) ∧
        call.detail.get "name" = some (.string name) ∧
          result.action = "agent.tool.result" ∧ result.detail.get "call_id" = some (.string id) ∧
            (∀ d ∈ denied, d.action = "agent.policy.deny") ∧
              denied.length = match ctx.parse_args args with
                | .ok parsed => if ctx.refuses before.vm name parsed then 1 else 0
                | .error _ => 0

section Calls
variable {ctx} {bench : Bench}

theorem parses_iff (args : String) : ctx.Parses args ↔ ∃ parsed, ctx.parse_args args = .ok parsed := by
  rw [Parses, parse_args]
  by_cases blank : trim args = ""
  · rw [if_pos blank]
    simp [blank]
  · rw [if_neg blank]
    cases ctx.hook.crates.json.from_str args with
    | ok parsed => simp
    | error error => simp [blank]

/-- Arguments that cannot be parsed end the call before anything is recorded. -/
theorem execute_tool_unparsed {args : String} {error : AgentError} (refused : ctx.parse_args args = .error error)
    (name : String) (bench : Bench) : ctx.execute_tool name args bench = (.error error, bench) := by
  rw [execute_tool, refused]
  rfl

/-- A parsed call leaves its whole trail. -/
theorem execute_tool_audited (granted : bench.world.appends = []) {args : String} {parsed : Value}
    (parses : ctx.parse_args args = .ok parsed) (name : String) :
    ctx.Audited name args bench (ctx.execute_tool name args bench).2 := by
  have call_counted : "agent.tool.call" ∈ ["agent.tool.call", "agent.tool.result", "agent.policy.deny"] := by simp
  have result_counted : "agent.tool.result" ∈ ["agent.tool.call", "agent.tool.result", "agent.policy.deny"] := by simp
  have parsing : (ofExcept (ctx.parse_args args) : Tool Value) bench = (.ok parsed, bench) := by
    rw [parses]
    rfl
  have numbered : ToolContext.fetch_add bench = (.ok bench.call_seq, { bench with call_seq := bench.call_seq + 1 }) := rfl
  have seated : Bench.vm { bench with call_seq := bench.call_seq + 1 } = bench.vm := rfl
  have opened : Marks ctx.hook bench { bench with call_seq := bench.call_seq + 1 } [] :=
    ⟨granted, [], ctx.hook.leaves_nil _, rfl⟩
  rw [execute_tool, bind_of_ok parsing, bind_of_ok numbered]
  generalize Bench.mk bench.world (bench.call_seq + 1) bench.vm bench.chatter = start at seated opened
  generalize "tool-" ++ toString bench.call_seq ++ "-" ++ name = id
  obtain ⟨called, call, entered, call_marks, call_action, call_detail, slot⟩ :=
    emit_counted ctx.hook call_counted opened.1 (json [("id", .string id), ("name", .string name),
      ("arguments", .string (truncate args MAX_DETAIL_STR)), ("arguments_len", .integer args.utf8ByteSize)])
  have recorded : ctx.hook.record_tool_call ⟨id, "function", ⟨name, args⟩⟩ start = (.ok (), called) := entered
  have ran : ctx.Denies (ctx.run_tool name parsed) (ctx.denials called.vm name parsed) called :=
    run_tool_denies call_marks.1 name parsed
  obtain ⟨denied, denied_marks, count, denials⟩ := ran
  -- what the tool returns decides over the text of the result, not over its row
  have closing (text : String) (ok : Bool) : ∃ closed result,
      ctx.hook.record_tool_result id text ok (ctx.run_tool name parsed called).2 = (.ok (), closed) ∧
        Marks ctx.hook (ctx.run_tool name parsed called).2 closed [result] ∧ result.action = "agent.tool.result" ∧
          result.detail.get "call_id" = some (.string id) := by
    obtain ⟨closed, result, written, marks, action, detail, -⟩ := emit_counted ctx.hook result_counted denied_marks.1
      (json [("call_id", .string id), ("ok", .bool ok), ("result_len", .integer text.utf8ByteSize),
        ("result", .string (truncate text MAX_DETAIL_STR))])
    refine ⟨closed, result, written, marks, action, ?_⟩
    rw [detail]
    simp [get_json, lookup]
  have trail {closed : Bench} {result : AuditEvent} (marks : Marks ctx.hook (ctx.run_tool name parsed called).2 closed [result])
      (action : result.action = "agent.tool.result") (under : result.detail.get "call_id" = some (.string id)) :
      ctx.Audited name args bench closed := by
    obtain ⟨-, events, left, counted⟩ := marks_append opened (marks_append call_marks (marks_append denied_marks marks))
    refine ⟨id, events, call, denied, result, left, counted, call_action, ?_, ?_, action, under, denials, ?_⟩
    · rw [call_detail]
      simp [get_json, lookup]
    · rw [call_detail]
      simp [get_json, lookup]
    · rw [count, parses, ToolContext.denials, slot, seated]
  rw [bind_of_ok recorded, bind_of_ok (attempt_run _ _)]
  cases (ctx.run_tool name parsed called).1 with
  | ok text =>
    obtain ⟨closed, result, written, marks, action, under⟩ := closing text true
    simp only
    rw [bind_of_ok written]
    exact trail marks action under
  | error error =>
    obtain ⟨closed, result, written, marks, action, under⟩ := closing error.display false
    simp only
    rw [bind_of_ok written]
    exact trail marks action under

/-- Where appends succeed, a call leaves its trail exactly when its arguments are blank or JSON. -/
theorem execute_tool_audited_iff (ctx : ToolContext) (bench : Bench) (granted : bench.world.appends = [])
    (name args : String) : ctx.Audited name args bench (ctx.execute_tool name args bench).2 ↔ ctx.Parses args := by
  rw [parses_iff]
  constructor
  · intro audited
    by_contra unparsed
    cases parsing : ctx.parse_args args with
    | ok parsed => exact unparsed ⟨parsed, parsing⟩
    | error error =>
      rw [execute_tool_unparsed parsing] at audited
      obtain ⟨_, events, _, _, _, left, counted, -⟩ := audited
      have none_new : (bench.world.rows ctx.hook.store).length = (bench.world.rows ctx.hook.store).length + events.length :=
        Hook.leaves_length left
      have events_nil : events = [] := List.eq_nil_of_length_eq_zero (by omega)
      rw [events_nil] at counted
      cases counted
  · rintro ⟨parsed, parses⟩
    exact execute_tool_audited granted parses name

end Calls

end ToolContext

/-! ### At a concrete workspace -/

/-- A host without compilers, machines and files, over a new store. -/
def bare_context (crates : Crates) : ToolContext where
  hook := ⟨crates, ⟨["data", "audit.db"]⟩, "local-0-host"⟩
  policy := .new "/work"
  requester := none
  create_dir_all := fun _ => .ok ()
  write := fun _ _ => .ok ()
  compile_freestanding := fun _ _ => .error (.Tool "failed to run gcc")
  attempts := fun _ => ⟨.ok (4444, 4445), .ok (), .error "no emulator", []⟩
  serial := ⟨[], []⟩
  from_utf8_lossy := fun _ => ""
  workspace := none
  quoted := fun text => String.ofList (Json.quoted text)

def idle_bench : Bench where
  world := { disk := fun _ => none, clock := [5, 6, 7], appends := [], updates := [], opens := [] }
  call_seq := 1
  vm := none
  chatter := []

/-- A write to a path that climbs out of the workspace. -/
def climbing_write : Value := json [("path", .string "../a.c"), ("content", .string "")]

/-- SHA-256 on the texts of the rows that the write leaves. -/
def trail_crates : Crates where
  sha256_hex := digest_of
    [(GENESIS_PREV_HASH ++ "|5|agent|agent.tool.call|" ++
        "\x7b\"arguments\":\"\x7b\\\"content\\\":\\\"\\\",\\\"path\\\":\\\"../a.c\\\"\x7d\",\"argument" ++
        "s_len\":30,\"id\":\"tool-1-write_source\",\"name\":\"write_source\"\x7d",
        "2747f2c2d66215ee4ae84de5fc13aef4febe39f6a1e31b828aea6aba8e821597"),
      ("2747f2c2d66215ee4ae84de5fc13aef4febe39f6a1e31b828aea6aba8e821597|6|agent|agent.policy.deny|" ++
        "\x7b\"detail\":\x7b\"path\":\"../a.c\",\"tool\":\"write_source\"\x7d,\"" ++
        "reason\":\"policy denied: path traversal not allowed: ../a.c\"\x7d",
        "0b5cd324bd9e8396108be0b9f1738d0093ab6c8890105878e208845fd8db6a14"),
      ("0b5cd324bd9e8396108be0b9f1738d0093ab6c8890105878e208845fd8db6a14|7|agent|agent.tool.result|" ++
        "\x7b\"call_id\":\"tool-1-write_source\",\"ok\":fals" ++
        "e,\"result\":\"policy denied: path traversal not allowed: ../a.c\",\"result_len\":49\x7d",
        "74e236d90d8eb9f8f7e3fc698f4ca1fcc96669c3adc6f2b0b3c5c226e20aa6b8")]
  json := compact

namespace ToolContext

theorem climbing_write_audited :
    (bare_context trail_crates).Audited "write_source" (compact.to_string climbing_write) idle_bench
      ((bare_context trail_crates).execute_tool "write_source" (compact.to_string climbing_write) idle_bench).2 :=
  (execute_tool_audited_iff (bare_context trail_crates) idle_bench rfl "write_source" (compact.to_string climbing_write)).mpr
    (.inr ⟨climbing_write, compact.reads_back climbing_write (by simp [climbing_write, plain_json]) (by decide)⟩)

/-- A call whose arguments were cut short leaves nothing. -/
theorem cut_call_unaudited : ¬ ∀ (ctx : ToolContext) (bench : Bench) (name args : String), bench.world.appends = [] →
    ctx.Audited name args bench (ctx.execute_tool name args bench).2 := by
  intro law
  have audited := law (bare_context trail_crates) idle_bench "write_source" "\x7b" rfl
  have cut : parse "\x7b" = .error "expected value" := by simp [parse, Json.read, readKey, expect]
  have unparsed : (bare_context trail_crates).parse_args "\x7b" = .error (.Tool "invalid tool arguments JSON: expected value") := by
    have not_blank : trim "\x7b" ≠ "" := by decide
    rw [parse_args, if_neg not_blank]
    show (match parse "\x7b" with
      | .ok parsed => Except.ok parsed
      | .error error => .error (AgentError.Tool ("invalid tool arguments JSON: " ++ error))) = _
    rw [cut]
    rfl
  rw [execute_tool_unparsed unparsed] at audited
  obtain ⟨_, events, _, _, _, left, counted, -⟩ := audited
  have none_new : ([] : List RawRow).length = ([] : List RawRow).length + events.length := Hook.leaves_length left
  have events_nil : events = [] := List.eq_nil_of_length_eq_zero (by simpa using none_new.symm)
  rw [events_nil] at counted
  cases counted

end ToolContext
end Riscdom.Agent
