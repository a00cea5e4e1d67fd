import Riscdom.AgentLoop
import Riscdom.RunIndex

/-!
The entries of an agent in the audit store, and what a virtual machine of its
own accord writes between them. An entry that cannot be appended is dropped.
-/
namespace Riscdom.Agent
open Riscdom.Json Riscdom.Text Riscdom.Audit Riscdom.Fallible.Act

/-! ### Entries -/

/-- What a virtual machine records of itself, its reader's thread included. -/
inductive SandboxEvent
  | Start (kernel : String) (memory_mb : Nat) (qemu : String) (args : List String)
  | Stop
  | SerialRead (bytes : Nat)
  | ObserverPanic (bytes : Nat)

namespace SandboxEvent

def action : SandboxEvent → String
  | .Start .. => "vm.start"
  | .Stop => "vm.stop"
  | .SerialRead _ => "serial.read"
  | .ObserverPanic _ => "sandbox.serial.observer_panic"

def detail : SandboxEvent → Value
  | .Start kernel memory_mb qemu args => json [("kernel", .string kernel), ("memory_mb", .integer memory_mb),
      ("qemu", .string qemu), ("args", .array (args.map .string))]
  | .Stop => json []
  | .SerialRead bytes => json [("bytes", .integer bytes)]
  | .ObserverPanic bytes => json [("bytes", .integer bytes)]

end SandboxEvent

/-- A virtual machine in its slot, with a process of the emulator or without one. -/
structure Vm where
  spawned : Bool

/-- What the tools of a run read and write: the store, the number of the next call, the machine's slot, and what the
    machine will have recorded by each next entry. -/
structure Bench where
  world : World
  call_seq : Nat
  vm : Option Vm
  chatter : List (List SandboxEvent)

abbrev Tool (α : Type) : Type := Fallible.Act Bench AgentError α

/-- A sink over a store, and the agent its entries name. -/
structure Hook where
  crates : Crates
  store : AuditStore
  agent_id : String

def AUDIT_ACTOR : String := "agent"
def MAX_DETAIL_STR : Nat := 4096

namespace Hook
variable (hook : Hook)

/-- An event recorded at the clock's reading. -/
def record (event : Int → AuditEvent) (w : World) : World :=
  (hook.store.append hook.crates (event (w.clock.headD 0)) { w with clock := w.clock.tail }).2

def sandboxed (w : World) (event : SandboxEvent) : World :=
  hook.record (fun now => AuditEvent.new now "sandbox" event.action event.detail) w

/-- What a machine records, in its order. -/
def sandbox_records (events : List SandboxEvent) : Tool Unit :=
  modify fun bench => { bench with world := events.foldl hook.sandboxed bench.world }

/-- An entry of the agent, after what its machine has recorded in the meantime. -/
def emit (action : String) (detail : Value) : Tool Unit := do
  hook.sandbox_records (← get fun bench => bench.chatter.headD [])
  modify fun bench =>
    { bench with
      world := hook.record (fun now => (AuditEvent.new now AUDIT_ACTOR action detail).with_agent hook.agent_id) bench.world
      chatter := bench.chatter.tail }

def record_tool_call (call : ToolCall) : Tool Unit :=
  hook.emit "agent.tool.call" (json [("id", .string call.id), ("name", .string call.function.name),
    ("arguments", .string (truncate call.function.arguments MAX_DETAIL_STR)),
    ("arguments_len", .integer call.function.arguments.utf8ByteSize)])

def record_tool_result (call_id result : String) (ok : Bool) : Tool Unit :=
  hook.emit "agent.tool.result" (json [("call_id", .string call_id), ("ok", .bool ok),
    ("result_len", .integer result.utf8ByteSize), ("result", .string (truncate result MAX_DETAIL_STR))])

/-- A file the model wrote into its workspace. -/
def record_file_write (path : String) (bytes : Nat) : Tool Unit :=
  hook.emit "agent.file.write" (json [("path", .string path), ("bytes", .integer bytes)])

def record_policy_deny (reason : String) (detail : Value) : Tool Unit :=
  hook.emit "agent.policy.deny" (json [("reason", .string reason), ("detail", detail)])

/-! ### What entries leave in the store -/

/-- A row as the store writes it for an event. -/
def Tells (row : RawRow) (event : AuditEvent) : Prop :=
  row.timestamp_ms = event.timestamp_ms ∧ row.actor = event.actor ∧ row.action = event.action ∧
    row.agent_id = event.agent_id ∧ row.detail_json = hook.crates.json.to_string event.detail

/-- The store holds rows of these events more than before, at its end and in their order. -/
def Leaves (w v : World) (events : List AuditEvent) : Prop :=
  ∃ rows, v.rows hook.store = w.rows hook.store ++ rows ∧ List.Forall₂ hook.Tells rows events

variable {w v u : World}

theorem leaves_nil (w : World) : hook.Leaves w w [] := ⟨[], by simp, .nil⟩

variable {hook} in
theorem leaves_append {events more : List AuditEvent} (first : hook.Leaves w v events) (second : hook.Leaves v u more) :
    hook.Leaves w u (events ++ more) := by
  obtain ⟨rows, held, tell⟩ := first
  obtain ⟨others, held_too, tell_too⟩ := second
  refine ⟨rows ++ others, ?_, List.rel_append tell tell_too⟩
  rw [held_too, held, List.append_assoc]

variable {hook} in
/-- As many rows are new as there are events. -/
theorem leaves_length {events : List AuditEvent} (left : hook.Leaves w v events) :
    (v.rows hook.store).length = (w.rows hook.store).length + events.length := by
  obtain ⟨rows, held, tell⟩ := left
  rw [held, List.length_append, tell.length_eq]

/-- An event recorded where appends succeed leaves its row. -/
theorem record_leaves (granted : w.appends = []) (event : Int → AuditEvent) :
    hook.Leaves w (hook.record event w) [event (w.clock.headD 0)] ∧ (hook.record event w).appends = [] := by
  obtain ⟨disk, clock, appends, updates, opens⟩ := w
  cases granted
  have rowed : (hook.record event ⟨disk, clock, [], updates, opens⟩).rows hook.store =
      World.rows ⟨disk, clock, [], updates, opens⟩ hook.store ++
        [(World.db ⟨disk, clock, [], updates, opens⟩ hook.store).audit_events.row_of hook.crates (event (clock.headD 0))] := by
    rw [record, AuditStore.append_granted hook.crates hook.store rfl]
    simp only [World.rows, World.appended, World.db_put_self, EventTable.append_rows]
    rfl
  refine ⟨⟨_, rowed, .cons ⟨rfl, rfl, rfl, rfl, rfl⟩ .nil⟩, ?_⟩
  rw [record, AuditStore.append_granted hook.crates hook.store rfl]
  rfl

end Hook

/-! ### Entries that are counted -/

/-- A call of a tool, its result, or a denial of the policy. -/
def Marked (event : AuditEvent) : Prop := event.action ∈ ["agent.tool.call", "agent.tool.result", "agent.policy.deny"]

instance (event : AuditEvent) : Decidable (Marked event) := by
  unfold Marked
  infer_instance

/-- Between two states of a bench appends succeed, and among the rows left are these marked ones. -/
def Marks (hook : Hook) (before after : Bench) (marks : List AuditEvent) : Prop :=
  after.world.appends = [] ∧ ∃ events, hook.Leaves before.world after.world events ∧ events.filter Marked = marks

section Marks
variable (hook : Hook) {first second third : Bench}

theorem marks_nil (granted : first.world.appends = []) : Marks hook first first [] :=
  ⟨granted, [], hook.leaves_nil _, rfl⟩

variable {hook} in
theorem marks_append {marks more : List AuditEvent} (left : Marks hook first second marks)
    (right : Marks hook second third more) : Marks hook first third (marks ++ more) := by
  obtain ⟨-, events, held, rfl⟩ := left
  obtain ⟨granted, others, held_too, rfl⟩ := right
  exact ⟨granted, events ++ others, Hook.leaves_append held held_too, List.filter_append _ _⟩

/-- Nothing a machine records is counted. -/
theorem sandbox_unmarked (now : Int) (event : SandboxEvent) :
    ¬ Marked (AuditEvent.new now "sandbox" event.action event.detail) := by
  cases event
  all_goals simp [Marked, AuditEvent.new, SandboxEvent.action]

theorem sandbox_records_marks (granted : first.world.appends = []) (events : List SandboxEvent) :
    ∃ second, hook.sandbox_records events first = (.ok (), second) ∧ Marks hook first second [] ∧
      second.vm = first.vm ∧ second.call_seq = first.call_seq ∧ second.chatter = first.chatter := by
  refine ⟨_, rfl, ?_, rfl, rfl, rfl⟩
  obtain ⟨world, call_seq, vm, chatter⟩ := first
  induction events generalizing world with
  | nil => exact marks_nil hook granted
  | cons event events ih =>
    obtain ⟨left, still⟩ := hook.record_leaves granted
      fun now => AuditEvent.new now "sandbox" event.action event.detail
    have one : Marks hook ⟨world, call_seq, vm, chatter⟩ ⟨hook.sandboxed world event, call_seq, vm, chatter⟩ [] :=
      ⟨still, _, left, by simp [sandbox_unmarked]⟩
    exact marks_append one (ih _ still)

/-- An entry leaves itself, if it is one that is counted. -/
theorem emit_marks (granted : first.world.appends = []) (action : String) (detail : Value) :
    ∃ second now, hook.emit action detail first = (.ok (), second) ∧ second.vm = first.vm ∧
      second.call_seq = first.call_seq ∧
        Marks hook first second
          ([(AuditEvent.new now AUDIT_ACTOR action detail).with_agent hook.agent_id].filter Marked) := by
  obtain ⟨middle, chatted, marks, vm, call_seq, -⟩ :=
    sandbox_records_marks hook granted (first.chatter.headD [])
  obtain ⟨left, still⟩ := hook.record_leaves marks.1
    fun now => (AuditEvent.new now AUDIT_ACTOR action detail).with_agent hook.agent_id
  have read : (get fun bench => bench.chatter.headD [] : Tool (List SandboxEvent)) first =
      (.ok (first.chatter.headD []), first) := rfl
  have emitted : hook.emit action detail first = (.ok (),
      { middle with
        world := hook.record (fun now => (AuditEvent.new now AUDIT_ACTOR action detail).with_agent hook.agent_id) middle.world
        chatter := middle.chatter.tail }) := by
    rw [Hook.emit, bind_of_ok read, bind_of_ok chatted]
    rfl
  exact ⟨_, middle.world.clock.headD 0, emitted, vm, call_seq, marks_append marks ⟨still, _, left, rfl⟩⟩

/-- A counted entry leaves its row. -/
theorem emit_counted {action : String} (counted : action ∈ ["agent.tool.call", "agent.tool.result", "agent.policy.deny"])
    (granted : first.world.appends = []) (detail : Value) :
    ∃ second event, hook.emit action detail first = (.ok (), second) ∧ Marks hook first second [event] ∧
      event.action = action ∧ event.detail = detail ∧ second.vm = first.vm := by
  obtain ⟨second, now, emitted, vm, -, marks⟩ := emit_marks hook granted action detail
  refine ⟨second, (AuditEvent.new now AUDIT_ACTOR action detail).with_agent hook.agent_id, emitted, ?_, rfl, rfl, vm⟩
  have loud : Marked ((AuditEvent.new now AUDIT_ACTOR action detail).with_agent hook.agent_id) := counted
  rwa [List.filter_cons_of_pos (by simpa using loud), List.filter_nil] at marks

/-- Any other entry leaves none that is counted. -/
theorem emit_uncounted {action : String}
    (uncounted : action ∉ ["agent.tool.call", "agent.tool.result", "agent.policy.deny"])
    (granted : first.world.appends = []) (detail : Value) :
    ∃ second, hook.emit action detail first = (.ok (), second) ∧ Marks hook first second [] := by
  obtain ⟨second, now, emitted, -, -, marks⟩ := emit_marks hook granted action detail
  refine ⟨second, emitted, ?_⟩
  have silent : ¬ Marked ((AuditEvent.new now AUDIT_ACTOR action detail).with_agent hook.agent_id) := uncounted
  rwa [List.filter_cons_of_neg (by simpa using silent), List.filter_nil] at marks

end Marks
end Riscdom.Agent
