import Mathlib.Data.List.Infix
import Riscdom.Fallible
import Riscdom.JsonText
import Riscdom.PortLeases
import Riscdom.Text

/-!
The client of QEMU's machine protocol, and the operations that a virtual machine
runs over it. Commands carry no number on the wire: a reply belongs to the
command that was sent first of those still unanswered. The model numbers the
commands and keeps, with every line, the number of the command it answers; the
client sees its text only.
-/
namespace Riscdom.Sandbox
open Json Text Fallible Fallible.Act Machine

def SandboxError.to_string : SandboxError → String
  | Spawn m => "failed to spawn QEMU: " ++ m
  | Io m => "io error: " ++ m
  | Serial m => "serial error: " ++ m
  | Qmp m => "qmp error: " ++ m
  | Timeout m => "timed out: " ++ m
  | Config m => "invalid config: " ++ m
  | NotRunning => "the virtual machine is not running"
  | AlreadyRunning => "the virtual machine is already running"
  | Snapshot m => "snapshot error: " ++ m
  | Relay m => "relay error: " ++ m
  | PortLease m => "port lease error: " ++ m
  | RelayTimeout m => "relay timeout: " ++ m
  | Unsupported m => "unsupported: " ++ m
  | QemuNotFound diagnostics => diagnostics

/-! ### The connection -/

/-- A line on its way to the client, and the command that it answers. -/
structure Line where
  text : String
  answers : Option Nat

def Line.lose (line : Line) (count : Nat) : Line := { line with text := .ofList (line.text.toList.drop count) }
def Line.keep (line : Line) (count : Nat) : Line := { line with text := .ofList (line.text.toList.take count) }

/-- Read, however early the text is cut off, it is an event or nothing at all. -/
def Silent (json : JsonText) (text : String) : Prop :=
  ∀ count value, json.from_str (trim (.ofList (text.toList.take count))) = .ok value → (value.get "event").isSome = true

/-- What QEMU writes: an event at any time, a reply to the first command that has none yet. -/
inductive Emission (json : JsonText)
  | Event (text : String) (silent : Silent json text)
  | Reply (text : String)

/-- How a read of a line ends: with the line, in a timeout that loses what had come of it, at the end of the stream with
    what had come of it, or in an error after which nothing comes. -/
inductive Outcome
  | Whole
  | TimedOut (lost : Nat) (why : String)
  | Closed (kept : Nat)
  | Reset (why : String)

/-- A read of a line: what was written up to its end, and how it ended. -/
structure Reading (json : JsonText) where
  written : List (Emission json)
  outcome : Outcome

inductive Sending
  | Sent
  | Lost (reached : Bool) (why : String)

def TIMED_OUT : String := "Resource temporarily unavailable (os error 11)"

/-- A connection: the commands QEMU has not answered, and the lines the client has not read. -/
structure QmpClient where
  unanswered : List Nat
  pending : List Line

namespace QmpClient
variable {json : JsonText} (client : QmpClient)

def sent (command : Nat) : QmpClient := { client with unanswered := client.unanswered ++ [command] }

def write : Emission json → QmpClient
  | .Event text _ => { client with pending := client.pending ++ [⟨text, none⟩] }
  | .Reply text =>
    match client.unanswered with
    | [] => client
    | command :: later => ⟨later, client.pending ++ [⟨text, some command⟩]⟩

/-- One line, or nothing at the end of the stream. -/
def read_line : Outcome → Except String (Option Line) × QmpClient
  | .Whole =>
    match client.pending with
    | [] => (.error TIMED_OUT, client)
    | line :: later => (.ok (some line), { client with pending := later })
  | .TimedOut lost why =>
    match client.pending with
    | [] => (.error why, client)
    | line :: later => (.error why, { client with pending := line.lose lost :: later })
  | .Closed kept =>
    match client.pending with
    | [] => (.ok none, ⟨[], []⟩)
    | line :: _ => (.ok (if kept = 0 then none else some (line.keep kept)), ⟨[], []⟩)
  | .Reset why => (.error why, ⟨[], []⟩)

def arrive (reading : Reading json) : Except String (Option Line) × QmpClient :=
  (reading.written.foldl write client).read_line reading.outcome

end QmpClient

/-! ### Commands -/

/-- The wait for a reply: the line taken for it, its value or the error, and what is left. -/
structure Response (json : JsonText) where
  reply : Option Line
  answer : Except SandboxError Value
  client : QmpClient
  readings : List (Reading json)

/-- Lines are read until one is a reply: text that is no document, and events, are passed over. -/
def read_response {json : JsonText} : List (Reading json) → QmpClient → Response json
  | [], client => ⟨none, .error (.Qmp TIMED_OUT), client, []⟩
  | reading :: readings, client =>
    match client.arrive reading with
    | (.error why, client) => ⟨none, .error (.Qmp why), client, readings⟩
    | (.ok none, client) => ⟨none, .error (.Qmp "connection closed"), client, readings⟩
    | (.ok (some line), client) =>
      match json.from_str (trim line.text) with
      | .error _ => read_response readings client
      | .ok value =>
        if (value.get "event").isSome then read_response readings client
        else match value.get "error" with
          | some error => ⟨some line, .error (.Qmp (json.to_string error)), client, readings⟩
          | none => ⟨some line, .ok value, client, readings⟩

/-- A command that was run: its number, what was taken for its reply, and what it came to. -/
structure Exchange where
  command : Nat
  request : Value
  reply : Option Line
  answer : Except SandboxError Value

/-- The client at work, with the commands run so far and what the system will answer. -/
structure Session (json : JsonText) where
  client : QmpClient
  exchanges : List Exchange
  sends : List Sending
  readings : List (Reading json)

section
variable {json : JsonText}

def send_raw : Act (Session json) SandboxError PUnit := fun s =>
  let sent : Session json := { s with client := s.client.sent s.exchanges.length, sends := s.sends.tail }
  match s.sends.head? with
  | none | some .Sent => (.ok ⟨⟩, sent)
  | some (.Lost reached why) => (.error (.Qmp why), if reached then sent else { s with sends := s.sends.tail })

def execute (request : Value) : Act (Session json) SandboxError Value := fun s =>
  match send_raw s with
  | (.error error, t) =>
    (.error error, { t with exchanges := t.exchanges ++ [⟨s.exchanges.length, request, none, .error error⟩] })
  | (.ok _, t) =>
    let response := read_response t.readings t.client
    (response.answer, { t with
      client := response.client, readings := response.readings
      exchanges := t.exchanges ++ [⟨s.exchanges.length, request, response.reply, response.answer⟩] })

def command (name : String) : Value := Json.json [("execute", .string name)]

/-- A fresh connection, once it is greeted and has its capabilities; the session keeps the one it had. -/
def connect (dial : Except SandboxError String) : Act (Session json) SandboxError QmpClient := fun s =>
  match dial with
  | .error error => (.error error, s)
  | .ok greeting =>
    let reading := s.readings.headD ⟨[], .TimedOut 0 TIMED_OUT⟩
    match (QmpClient.mk [] [⟨greeting, none⟩]).arrive reading with
    | (.error why, _) => (.error (.Qmp ("reading greeting: " ++ why)), { s with readings := s.readings.tail })
    | (.ok line, client) =>
      let text := (line.map Line.text).getD ""
      if (split_once "QMP".toList text.toList).isNone then
        (.error (.Qmp ("unexpected QMP greeting: " ++ trim text)), { s with readings := s.readings.tail })
      else
        match execute (command "qmp_capabilities") { s with client, readings := s.readings.tail } with
        | (.error error, t) => (.error error, { t with client := s.client })
        | (.ok _, t) => (.ok t.client, { t with client := s.client })

end

/-! ### Operations -/

/-- What an operation does with the client: commands, each as its replies so far say; the first that fails ends it. -/
inductive QmpProgram (T : Type)
  | Return (result : Except SandboxError T)
  | Execute (request : Value) (next : Value → QmpProgram T)

def QmpProgram.run {json : JsonText} {T : Type} : QmpProgram T → Act (Session json) SandboxError T
  | .Return result => ofExcept result
  | .Execute request next => do
    let reply ← execute request
    (next reply).run

/-- The status that a reply names. -/
def status_of (reply : Value) (otherwise : String) : String :=
  (((reply.get "return").bind fun returned => returned.get "status").bind Value.as_str).getD otherwise

def stop : QmpProgram Unit := .Execute (command "stop") fun _ => .Return (.ok ())
def cont : QmpProgram Unit := .Execute (command "cont") fun _ => .Return (.ok ())
def query_status : QmpProgram String :=
  .Execute (command "query-status") fun reply => .Return (.ok (status_of reply "unknown"))

section
variable {json : JsonText} {T : Type}

/-- The operation, and once more on a fresh connection when it failed while QEMU is alive. -/
def run_qmp_with_one_reconnect (dial : Except SandboxError String) (qemu_alive : Bool) (op : QmpProgram T) :
    Act (Session json) SandboxError T := do
  match ← attempt op.run with
  | .ok value => pure value
  | .error error =>
    if qemu_alive then do
      let client ← connect dial
      Act.modify fun s => { s with client }
      match ← attempt op.run with
      | .ok value => pure value
      | .error second =>
        Act.fail (.Qmp ("the connection was reset and the retry failed too: " ++ second.to_string ++
          " (the first error was: " ++ error.to_string ++ ")"))
    else Act.fail error

end

/-- How QEMU exited, and the tail of its output. -/
structure Exit where
  code : Option Int
  tail : Option String

def qmp_failure (what : String) (exit : Exit) (error : SandboxError) : SandboxError :=
  let how := match exit.code with
    | some code => "code " ++ toString code
    | none => "no exit code (killed by a signal)"
  .Qmp ("QEMU exited with " ++ how ++ " during " ++ what ++ " (the original error was: " ++ error.to_string ++ ")")

def explain_qmp (what : String) (exited : Option Exit) (error : SandboxError) : SandboxError :=
  match exited with
  | none => error
  | some exit =>
    let explained := qmp_failure what exit error
    match exit.tail with
    | some tail => .Qmp (explained.to_string ++ "; QEMU's last output was: " ++ tail)
    | none => explained

/-! ### The virtual machine -/

/-- What the system answers while the machine is at work. -/
structure Script (json : JsonText) where
  sends : List Sending
  readings : List (Reading json)
  dial : Except SandboxError String
  alive : Bool
  exited : Option Exit

structure Operation (T : Type) where
  program : QmpProgram T
  exchanges : List Exchange
  result : Except SandboxError T

structure Vm (T : Type) where
  child : Bool
  qmp : Option QmpClient
  exchanges : List Exchange
  operations : List (Operation T)

/-- A start that gets a process, and gets as far as the connection or not; an operation; a stop. -/
inductive VmAct (json : JsonText) (T : Type)
  | Start (reaches : Bool) (script : Script json)
  | Op (what : String) (program : QmpProgram T) (script : Script json)
  | Stop (script : Script json)

namespace Vm
variable {json : JsonText} {T : Type} (vm : Vm T)

def start : Vm T := ⟨false, none, [], []⟩

def session (client : QmpClient) (script : Script json) : Session json :=
  ⟨client, vm.exchanges, script.sends, script.readings⟩

def qmp_op (what : String) (program : QmpProgram T) (script : Script json) : Vm T :=
  match vm.qmp with
  | none =>
    { vm with operations := vm.operations ++ [⟨program, [], .error (explain_qmp what script.exited .NotRunning)⟩] }
  | some client =>
    let (outcome, s) := run_qmp_with_one_reconnect script.dial script.alive program (vm.session client script)
    { vm with
      qmp := some s.client, exchanges := s.exchanges
      operations := vm.operations ++
        [⟨program, s.exchanges.drop vm.exchanges.length, outcome.mapError (explain_qmp what script.exited)⟩] }

def step (vm : Vm T) : VmAct json T → Vm T
  | .Start reaches script =>
    if vm.child then vm
    else if reaches then
      let (opened, s) := connect script.dial (vm.session ⟨[], []⟩ script)
      { vm with child := true, qmp := opened.toOption.or vm.qmp, exchanges := s.exchanges }
    else { vm with child := true }
  | .Op what program script => vm.qmp_op what program script
  | .Stop script =>
    match vm.qmp with
    | none => { vm with child := false }
    | some client =>
      -- What comes of the quit is not looked at.
      { vm with child := false, qmp := none, exchanges := (execute (command "quit") (vm.session client script)).2.exchanges }

end Vm

/-! ### Connections in step -/

section
variable (json : JsonText)

/-- Every command that was sent is answered, and no reply is left to be read. -/
def InStep (client : QmpClient) : Prop := client.unanswered = [] ∧ ∀ line ∈ client.pending, Silent json line.text

/-- A connection on which one command at most is open: its reply is to come, waits to be read, or was read. -/
inductive Ready (number : Nat) : QmpClient → Prop
  | asked {pending : List Line} (quiet : ∀ line ∈ pending, Silent json line.text) : Ready number ⟨[number], pending⟩
  | answered {before after : List Line} {line : Line} (own : line.answers = some number)
      (quiet : ∀ other ∈ before ++ after, Silent json other.text) : Ready number ⟨[], before ++ line :: after⟩
  | read {pending : List Line} (quiet : ∀ line ∈ pending, Silent json line.text) : Ready number ⟨[], pending⟩

/-- What was taken for the reply answers the command, and the value is what it reads as. -/
def Exchange.Own (exchange : Exchange) : Prop :=
  (∀ line, exchange.reply = some line → line.answers = some exchange.command) ∧
    ∀ value, exchange.answer = .ok value →
      ∃ line, exchange.reply = some line ∧ json.from_str (trim line.text) = .ok value

/-- The commands are numbered as they were sent, and each was given its own reply. -/
def Paired (log : List Exchange) : Prop :=
  ∀ (number : Nat) (exchange : Exchange), log[number]? = some exchange → exchange.command = number ∧ exchange.Own json

end

/-- The operation, run on the answers of these commands, comes to the value. -/
def QmpProgram.Gives {T : Type} (value : T) : QmpProgram T → List Exchange → Prop
  | .Return result, exchanges => exchanges = [] ∧ result = .ok value
  | .Execute _ _, [] => False
  | .Execute request next, exchange :: later =>
    exchange.request = request ∧ ∃ reply, exchange.answer = .ok reply ∧ (next reply).Gives value later

section
variable {json : JsonText} {number : Nat} {client : QmpClient}

theorem InStep.ready (step : InStep json client) (number : Nat) : Ready json number (client.sent number) := by
  obtain ⟨unanswered, pending⟩ := client
  obtain ⟨none_left, quiet⟩ := step
  obtain rfl : unanswered = [] := none_left
  exact .asked quiet

theorem InStep.read (step : InStep json client) (number : Nat) : Ready json number client := by
  obtain ⟨unanswered, pending⟩ := client
  obtain ⟨none_left, quiet⟩ := step
  obtain rfl : unanswered = [] := none_left
  exact .read quiet

theorem quiet_append {pending : List Line} (quiet : ∀ line ∈ pending, Silent json line.text) {text : String}
    (silent : Silent json text) : ∀ line ∈ pending ++ [⟨text, none⟩], Silent json line.text := by
  intro line inside
  rcases List.mem_append.mp inside with old | last
  · exact quiet line old
  · rw [List.mem_singleton.mp last]
    exact silent

theorem write_ready (ready : Ready json number client) (emission : Emission json) :
    Ready json number (client.write emission) := by
  cases emission with
  | Event text silent =>
    cases ready with
    | asked quiet => exact .asked (quiet_append quiet silent)
    | @answered before after line own quiet =>
      have later : ∀ other ∈ before ++ (after ++ [⟨text, none⟩]), Silent json other.text := by
        rw [← List.append_assoc]
        exact quiet_append quiet silent
      simpa [QmpClient.write] using Ready.answered own later
    | read quiet => exact .read (quiet_append quiet silent)
  | Reply text =>
    cases ready with
    | @asked pending quiet =>
      refine @Ready.answered json number pending [] ⟨text, some number⟩ rfl ?_
      rwa [List.append_nil]
    | answered own quiet => exact .answered own quiet
    | read quiet => exact .read quiet

theorem written_ready (written : List (Emission json)) (ready : Ready json number client) :
    Ready json number (written.foldl QmpClient.write client) := by
  induction written generalizing client with
  | nil => exact ready
  | cons emission written ih => exact ih (write_ready ready emission)

/-- A line that comes as no reply. -/
def Skipped (json : JsonText) (line : Line) : Prop :=
  ∀ value, json.from_str (trim line.text) = .ok value → (value.get "event").isSome = true

theorem Silent.skipped {line : Line} (silent : Silent json line.text) : Skipped json line := by
  intro value found
  refine silent line.text.toList.length value ?_
  rwa [List.take_length, String.ofList_toList]

theorem Silent.keep {line : Line} (silent : Silent json line.text) (count : Nat) : Skipped json (line.keep count) :=
  fun value found => silent count value found

/-- A line off such a connection is the reply to its command, the last there was, or no reply at all. -/
theorem read_line_ready (ready : Ready json number client) (outcome : Outcome) {line : Line} {after : QmpClient}
    (took : client.read_line outcome = (.ok (some line), after)) :
    (line.answers = some number ∧ InStep json after) ∨ (Skipped json line ∧ Ready json number after) := by
  have ended : InStep json ⟨[], []⟩ := ⟨rfl, nofun⟩
  have at_end : Ready json number ⟨[], []⟩ := .read nofun
  cases outcome with
  | Whole =>
    cases ready with
    | @asked pending quiet =>
      cases pending with
      | nil => cases took
      | cons first rest =>
        cases took
        have later : ∀ other ∈ rest, Silent json other.text := fun other inside => quiet other (List.mem_cons_of_mem _ inside)
        exact .inr ⟨(quiet _ List.mem_cons_self).skipped, .asked later⟩
    | @answered before behind own_line own quiet =>
      cases before with
      | nil =>
        cases took
        exact .inl ⟨own, rfl, quiet⟩
      | cons first rest =>
        cases took
        have later : ∀ other ∈ rest ++ behind, Silent json other.text :=
          fun other inside => quiet other (List.mem_cons_of_mem _ inside)
        exact .inr ⟨(quiet _ List.mem_cons_self).skipped, .answered own later⟩
    | @read pending quiet =>
      cases pending with
      | nil => cases took
      | cons first rest =>
        cases took
        have later : ∀ other ∈ rest, Silent json other.text := fun other inside => quiet other (List.mem_cons_of_mem _ inside)
        exact .inr ⟨(quiet _ List.mem_cons_self).skipped, .read later⟩
  | TimedOut lost why =>
    simp only [QmpClient.read_line] at took
    split at took <;> cases took
  | Closed kept =>
    simp only [QmpClient.read_line] at took
    split at took
    · cases took
    · next first rest waiting =>
      split_ifs at took with cut
      · cases took
      · cases took
        cases ready with
        | asked quiet =>
          subst waiting
          exact .inr ⟨(quiet first List.mem_cons_self).keep kept, at_end⟩
        | @answered before behind own_line own quiet =>
          cases before with
          | nil =>
            cases waiting
            exact .inl ⟨own, ended⟩
          | cons head more =>
            cases waiting
            exact .inr ⟨(quiet first List.mem_cons_self).keep kept, at_end⟩
        | read quiet =>
          subst waiting
          exact .inr ⟨(quiet first List.mem_cons_self).keep kept, at_end⟩
  | Reset why => cases took

/-- The wait for a reply ends with the reply to the open command, and the connection is then in step. -/
theorem read_response_ready (readings : List (Reading json)) (ready : Ready json number client) :
    let response := read_response readings client
    (∀ line, response.reply = some line → line.answers = some number) ∧
      ∀ value, response.answer = .ok value →
        InStep json response.client ∧ ∃ line, response.reply = some line ∧ json.from_str (trim line.text) = .ok value := by
  induction readings generalizing client with
  | nil => exact ⟨nofun, nofun⟩
  | cons reading readings ih =>
    have came := written_ready reading.written ready
    simp only [read_response]
    split
    · exact ⟨nofun, nofun⟩
    · exact ⟨nofun, nofun⟩
    · next line after took =>
      have taken := read_line_ready came reading.outcome took
      split
      · rcases taken with ⟨_, step⟩ | ⟨_, open_yet⟩
        · exact ih (step.read number)
        · exact ih open_yet
      · next value found =>
        split_ifs with event
        · rcases taken with ⟨_, step⟩ | ⟨_, open_yet⟩
          · exact ih (step.read number)
          · exact ih open_yet
        · obtain ⟨own, step⟩ := taken.resolve_right fun skipped => event (skipped.1 value found)
          split
          · refine ⟨?_, nofun⟩
            rintro _ ⟨⟩
            exact own
          · refine ⟨?_, ?_⟩
            · rintro _ ⟨⟩
              exact own
            · rintro _ ⟨⟩
              exact ⟨step, line, rfl, found⟩

/-! ### The log -/

theorem paired_append {log : List Exchange} {exchange : Exchange} (paired : Paired json log)
    (numbered : exchange.command = log.length) (own : exchange.Own json) : Paired json (log ++ [exchange]) := by
  intro number other found
  rcases Nat.lt_trichotomy number log.length with earlier | rfl | later
  · rw [List.getElem?_append_left earlier] at found
    exact paired number other found
  · rw [List.getElem?_concat_length] at found
    cases found
    exact ⟨numbered, own⟩
  · rw [List.getElem?_eq_none (by simp; omega)] at found
    cases found

variable {T : Type}

/-- A session grew by these commands, each with its own reply. -/
structure Grew (json : JsonText) (s t : Session json) (exchanges : List Exchange) : Prop where
  added : t.exchanges = s.exchanges ++ exchanges
  paired : Paired json t.exchanges

theorem send_raw_fields (s : Session json) :
    (send_raw s).2.exchanges = s.exchanges ∧
      ((send_raw s).1 = .ok ⟨⟩ → (send_raw s).2.client = s.client.sent s.exchanges.length) := by
  unfold send_raw
  dsimp only
  split
  · exact ⟨rfl, fun _ => rfl⟩
  · exact ⟨rfl, fun _ => rfl⟩
  · split_ifs <;> exact ⟨rfl, nofun⟩

/-- On a connection in step a command comes to its own reply or fails, and where it does not fail the connection stays in
    step. -/
theorem execute_paired {s : Session json} (request : Value) (paired : Paired json s.exchanges) (step : InStep json s.client) :
    EndsIn (execute request) s fun result t => ∃ exchange, Grew json s t [exchange] ∧ exchange.request = request ∧
      exchange.answer = result ∧ ∀ value, result = .ok value → InStep json t.client := by
  obtain ⟨kept, sent⟩ := send_raw_fields s
  unfold EndsIn execute
  split
  · next error t failed =>
    rw [failed] at kept
    have same : t.exchanges = s.exchanges := kept
    refine ⟨⟨s.exchanges.length, request, none, .error error⟩, ⟨by rw [same], ?_⟩, rfl, rfl, nofun⟩
    rw [same]
    exact paired_append paired rfl ⟨nofun, nofun⟩
  · next t done =>
    rw [done] at kept sent
    have same : t.exchanges = s.exchanges := kept
    have ready : Ready json s.exchanges.length t.client := by
      rw [sent rfl]
      exact step.ready _
    obtain ⟨own, read⟩ := read_response_ready t.readings ready
    refine ⟨_, ⟨by rw [same], ?_⟩, rfl, rfl, fun value found => (read value found).1⟩
    rw [same]
    exact paired_append paired rfl ⟨own, fun value found => (read value found).2⟩

/-- Before the first command, only events come behind the greeting. -/
theorem written_greeting (written : List (Emission json)) (greeting : Line) {pending : List Line}
    (quiet : ∀ line ∈ pending, Silent json line.text) :
    ∃ later, written.foldl QmpClient.write ⟨[], greeting :: pending⟩ = ⟨[], greeting :: later⟩ ∧
      ∀ line ∈ later, Silent json line.text := by
  induction written generalizing pending with
  | nil => exact ⟨pending, rfl, quiet⟩
  | cons emission written ih =>
    cases emission with
    | Event text silent => exact ih (quiet_append quiet silent)
    | Reply text => exact ih quiet

/-- Once the greeting is read, the connection is in step. -/
theorem greeted_in_step {greeting : Line} {reading : Reading json} {line : Option Line} {client : QmpClient}
    (came : (QmpClient.mk [] [greeting]).arrive reading = (.ok line, client)) : InStep json client := by
  obtain ⟨later, behind, quiet⟩ := @written_greeting json reading.written greeting [] nofun
  rw [QmpClient.arrive, behind] at came
  cases outcome : reading.outcome with
  | Whole =>
    rw [outcome] at came
    cases came
    exact ⟨rfl, quiet⟩
  | TimedOut lost why =>
    rw [outcome] at came
    cases came
  | Closed kept =>
    rw [outcome] at came
    cases came
    exact ⟨rfl, nofun⟩
  | Reset why =>
    rw [outcome] at came
    cases came

theorem connect_paired {s : Session json} (dial : Except SandboxError String) (paired : Paired json s.exchanges) :
    EndsIn (connect dial) s fun result t =>
      (∃ exchanges, Grew json s t exchanges) ∧ ∀ client, result = .ok client → InStep json client := by
  have nothing {t : Session json} (same : t.exchanges = s.exchanges) : ∃ exchanges, Grew json s t exchanges :=
    ⟨[], by rw [same, List.append_nil], by rwa [same]⟩
  unfold EndsIn connect
  split
  · exact ⟨nothing rfl, by rintro _ ⟨⟩⟩
  · next greeting =>
    dsimp only
    split
    · exact ⟨nothing rfl, by rintro _ ⟨⟩⟩
    · next line client came =>
      split_ifs with stranger
      · exact ⟨nothing rfl, by rintro _ ⟨⟩⟩
      · have step : InStep json client := greeted_in_step came
        have ran := execute_paired (s := { s with client, readings := s.readings.tail }) (command "qmp_capabilities") paired step
        rw [EndsIn] at ran
        obtain ⟨exchange, grew, -, -, stays⟩ := ran
        split
        · next error t failed =>
          rw [failed] at grew
          exact ⟨⟨[exchange], grew.added, grew.paired⟩, by rintro _ ⟨⟩⟩
        · next reply t done =>
          rw [done] at grew stays
          refine ⟨⟨[exchange], grew.added, grew.paired⟩, ?_⟩
          rintro _ ⟨⟩
          exact stays reply rfl

/-! ### Operations on a connection in step -/

theorem Grew.refl {s : Session json} (paired : Paired json s.exchanges) : Grew json s s [] :=
  ⟨(List.append_nil _).symm, paired⟩

theorem Grew.trans {r s t : Session json} {first second : List Exchange} (one : Grew json r s first)
    (two : Grew json s t second) : Grew json r t (first ++ second) :=
  ⟨by rw [two.added, one.added, List.append_assoc], two.paired⟩

/-- A value comes of the replies to the program's own commands, and leaves the connection in step. -/
theorem run_paired (program : QmpProgram T) {s : Session json} (paired : Paired json s.exchanges)
    (step : InStep json s.client) :
    EndsIn program.run s fun result t => ∃ exchanges, Grew json s t exchanges ∧
      ∀ value, result = .ok value → program.Gives value exchanges ∧ InStep json t.client := by
  induction program generalizing s with
  | Return result =>
    refine ⟨[], Grew.refl paired, fun value done => ⟨⟨rfl, done⟩, step⟩⟩
  | Execute request next ih =>
    refine ends_bind _ (execute_paired request paired step) ?_ ?_
    · rintro error t ⟨exchange, grew, -⟩
      exact ⟨[exchange], grew, nofun⟩
    · rintro reply t ⟨exchange, grew, asked, answered, stays⟩
      refine ends_mono (ih reply grew.paired (stays reply rfl)) ?_
      rintro result r ⟨later, more, gives⟩
      refine ⟨exchange :: later, grew.trans more, fun value done => ?_⟩
      exact ⟨⟨asked, reply, answered, (gives value done).1⟩, (gives value done).2⟩

/-- So it is with the retry: a value comes of the replies to the commands of one of the two attempts, the last one. -/
theorem reconnect_paired (dial : Except SandboxError String) (alive : Bool) (op : QmpProgram T) {s : Session json}
    (paired : Paired json s.exchanges) (step : InStep json s.client) :
    EndsIn (run_qmp_with_one_reconnect dial alive op) s fun result t => ∃ exchanges, Grew json s t exchanges ∧
      ∀ value, result = .ok value → ∃ own, own <:+ exchanges ∧ op.Gives value own := by
  have tried {s : Session json} (paired : Paired json s.exchanges) (step : InStep json s.client) :
      EndsIn (attempt op.run) s fun result t => ∃ outcome exchanges, result = .ok outcome ∧ Grew json s t exchanges ∧
        ∀ value, outcome = .ok value → op.Gives value exchanges := by
    obtain ⟨exchanges, grew, gives⟩ := run_paired op paired step
    exact ⟨_, exchanges, rfl, grew, fun value done => (gives value done).1⟩
  refine ends_bind _ (tried paired step) (by rintro error t ⟨outcome, exchanges, ⟨⟩, -⟩) ?_
  rintro outcome t ⟨_, exchanges, ⟨⟩, grew, gives⟩
  cases outcome with
  | ok value =>
    refine ⟨exchanges, grew, ?_⟩
    rintro _ ⟨⟩
    exact ⟨exchanges, List.suffix_rfl, gives value rfl⟩
  | error error =>
    cases alive with
    | false => exact ⟨exchanges, grew, nofun⟩
    | true =>
      refine ends_bind _ (connect_paired dial grew.paired) ?_ ?_
      · rintro error r ⟨⟨handshake, more⟩, -⟩
        exact ⟨exchanges ++ handshake, grew.trans more, nofun⟩
      · rintro client r ⟨⟨handshake, more⟩, opened⟩
        have again := tried (s := { r with client }) more.paired (opened client rfl)
        refine ends_bind (fun result q => result = .ok ⟨⟩ ∧ q = { r with client }) ⟨rfl, rfl⟩ (by rintro error q ⟨⟨⟩, -⟩) ?_
        rintro - _ ⟨-, rfl⟩
        refine ends_bind _ again (by rintro error q ⟨outcome, own, ⟨⟩, -⟩) ?_
        rintro outcome q ⟨_, own, ⟨⟩, last, gives⟩
        have whole : Grew json s q ((exchanges ++ handshake) ++ own) := (grew.trans more).trans ⟨last.added, last.paired⟩
        cases outcome with
        | ok value =>
          refine ⟨_, whole, ?_⟩
          rintro _ ⟨⟩
          exact ⟨own, List.suffix_append _ _, gives value rfl⟩
        | error second => exact ⟨_, whole, nofun⟩

end

/-! ### Runs -/

section
variable {json : JsonText} {T : Type}

/-- An operation or the quit of a stop begins on a connection in step, where there is one. -/
def Begins (vm : Vm T) : VmAct json T → Prop
  | .Start _ _ => True
  | .Op _ _ _ | .Stop _ => ∀ client, vm.qmp = some client → InStep json client

/-- The value of an operation comes of the replies to commands of its own, and these are all in the log. -/
def Operation.Built (log : List Exchange) (operation : Operation T) : Prop :=
  operation.exchanges <:+: log ∧
    ∀ value, operation.result = .ok value → ∃ own, own <:+ operation.exchanges ∧ operation.program.Gives value own

/-- The replies so far went to their own commands, and the operations so far were built from these. -/
structure Vm.Sound (json : JsonText) (vm : Vm T) : Prop where
  paired : Paired json vm.exchanges
  built : ∀ operation ∈ vm.operations, operation.Built vm.exchanges

theorem Operation.Built.append {log : List Exchange} {operation : Operation T} (built : operation.Built log)
    (more : List Exchange) : operation.Built (log ++ more) :=
  ⟨built.1.trans (List.prefix_append log more).isInfix, built.2⟩

theorem Vm.Sound.grow {vm after : Vm T} {more : List Exchange} (sound : vm.Sound json)
    (added : after.exchanges = vm.exchanges ++ more) (paired : Paired json after.exchanges)
    (same : after.operations = vm.operations) : after.Sound json := by
  refine ⟨paired, fun operation inside => ?_⟩
  rw [same] at inside
  rw [added]
  exact (sound.built operation inside).append more

theorem qmp_op_sound {vm : Vm T} (sound : vm.Sound json) (what : String) (program : QmpProgram T) (script : Script json)
    (begins : ∀ client, vm.qmp = some client → InStep json client) : (vm.qmp_op what program script).Sound json := by
  unfold Vm.qmp_op
  split
  · refine ⟨sound.paired, fun operation inside => ?_⟩
    rcases List.mem_append.mp inside with old | last
    · exact sound.built operation old
    · rw [List.mem_singleton.mp last]
      exact ⟨⟨[], vm.exchanges, rfl⟩, nofun⟩
  · next client held =>
    have ends := reconnect_paired script.dial script.alive program (s := vm.session client script) sound.paired
      (begins client held)
    obtain ⟨exchanges, grew, gives⟩ := ends
    refine ⟨grew.paired, fun operation inside => ?_⟩
    have added : (run_qmp_with_one_reconnect script.dial script.alive program (vm.session client script)).2.exchanges =
        vm.exchanges ++ exchanges := grew.added
    rcases List.mem_append.mp inside with old | last
    · change operation.Built (run_qmp_with_one_reconnect script.dial script.alive program (vm.session client script)).2.exchanges
      rw [added]
      exact (sound.built operation old).append exchanges
    · rw [List.mem_singleton.mp last]
      refine ⟨(List.drop_suffix _ _).isInfix, fun value done => ?_⟩
      change ∃ own, own <:+ (run_qmp_with_one_reconnect script.dial script.alive program
        (vm.session client script)).2.exchanges.drop vm.exchanges.length ∧ program.Gives value own
      rw [added, List.drop_left]
      refine gives value ?_
      simp only [Except.mapError] at done
      split at done
      · cases done
      · next found =>
        cases done
        exact found

theorem step_sound {vm : Vm T} {act : VmAct json T} (sound : vm.Sound json) (begins : Begins vm act) :
    (vm.step act).Sound json := by
  cases act with
  | Start reaches script =>
    simp only [Vm.step]
    split_ifs with running reached
    · exact sound
    · obtain ⟨⟨exchanges, grew⟩, -⟩ := connect_paired script.dial (s := vm.session ⟨[], []⟩ script) sound.paired
      exact sound.grow grew.added grew.paired rfl
    · exact ⟨sound.paired, sound.built⟩
  | Op what program script => exact qmp_op_sound sound what program script begins
  | Stop script =>
    simp only [Vm.step]
    split
    · exact ⟨sound.paired, sound.built⟩
    · next client held =>
      obtain ⟨exchange, grew, -⟩ := execute_paired (s := vm.session client script) (command "quit") sound.paired
        (begins client held)
      exact sound.grow grew.added grew.paired rfl

/-- Where every operation, and the quit of every stop, begins on a connection in step: however replies, events, timeouts and
    reconnects come, every reply that is taken answers the command it is taken for, and the value of an operation comes of
    the replies to its own commands. -/
theorem replies_paired (acts : List (VmAct json T)) (allowed : Allowed Vm.step Begins Vm.start acts) :
    let vm := run Vm.step Vm.start acts
    Paired json vm.exchanges ∧ ∀ operation ∈ vm.operations, operation.Built vm.exchanges := by
  have starts : (Vm.start : Vm T).Sound json := ⟨nofun, nofun⟩
  have keeps (vm : Vm T) (act : VmAct json T) (sound : vm.Sound json) (begins : Begins vm act) : (vm.step act).Sound json :=
    step_sound sound begins
  have sound := run_keeps keeps starts allowed
  exact ⟨sound.paired, sound.built⟩

end

/-! ### A slow guest -/

def greeting : String := "\x7b\"QMP\":\x7b\x7d\x7d"
def nothing_returned : String := "\x7b\"return\":\x7b\x7d\x7d"
def returned (status : String) : String := "\x7b\"return\":\x7b\"status\":\"" ++ status ++ "\"\x7d\x7d"
def resumed : String := "\x7b\"event\":\"RESUME\"\x7d"

theorem resumed_silent : Silent compact resumed := by
  intro count value found
  have reader : compact.from_str = parse := rfl
  rw [reader] at found
  have cut_off : ∀ count < 18, (parse (trim (.ofList (resumed.toList.take count)))).isOk = false := by decide +kernel
  by_cases cut : count < 18
  · have refused := cut_off count cut
    rw [found] at refused
    cases refused
  · have size : resumed.toList.length = 18 := by decide +kernel
    have event : ((parse (trim (.ofList resumed.toList))).toOption.bind (Value.get "event")).isSome = true := by decide +kernel
    rw [List.take_of_length_le (by omega)] at found
    rw [found] at event
    exact event

/-- A process that is up and greets, and reads that bring these lines. -/
def script (readings : List (Reading compact)) : Script compact := ⟨[], readings, .ok greeting, true, none⟩

/-- What a connect reads: the greeting, and the reply to the capabilities. -/
def shake_hands : List (Reading compact) := [⟨[], .Whole⟩, ⟨[.Reply nothing_returned], .Whole⟩]

/-- A reset, a reconnect, and an event before the reply: the status is the one QEMU gave for this command. -/
theorem status_after_reset :
    let vm := run Vm.step Vm.start [.Start true (script shake_hands), .Op "query-status" query_status
      (script ([⟨[], .Reset "reset"⟩] ++ shake_hands ++ [⟨[.Event resumed resumed_silent, .Reply (returned "running")], .Whole⟩,
        ⟨[], .Whole⟩]))]
    (vm.operations.map Operation.result = [.ok "running"]) ∧
      Paired compact vm.exchanges ∧ ∀ operation ∈ vm.operations, operation.Built vm.exchanges := by
  refine ⟨by decide +kernel, replies_paired _ ⟨trivial, fun client held => ?_, trivial⟩⟩
  have empty : ((Vm.start : Vm String).step (.Start true (script shake_hands))).qmp.map (fun client =>
      (client.unanswered, client.pending.length)) = some ([], 0) := by decide +kernel
  rw [held] at empty
  obtain ⟨none_left, none_waits⟩ := Prod.mk.inj (Option.some.inj empty)
  refine ⟨none_left, fun line inside => ?_⟩
  rw [List.eq_nil_of_length_eq_zero none_waits] at inside
  cases inside

/-- A guest answers after the timeout, and the second connection is not served while the first is held: the next command
    takes the late reply for its own. -/
theorem late_reply_taken :
    let vm := run Vm.step (Vm.start : Vm String) [.Start true (script shake_hands),
      .Op "query-status" query_status (script []),
      .Op "query-status" query_status (script [⟨[.Reply (returned "paused"), .Reply (returned "running")], .Whole⟩])]
    vm.exchanges.map (fun exchange => (exchange.command, exchange.reply.bind Line.answers)) =
        [(0, some 0), (1, none), (2, some 1)] ∧
      vm.operations.map Operation.result = [.error (.Qmp ("reading greeting: " ++ TIMED_OUT)), .ok "paused"] ∧
      ¬ Paired compact vm.exchanges := by
  intro vm
  refine ⟨by decide +kernel, by decide +kernel, fun paired => ?_⟩
  have third : (vm.exchanges[2]?).map (fun exchange => (exchange.command, exchange.reply.bind Line.answers)) =
      some (2, some 1) := by decide +kernel
  obtain ⟨exchange, there, same⟩ := Option.map_eq_some_iff.mp third
  obtain ⟨number, taken⟩ := Prod.mk.inj same
  obtain ⟨line, reply, answers⟩ := Option.bind_eq_some_iff.mp taken
  have own := (paired 2 exchange there).2.1 line reply
  rw [answers, number] at own
  cases own

end Riscdom.Sandbox
