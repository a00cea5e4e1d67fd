import Riscdom.Asking
import Riscdom.Dispatching
import Riscdom.SegmentStream

/-!
The vocabulary of the wire: every body that a node builds, and the readers that
are tried on it, each on its own. One reader takes a body, and it reads what was
written.
-/
namespace Riscdom.Net
open Riscdom.Json

/-! ### The bodies -/

/-- A list of texts as a document. -/
def of_texts (texts : List String) : Value := .array (texts.map .string)

/-- A body of a kind that says the version this build speaks. -/
def spoken (kind : String) (members : List (String × Value)) : Value :=
  json ((kind, .integer PROTOCOL_VERSION.toNat) :: members)

def heartbeat_body : Value := spoken "heartbeat" []
def register_body (addresses capabilities rooms : List String) : Value :=
  spoken "register" [("addresses", of_texts addresses), ("capabilities", of_texts capabilities), ("rooms", of_texts rooms)]
def digest_body (chain : Option String) (length : Nat) : Value :=
  spoken "digest" [("chain", .ofOption chain), ("length", .integer length)]
def key_event_body (at_ms : Int64) (action : String) (detail : Value) : Value :=
  spoken "key_event" [("at_ms", .integer at_ms.toInt), ("action", .string action), ("detail", detail)]
def registry_request_body : Value := spoken "registry" []
def probe_body : Value := spoken "probe" []
def alive_body : Value := spoken "alive" []
def takeover_body (centre by_node : String) (at_ms : Int64) : Value :=
  spoken "takeover" [("centre", .string centre), ("by", .string by_node), ("at_ms", .integer at_ms.toInt)]
def unreachable_body (node_id : String) : Value := json [("unreachable", .string node_id)]
def reachable_body (node_id : String) : Value := json [("reachable", .string node_id)]
def address_query_body (node_id : String) : Value := json [("query", .string node_id)]

def Report.to_body : Report → Value
  | .Unreachable node_id => unreachable_body node_id
  | .Reachable node_id => reachable_body node_id

/-- Everything that is said on the wire, with what it carries. -/
inductive Spoken
  | Hello
  | Register (claims : Registration)
  | Heartbeat
  | Digest (digest : ChainDigest)
  | KeyEvent (event : Net.KeyEvent)
  | Report (report : Net.Report)
  | Registry
  | Addresses (node_id : String)
  | Probe
  | Alive
  | Takeover (takeover : Net.Takeover)
  | Decision (decision : RequestDecision)
  | SegmentEvent (event : Net.SegmentEvent)
  | SegmentDone (done : Net.SegmentDone)
  | Task (task : TaskFrame)
  | TaskReply (reply : Net.TaskReply)

/-- The body it travels as. -/
def Spoken.body : Spoken → Value
  | .Hello => hello_body
  | .Register claims => register_body claims.addresses claims.capabilities claims.rooms
  | .Heartbeat => heartbeat_body
  | .Digest digest => digest_body digest.chain digest.length
  | .KeyEvent event => key_event_body event.at_ms event.action event.detail
  | .Report report => report.to_body
  | .Registry => registry_request_body
  | .Addresses node_id => address_query_body node_id
  | .Probe => probe_body
  | .Alive => alive_body
  | .Takeover takeover => takeover_body takeover.centre takeover.by_node takeover.at_ms
  | .Decision decision =>
    request_decision_body decision.request_id decision.decision decision.decided_by decision.at_ms.toInt
  | .SegmentEvent event => segment_event_body event
  | .SegmentDone done => segment_done_body done
  | .Task task => task_body task
  | .TaskReply reply => task_reply_body reply

/-- The kinds of what is said, each with a reader of its own. -/
inductive Kind
  | Hello
  | Register
  | Heartbeat
  | Digest
  | KeyEvent
  | Report
  | Registry
  | Addresses
  | Probe
  | Alive
  | Takeover
  | Decision
  | SegmentEvent
  | SegmentDone
  | Task
  | TaskReply
deriving DecidableEq

/-- What the reader of a kind makes of a body. -/
def read_as (body : Value) : Kind → Option Spoken
  | .Hello => if is_hello body then some .Hello else none
  | .Register => (Registration.of body).map .Register
  | .Heartbeat => if is_heartbeat body then some .Heartbeat else none
  | .Digest => (ChainDigest.of_body body).map .Digest
  | .KeyEvent => (KeyEvent.of_body body).map .KeyEvent
  | .Report => (report_of body).map .Report
  | .Registry => if is_registry_request body then some .Registry else none
  | .Addresses => (address_query body).map .Addresses
  | .Probe => if is_probe body then some .Probe else none
  | .Alive => if is_alive body then some .Alive else none
  | .Takeover => (is_takeover body).map .Takeover
  | .Decision => (is_request_decision body).map .Decision
  | .SegmentEvent => (is_segment_event body).map .SegmentEvent
  | .SegmentDone => (is_segment_done body).map .SegmentDone
  | .Task => (task_from_body body).map .Task
  | .TaskReply => (task_reply_from_body body).map .TaskReply

def Spoken.kind : Spoken → Kind
  | .Hello => .Hello
  | .Register _ => .Register
  | .Heartbeat => .Heartbeat
  | .Digest _ => .Digest
  | .KeyEvent _ => .KeyEvent
  | .Report _ => .Report
  | .Registry => .Registry
  | .Addresses _ => .Addresses
  | .Probe => .Probe
  | .Alive => .Alive
  | .Takeover _ => .Takeover
  | .Decision _ => .Decision
  | .SegmentEvent _ => .SegmentEvent
  | .SegmentDone _ => .SegmentDone
  | .Task _ => .Task
  | .TaskReply _ => .TaskReply

/-! The answers of the server have readers too. -/

def is_registered (body : Value) : Bool := speaks "registered" body
def answered_addresses (body : Value) : Option (List String) := (body.get "addresses").bind as_texts

/-- What the server reads a body as: the kinds that are said sideways are none of its. -/
def Spoken.local_arm (said : Spoken) : Local :=
  match said with
  | .Hello => .Hello
  | .Register claims => .Register claims
  | .Heartbeat => .Heartbeat
  | .Digest digest => .Digest digest
  | .KeyEvent event => .KeyEvent event
  | .Report (.Unreachable node_id) => .UnreachableReport node_id
  | .Report (.Reachable node_id) => .ReachableReport node_id
  | .Registry => .Registry
  | .Addresses node_id => .Addresses node_id
  | .Probe | .Alive | .Takeover _ | .Decision _ | .SegmentEvent _ | .SegmentDone _ | .Task _ | .TaskReply _ =>
    .Unrecognised said.body

/-- The addresses a registration tells. -/
def Spoken.told_addresses : Spoken → Option (List String)
  | .Register claims => some claims.addresses
  | _ => none

/-- The numbers it carries are those its fields can hold. -/
def Spoken.InRange : Spoken → Prop
  | .Digest digest => digest.length < 2 ^ 64
  | .SegmentEvent event => event.InRange
  | .SegmentDone done => done.total < 2 ^ 64
  | _ => True

/-- The kinds whose bodies say the version. -/
def kinds : List String :=
  ["hello", "register", "heartbeat", "digest", "key_event", "registry", "probe", "alive", "takeover", "request_decision",
    "segment_event", "segment_done", "task", "task_reply"]

/-- The member that tells what a body is. -/
def Spoken.word : Spoken → String
  | .Hello => "hello"
  | .Register _ => "register"
  | .Heartbeat => "heartbeat"
  | .Digest _ => "digest"
  | .KeyEvent _ => "key_event"
  | .Report (.Unreachable _) => "unreachable"
  | .Report (.Reachable _) => "reachable"
  | .Registry => "registry"
  | .Addresses _ => "query"
  | .Probe => "probe"
  | .Alive => "alive"
  | .Takeover _ => "takeover"
  | .Decision _ => "request_decision"
  | .SegmentEvent _ => "segment_event"
  | .SegmentDone _ => "segment_done"
  | .Task _ => "task"
  | .TaskReply _ => "task_reply"

/-! ### Which body says which kind -/

theorem lookup_absent {members : List (String × Value)} {key : String} (absent : key ∉ members.map Prod.fst) :
    lookup key members = none := by
  induction members with
  | nil => rfl
  | cons head rest ih =>
    obtain ⟨k, v⟩ := head
    rw [List.map_cons, List.mem_cons, not_or] at absent
    rw [lookup, if_neg absent.1, ih absent.2]

theorem lookup_last {members : List (String × Value)} {key : String} (absent : key ∉ members.map Prod.fst) (value : Value) :
    lookup key (members ++ [(key, value)]) = some value := by
  induction members with
  | nil => exact if_pos rfl
  | cons head rest ih =>
    obtain ⟨k, v⟩ := head
    rw [List.map_cons, List.mem_cons, not_or] at absent
    rw [List.cons_append, lookup, if_neg absent.1, ih absent.2]

theorem get_absent {members : List (String × Value)} {key : String} (absent : key ∉ members.map Prod.fst) :
    (json members).get key = none := by
  rw [get_json]
  exact lookup_absent (by rwa [List.map_reverse, List.mem_reverse])

/-- The names of the members that follow. -/
def Spoken.names : Spoken → List String
  | .Register _ => ["addresses", "capabilities", "rooms"]
  | .Digest _ => ["chain", "length"]
  | .KeyEvent _ => ["at_ms", "action", "detail"]
  | .Takeover _ => ["centre", "by", "at_ms"]
  | .Decision _ => ["request_id", "decision", "decided_by", "at_ms"]
  | .SegmentEvent _ =>
    ["segment_id", "centre", "index", "total", "ts", "actor", "action", "agent_id", "detail", "hash", "prev_hash"]
  | .SegmentDone _ =>
    ["segment_id", "centre", "total", "head_prev_chain", "anchor_digest", "anchor_length", "anchor_hash"]
  | .Task _ => ["task_id", "target", "input", "sandbox", "instance"]
  | .TaskReply _ => ["task_id", "agent_id", "outcome", "error"]
  | .Hello | .Heartbeat | .Report _ | .Registry | .Addresses _ | .Probe | .Alive => []

/-- The members a reader goes by. -/
def telling : List String := kinds ++ ["unreachable", "reachable", "query", "registered"]

/-- No member that follows has the name of one that tells a kind. -/
theorem names_apart (said : Spoken) : ∀ key ∈ telling, key ∉ said.names := by
  cases said <;> simp [telling, kinds, Spoken.names]

theorem body_members (said : Spoken) : ∃ value members, said.body = json ((said.word, value) :: members) ∧
    members.map Prod.fst = said.names ∧ (said.word ∈ kinds → value = .integer PROTOCOL_VERSION.toNat) := by
  cases said with
  | Report report => cases report <;> exact ⟨_, [], rfl, rfl, fun known => absurd known (by simp [kinds, Spoken.word])⟩
  | Addresses node_id => exact ⟨_, [], rfl, rfl, fun known => absurd known (by simp [kinds, Spoken.word])⟩
  | _ => exact ⟨_, _, rfl, rfl, fun _ => rfl⟩

/-- Of the members that tell a kind, a body has its own alone. -/
theorem get_other (said : Spoken) {key : String} (known : key ∈ telling) (differs : key ≠ said.word) :
    said.body.get key = none := by
  obtain ⟨value, members, body, names, -⟩ := body_members said
  rw [body, get_absent]
  rw [List.map_cons, List.mem_cons, not_or, names]
  exact ⟨differs, names_apart said key known⟩

theorem speaks_body (said : Spoken) {key : String} (known : key ∈ kinds) : speaks key said.body = decide (key = said.word) := by
  have tells : key ∈ telling := List.mem_append_left _ known
  by_cases same : key = said.word
  · obtain ⟨value, members, body, names, version⟩ := body_members said
    have absent : said.word ∉ members.map Prod.fst := by
      rw [names]
      exact names_apart said _ (same ▸ tells)
    rw [decide_eq_true same, same]
    refine speaks_at ?_
    rw [body, get_json, List.reverse_cons, version (same ▸ known)]
    exact lookup_last (by rwa [List.map_reverse, List.mem_reverse]) _
  · rw [decide_eq_false same, speaks, get_other said tells same]
    rfl

/-- What a body is not said to be is not read as that. -/
theorem silent (said : Spoken) {key : String} (known : key ∈ kinds) (differs : key ≠ said.word) :
    speaks key said.body = false := by
  rw [speaks_body said known, decide_eq_false differs]

/-! ### What a reader makes of the bodies of its own kind -/

theorem as_texts_of_texts (texts : List String) : as_texts (of_texts texts) = some texts := by
  rw [of_texts, as_texts]
  induction texts with
  | nil => rfl
  | cons text texts ih => simp [List.mapM_cons, ih]

theorem as_i64_toInt (n : Int64) : as_i64 (.integer n.toInt) = some n := by
  have low := n.le_toInt
  have high := n.toInt_lt
  rw [as_i64, if_pos ⟨low, high⟩, Int64.ofInt_toInt]

/-! ### The reader of another kind -/

/-- The members by which a kind is told. -/
def Kind.words : Kind → List String
  | .Hello => ["hello"]
  | .Register => ["register"]
  | .Heartbeat => ["heartbeat"]
  | .Digest => ["digest"]
  | .KeyEvent => ["key_event"]
  | .Report => ["unreachable", "reachable"]
  | .Registry => ["registry"]
  | .Addresses => ["query"]
  | .Probe => ["probe"]
  | .Alive => ["alive"]
  | .Takeover => ["takeover"]
  | .Decision => ["request_decision"]
  | .SegmentEvent => ["segment_event"]
  | .SegmentDone => ["segment_done"]
  | .Task => ["task"]
  | .TaskReply => ["task_reply"]

theorem word_mem (said : Spoken) : said.word ∈ said.kind.words := by
  cases said with
  | Report report => cases report <;> simp [Spoken.word, Spoken.kind, Kind.words]
  | _ => simp [Spoken.word, Spoken.kind, Kind.words]

def Kind.all : List Kind :=
  [.Hello, .Register, .Heartbeat, .Digest, .KeyEvent, .Report, .Registry, .Addresses, .Probe, .Alive, .Takeover, .Decision,
    .SegmentEvent, .SegmentDone, .Task, .TaskReply]

/-- Two kinds share no word. -/
theorem words_apart {first second : Kind} {word : String} (one : word ∈ first.words) (other : word ∈ second.words) :
    first = second := by
  have listed (kind : Kind) : kind ∈ Kind.all := by cases kind <;> decide
  have apart : ∀ first ∈ Kind.all, ∀ second ∈ Kind.all, ∀ word ∈ first.words, word ∈ second.words → first = second := by
    decide +kernel
  exact apart first (listed first) second (listed second) word one other

theorem words_telling (kind : Kind) : kind.words ⊆ telling := by
  cases kind <;> decide

theorem read_as_other (said : Spoken) {kind : Kind} (differs : kind ≠ said.kind) : read_as said.body kind = none := by
  have absent (word : String) (tells : word ∈ kind.words) : said.body.get word = none :=
    get_other said (words_telling kind tells) fun same => differs (words_apart (same ▸ tells) (word_mem said))
  have mute (word : String) (tells : word ∈ kind.words) : speaks word said.body = false := by
    rw [speaks, absent word tells]
    rfl
  cases kind with
  | Hello => simp [read_as, is_hello, mute "hello" (by decide)]
  | Register => simp [read_as, Registration.of, is_register, mute "register" (by decide)]
  | Heartbeat => simp [read_as, is_heartbeat, mute "heartbeat" (by decide)]
  | Digest => simp [read_as, ChainDigest.of_body, is_digest, mute "digest" (by decide)]
  | KeyEvent => simp [read_as, KeyEvent.of_body, is_key_event, mute "key_event" (by decide)]
  | Report => simp [read_as, report_of, absent "unreachable" (by decide), absent "reachable" (by decide)]
  | Registry => simp [read_as, is_registry_request, mute "registry" (by decide)]
  | Addresses => simp [read_as, address_query, absent "query" (by decide)]
  | Probe => simp [read_as, is_probe, mute "probe" (by decide)]
  | Alive => simp [read_as, is_alive, mute "alive" (by decide)]
  | Takeover => simp [read_as, is_takeover, mute "takeover" (by decide)]
  | Decision => simp [read_as, is_request_decision, mute "request_decision" (by decide)]
  | SegmentEvent => simp [read_as, is_segment_event, mute "segment_event" (by decide)]
  | SegmentDone => simp [read_as, is_segment_done, mute "segment_done" (by decide)]
  | Task => simp [read_as, task_from_body, is_task, mute "task" (by decide)]
  | TaskReply => simp [read_as, task_reply_from_body, is_task_reply, mute "task_reply" (by decide)]

/-! ### The reader of its own kind -/

theorem of_register_body (claims : Registration) :
    Registration.of (register_body claims.addresses claims.capabilities claims.rooms) = some claims := by
  have get (key : String) : (register_body claims.addresses claims.capabilities claims.rooms).get key = _ := get_json key _
  have version : is_register (register_body claims.addresses claims.capabilities claims.rooms) = true := speaks_at (get "register")
  have addresses := get "addresses"
  have capabilities := get "capabilities"
  have rooms := get "rooms"
  simp [lookup] at addresses capabilities rooms
  simp [Registration.of, version, addresses, capabilities, rooms, as_texts_of_texts]

theorem of_digest_body {digest : ChainDigest} (fits : digest.length < 2 ^ 64) :
    ChainDigest.of_body (digest_body digest.chain digest.length) = some digest := by
  have get (key : String) : (digest_body digest.chain digest.length).get key = _ := get_json key _
  have version : is_digest (digest_body digest.chain digest.length) = true := speaks_at (get "digest")
  have chain : (digest_body digest.chain digest.length).get "chain" = some (.ofOption digest.chain) := get _
  have length := u64_at (get "length") fits
  simp [ChainDigest.of_body, version, chain, length]

theorem of_key_event_body (event : KeyEvent) :
    KeyEvent.of_body (key_event_body event.at_ms event.action event.detail) = some event := by
  have get (key : String) : (key_event_body event.at_ms event.action event.detail).get key = _ := get_json key _
  have version : is_key_event (key_event_body event.at_ms event.action event.detail) = true := speaks_at (get "key_event")
  have at_ms : (key_event_body event.at_ms event.action event.detail).get "at_ms" = some (.integer event.at_ms.toInt) := get _
  have action : (key_event_body event.at_ms event.action event.detail).get "action" = some (.string event.action) := get _
  have detail : (key_event_body event.at_ms event.action event.detail).get "detail" = some event.detail := get _
  simp [KeyEvent.of_body, version, at_ms, action, detail, as_i64_toInt]

theorem is_takeover_body (takeover : Takeover) :
    is_takeover (takeover_body takeover.centre takeover.by_node takeover.at_ms) = some takeover := by
  have get (key : String) : (takeover_body takeover.centre takeover.by_node takeover.at_ms).get key = _ := get_json key _
  have version : speaks "takeover" (takeover_body takeover.centre takeover.by_node takeover.at_ms) = true :=
    speaks_at (get "takeover")
  have centre : (takeover_body takeover.centre takeover.by_node takeover.at_ms).get "centre" = some (.string takeover.centre) :=
    get _
  have by_node : (takeover_body takeover.centre takeover.by_node takeover.at_ms).get "by" = some (.string takeover.by_node) :=
    get _
  have at_ms : (takeover_body takeover.centre takeover.by_node takeover.at_ms).get "at_ms" =
      some (.integer takeover.at_ms.toInt) := get _
  simp [is_takeover, version, centre, by_node, at_ms, as_i64_toInt]

theorem is_request_decision_body (decision : RequestDecision) :
    is_request_decision (request_decision_body decision.request_id decision.decision decision.decided_by decision.at_ms.toInt) =
      some decision := by
  have get (key : String) : (request_decision_body decision.request_id decision.decision decision.decided_by
      decision.at_ms.toInt).get key = _ := get_json key _
  generalize request_decision_body decision.request_id decision.decision decision.decided_by decision.at_ms.toInt = body at get ⊢
  have version : speaks "request_decision" body = true := speaks_at (get "request_decision")
  have request_id : body.get "request_id" = some (.string decision.request_id) := get _
  have word : body.get "decision" = some (.string decision.decision) := get _
  have decided_by : body.get "decided_by" = some (.string decision.decided_by) := get _
  have at_ms : body.get "at_ms" = some (.integer decision.at_ms.toInt) := get _
  simp [is_request_decision, version, request_id, word, decided_by, at_ms, as_i64_toInt]

theorem task_from_task_body (task : TaskFrame) : task_from_body (task_body task) = some task := by
  have get (key : String) : (task_body task).get key = _ := get_json key _
  have version : is_task (task_body task) = true := speaks_at (get "task")
  have task_id : (task_body task).get "task_id" = some (.string task.task_id) := get _
  have target : (task_body task).get "target" = some (.string task.target) := get _
  have input : (task_body task).get "input" = some (.string task.input) := get _
  have sandbox : (task_body task).get "sandbox" = some (.ofOption task.sandbox) := get _
  have instance_id : (task_body task).get "instance" = some (.ofOption task.instance_id) := get _
  simp [task_from_body, version, task_id, target, input, sandbox, instance_id]

theorem report_of_to_body (report : Report) : report_of report.to_body = some report := by
  cases report <;> simp [report_of, Report.to_body, unreachable_body, reachable_body, get_json, lookup]

/-- What a body is said to be, its reader makes of it; but for an outcome of null, which is read as none. -/
theorem read_as_own (said : Spoken) (fits : said.InRange)
    (present : ∀ reply, said = .TaskReply reply → reply.outcome ≠ some .null) : read_as said.body said.kind = some said := by
  have version (key : String) (known : key ∈ kinds) (same : key = said.word) : speaks key said.body = true := by
    rw [speaks_body said known, decide_eq_true same]
  cases said with
  | Hello => simp [read_as, Spoken.kind, is_hello, version "hello" (by decide) rfl]
  | Heartbeat => simp [read_as, Spoken.kind, is_heartbeat, version "heartbeat" (by decide) rfl]
  | Registry => simp [read_as, Spoken.kind, is_registry_request, version "registry" (by decide) rfl]
  | Probe => simp [read_as, Spoken.kind, is_probe, version "probe" (by decide) rfl]
  | Alive => simp [read_as, Spoken.kind, is_alive, version "alive" (by decide) rfl]
  | Addresses node_id => rfl
  | Register claims => simp only [read_as, Spoken.kind, Spoken.body, of_register_body, Option.map_some]
  | Digest digest => simp only [read_as, Spoken.kind, Spoken.body, of_digest_body fits, Option.map_some]
  | KeyEvent event => simp only [read_as, Spoken.kind, Spoken.body, of_key_event_body, Option.map_some]
  | Report report => simp only [read_as, Spoken.kind, Spoken.body, report_of_to_body, Option.map_some]
  | Takeover takeover => simp only [read_as, Spoken.kind, Spoken.body, is_takeover_body, Option.map_some]
  | Decision decision => simp only [read_as, Spoken.kind, Spoken.body, is_request_decision_body, Option.map_some]
  | SegmentEvent event => simp only [read_as, Spoken.kind, Spoken.body, is_segment_event_body fits, Option.map_some]
  | SegmentDone done => simp only [read_as, Spoken.kind, Spoken.body, is_segment_done_body fits, Option.map_some]
  | Task task => simp only [read_as, Spoken.kind, Spoken.body, task_from_task_body, Option.map_some]
  | TaskReply reply =>
    simp only [read_as, Spoken.kind, Spoken.body, task_reply_round_trip reply (present reply rfl), Option.map_some]

/-! ### The readers of answers -/

/-- No body is read as the answer to a registration. -/
theorem is_registered_body (said : Spoken) : is_registered said.body = false := by
  have differs : "registered" ≠ said.word := by
    cases said with
    | Report report => cases report <;> simp [Spoken.word]
    | _ => simp [Spoken.word]
  rw [is_registered, speaks, get_other said (by decide) differs]
  rfl

/-- Of the addresses of an answer a reader asks only that they stand in the body, as those of a registration do. -/
theorem answered_addresses_body (said : Spoken) :
    answered_addresses said.body = said.told_addresses := by
  have absent (apart : "addresses" ∉ said.word :: said.names) : answered_addresses said.body = none := by
    obtain ⟨value, members, body, names, -⟩ := body_members said
    rw [answered_addresses, body, get_absent (by rwa [List.map_cons, names])]
    rfl
  cases said with
  | Register claims =>
    have found : (register_body claims.addresses claims.capabilities claims.rooms).get "addresses" =
        some (of_texts claims.addresses) := get_json _ _
    simp only [answered_addresses, Spoken.body, found, Option.bind_some, as_texts_of_texts, Spoken.told_addresses]
  | Report report => cases report <;> exact absent (by simp [Spoken.word, Spoken.names])
  | _ => exact absent (by simp [Spoken.word, Spoken.names])

/-! ### The whole vocabulary -/

/-- The kinds the server tries, in its order. -/
def server_kinds : List Kind := [.Hello, .Register, .Heartbeat, .Digest, .KeyEvent, .Report, .Registry, .Addresses]

/-- The server takes the first of them whose reader accepts. -/
theorem local_of_reads (body : Value) : Local.of body =
    match server_kinds.findSome? (read_as body) with
    | some said => said.local_arm
    | none => .Unrecognised body := by
  simp only [Local.of, server_kinds, List.findSome?_cons, List.findSome?_nil, read_as]
  by_cases hello : is_hello body
  · simp [hello, Spoken.local_arm]
  cases Registration.of body with
  | some claims => simp [hello, Spoken.local_arm]
  | none =>
    by_cases heartbeat : is_heartbeat body
    · simp [hello, heartbeat, Spoken.local_arm]
    cases ChainDigest.of_body body with
    | some digest => simp [hello, heartbeat, Spoken.local_arm]
    | none =>
      cases KeyEvent.of_body body with
      | some event => simp [hello, heartbeat, Spoken.local_arm]
      | none =>
        cases report_of body with
        | some report => cases report <;> simp [hello, heartbeat, Spoken.local_arm]
        | none =>
          by_cases registry : is_registry_request body
          · simp [hello, heartbeat, registry, Spoken.local_arm]
          cases address_query body <;> simp [hello, heartbeat, registry, Spoken.local_arm]

/-- Of all the readers the one of its kind takes a body, and reads what was written; the server reads it as that, or
    leaves it where it is said sideways; and no answer is read in it, but for the addresses of a registration. An outcome
    of null is aside. -/
theorem read_as_said (said : Spoken) (fits : said.InRange)
    (present : ∀ reply, said = .TaskReply reply → reply.outcome ≠ some .null) :
    (∀ kind, read_as said.body kind = if kind = said.kind then some said else none) ∧
      Local.of said.body = said.local_arm ∧ is_registered said.body = false ∧
      answered_addresses said.body = said.told_addresses := by
  have readers (kind : Kind) : read_as said.body kind = if kind = said.kind then some said else none := by
    split_ifs with same
    · subst same
      exact read_as_own said fits present
    · exact read_as_other said same
  refine ⟨readers, ?_, is_registered_body said, answered_addresses_body said⟩
  rw [local_of_reads, show read_as said.body = fun kind => if kind = said.kind then some said else none from funext readers]
  cases said with
  | Report report => cases report <;> rfl
  | _ => rfl

/-- What a peer answers to a task it ran. -/
def ran_task : Spoken := .TaskReply ⟨"task-1", some "agent-1", some (.string "done"), none⟩

theorem ran_task_read : read_as ran_task.body .TaskReply = some ran_task ∧ read_as ran_task.body .Task = none := by
  have said := read_as_said ran_task trivial (by
    rintro reply same
    cases same
    nofun)
  exact ⟨said.1 .TaskReply, said.1 .Task⟩

/-- An outcome of null does not come back. -/
theorem null_outcome_lost : ∃ reply : TaskReply,
    read_as (Spoken.TaskReply reply).body .TaskReply ≠ some (.TaskReply reply) := by
  refine ⟨⟨"task-1", some "agent-1", some .null, none⟩, ?_⟩
  intro read
  have lost : task_reply_from_body (task_reply_body ⟨"task-1", some "agent-1", some .null, none⟩) =
      some ⟨"task-1", some "agent-1", none, none⟩ := rfl
  rw [read_as, Spoken.body, lost] at read
  simp at read

end Riscdom.Net
