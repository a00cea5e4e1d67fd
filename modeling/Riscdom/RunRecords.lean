import Riscdom.AuditEvent

/-!
Runs as the chain tells them: the payloads of the run markers, the fingerprint
of a configuration document, and the reduction of a chain to its run rows.
-/
namespace Riscdom.Audit
open Riscdom.Json

def ACTION_RUN_START : String := "run.start"
def ACTION_RUN_END : String := "run.end"
def ACTION_RUN_ABANDONED : String := "host.run.abandoned"
def FINGERPRINT_SCHEMA_V1 : String := "riscdom.run.fingerprint.v1"

/-- Where a run is: still open, or how it ended. -/
inductive RunStatus
  | Open
  | Ok
  | Failed
  | Interrupted
  | Abandoned
deriving DecidableEq

def RunStatus.as_str : RunStatus → String
  | .Open => "open"
  | .Ok => "ok"
  | .Failed => "failed"
  | .Interrupted => "interrupted"
  | .Abandoned => "abandoned"

/-- An unknown word is read as a failure. -/
def RunStatus.parse (raw : String) : RunStatus :=
  if raw = "open" then .Open else
  if raw = "ok" then .Ok else
  if raw = "interrupted" then .Interrupted else
  if raw = "abandoned" then .Abandoned else .Failed

@[simp] theorem parse_as_str (status : RunStatus) : RunStatus.parse status.as_str = status := by
  cases status <;> decide

/-- A row of the run index. -/
structure RunRecord where
  run_id : String
  session_id : Option String
  parent_run_id : Option String
  resumed_from_snapshot : Option String
  fingerprint : String
  fingerprint_schema : String
  started_at_ms : Int
  ended_at_ms : Option Int
  start_seq : Int
  end_seq : Option Int
  status : RunStatus
deriving DecidableEq

structure RunStartPayload where
  run_id : String
  fingerprint : String
  fingerprint_schema : String
  fingerprint_json : String
  session_id : Option String
  parent_run_id : Option String
  resumed_from_snapshot : Option String
  sandbox : Option String
  instanceName : Option String
deriving DecidableEq

structure RunEndPayload where
  run_id : String
  status : RunStatus
  reason : String
deriving DecidableEq

/-- What a derivation counted. -/
structure RebuildReport where
  runs : Nat
  starts : Nat
  ends : Nat
  abandoned : Nat
  orphans : Nat
deriving DecidableEq

variable (crates : Crates)

/-- The text of a document with the keys of its objects sorted. -/
def canonical_json (value : Value) : String := crates.json.to_string (canonicalize value)

def fingerprint (config : Value) : String := crates.sha256_hex (canonical_json crates config)

/-! ### Payloads -/

def run_start_detail_with (run_id : String) (session_id parent_run_id resumed_from_snapshot sandbox instanceName : Option String)
    (config : Value) : Value :=
  json [("run_id", .string run_id), ("fingerprint", .string (fingerprint crates config)),
    ("fingerprint_schema", .string FINGERPRINT_SCHEMA_V1), ("fingerprint_json", .string (canonical_json crates config)),
    ("session_id", .ofOption session_id), ("parent_run_id", .ofOption parent_run_id),
    ("resumed_from_snapshot", .ofOption resumed_from_snapshot), ("sandbox", .ofOption sandbox),
    ("instance", .ofOption instanceName)]

def run_end_detail (run_id : String) (status : RunStatus) (reason : String) : Value :=
  json [("run_id", .string run_id), ("status", .string status.as_str), ("reason", .string reason)]

/-- The text under a key, when there is one. -/
def text_at (key : String) (detail : Value) : Option String := (detail.get key).bind Value.as_str

/-- The text under a key of a start marker, which has to have one. -/
def required (key : String) (detail : Value) : Except AuditError String :=
  match text_at key detail with
  | some text => .ok text
  | none => .error (.Other ("run.start is missing \x60" ++ key ++ "\x60"))

def parse_run_start (detail : Value) : Except AuditError RunStartPayload := do
  let run_id ← required "run_id" detail
  let fingerprint ← required "fingerprint" detail
  let fingerprint_schema ← required "fingerprint_schema" detail
  let fingerprint_json ← required "fingerprint_json" detail
  return {
    run_id, fingerprint, fingerprint_schema, fingerprint_json,
    session_id := text_at "session_id" detail, parent_run_id := text_at "parent_run_id" detail,
    resumed_from_snapshot := text_at "resumed_from_snapshot" detail, sandbox := text_at "sandbox" detail,
    instanceName := text_at "instance" detail }

def parse_run_end (detail : Value) : Except AuditError RunEndPayload :=
  match text_at "run_id" detail with
  | some run_id => .ok
      { run_id, status := ((text_at "status" detail).map RunStatus.parse).getD .Failed,
        reason := (text_at "reason" detail).getD "" }
  | none => .error (.Other "run.end is missing \x60run_id\x60")

theorem text_at_json (key : String) (members : List (String × Value)) :
    text_at key (json members) = (lookup key members.reverse).bind Value.as_str := by
  rw [text_at, get_json]

/-- A start marker says what it was made from. -/
theorem parse_run_start_detail (run_id : String)
    (session_id parent_run_id resumed_from_snapshot sandbox instanceName : Option String) (config : Value) :
    parse_run_start (run_start_detail_with crates run_id session_id parent_run_id resumed_from_snapshot sandbox
        instanceName config) = .ok
      { run_id, session_id, parent_run_id, resumed_from_snapshot, sandbox, instanceName,
        fingerprint := fingerprint crates config, fingerprint_schema := FINGERPRINT_SCHEMA_V1,
        fingerprint_json := canonical_json crates config } := by
  simp [parse_run_start, required, run_start_detail_with, text_at_json, lookup]
  rfl

theorem parse_run_end_detail (run_id : String) (status : RunStatus) (reason : String) :
    parse_run_end (run_end_detail run_id status reason) = .ok { run_id, status, reason } := by
  simp [parse_run_end, run_end_detail, text_at_json, lookup]

/-! ### The rows of a chain -/

/-- The rows with the first that fits rewritten, when there is one. -/
def update_first (fits : RunRecord → Bool) (rewrite : RunRecord → RunRecord) :
    List RunRecord → Option (List RunRecord)
  | [] => none
  | row :: rest =>
    if fits row then some (rewrite row :: rest) else (update_first fits rewrite rest).map (row :: ·)

/-- The row a start marker opens. -/
def RunRecord.opened (payload : RunStartPayload) (stored : StoredEvent) : RunRecord :=
  { run_id := payload.run_id, session_id := payload.session_id, parent_run_id := payload.parent_run_id,
    resumed_from_snapshot := payload.resumed_from_snapshot, fingerprint := payload.fingerprint,
    fingerprint_schema := payload.fingerprint_schema, started_at_ms := stored.event.timestamp_ms,
    ended_at_ms := none, start_seq := stored.id, end_seq := none, status := .Open }

/-- One event of the chain. -/
def derive_step (seen : List RunRecord × RebuildReport) (stored : StoredEvent) : List RunRecord × RebuildReport :=
  let (rows, report) := seen
  if stored.event.action = ACTION_RUN_START then
    match parse_run_start stored.event.detail with
    | .error _ => (rows, { report with orphans := report.orphans + 1 })
    | .ok payload =>
      if rows.any (·.run_id == payload.run_id) then
        (rows, { report with starts := report.starts + 1, orphans := report.orphans + 1 })
      else (rows ++ [.opened payload stored], { report with starts := report.starts + 1 })
  else if stored.event.action = ACTION_RUN_END then
    match parse_run_end stored.event.detail with
    | .error _ => (rows, { report with orphans := report.orphans + 1 })
    | .ok payload =>
      match update_first (fun row => row.run_id == payload.run_id && row.end_seq.isNone)
        (fun row => { row with
          end_seq := some stored.id, ended_at_ms := some stored.event.timestamp_ms, status := payload.status }) rows with
      | some rows => (rows, { report with ends := report.ends + 1 })
      | none => (rows, { report with orphans := report.orphans + 1 })
  else if stored.event.action = ACTION_RUN_ABANDONED then
    let run_id := (text_at "run_id" stored.event.detail).getD ""
    match update_first (fun row => row.run_id == run_id && row.end_seq.isNone)
      (fun row => { row with status := .Abandoned }) rows with
    | some rows => (rows, { report with abandoned := report.abandoned + 1 })
    | none => (rows, { report with orphans := report.orphans + 1 })
  else (rows, report)

/-- The run rows of a chain, oldest event first, and the count of what was seen. -/
def derive_runs_from (events : List StoredEvent) : List RunRecord × RebuildReport :=
  let (rows, report) := events.foldl derive_step ([], ⟨0, 0, 0, 0, 0⟩)
  (rows, { report with runs := rows.length })

end Riscdom.Audit
