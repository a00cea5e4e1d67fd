import Mathlib.Data.List.Sort
import Riscdom.SegmentSteps

/-!
The run index: the table of runs beside the chain, how a run is opened and
closed in both, the rebuild of the table from the chain, and the check of one
against the other.
-/
namespace Riscdom.Audit
open Riscdom.Json Riscdom.KeyedTable Fallible.Act

namespace AuditStore
variable (crates : Crates) (store : AuditStore)

/-- Write a row of the index, or overwrite it. -/
def index_run_start (record : RunRecord) : Act Unit :=
  execute store fun db => { db with runs := db.runs.replace record }

/-- Close a row of the index, and say whether there was one. -/
def index_run_end (run_id : String) (end_seq ended_at_ms : Int) (status : RunStatus) : Act Bool := do
  let present := ((← read store).runs.find run_id).isSome
  execute store fun db => { db with
    runs := db.runs.update run_id
      (fun row => { row with end_seq := some end_seq, ended_at_ms := some ended_at_ms, status }) fun _ => rfl }
  return present

/-- Every row of the index, oldest first. -/
def all_runs : Act (List RunRecord) :=
  get fun w => (w.db store).runs.rows.mergeSort fun r s => decide (r.start_seq ≤ s.start_seq)

/-- The runs the chain tells of, whatever the index says. -/
def derive_runs : Act (List RunRecord × RebuildReport) := do
  return derive_runs_from (← all crates store)

/-- The index made anew from the chain, in one transaction. -/
def rebuild_run_index : Act RebuildReport := do
  let events ← all crates store
  execute store fun db => { db with runs := derived events }
  return (derive_runs_from events).2

/-- What is found where a row of the chain and the index do not agree, rows written out by `debug`. -/
def finding_of (debug : RunRecord → String) (stored : List RunRecord) (row : RunRecord) : Option String :=
  match stored.find? (·.run_id == row.run_id) with
  | none => some ("missing in index: " ++ row.run_id ++ " (chain has it at seq " ++ toString row.start_seq ++ ")")
  | some s =>
    if s ≠ row then
      some ("index row differs from the chain: " ++ row.run_id ++ " (index " ++ debug s ++ ", chain " ++ debug row ++ ")")
    else none

/-- The findings of the check of the index against the chain; none means that they agree. -/
def check_run_index (debug : RunRecord → String) : Act (List String) := do
  let (derived, _) ← derive_runs crates store
  let stored ← all_runs store
  return derived.filterMap (finding_of debug stored) ++ stored.filterMap fun row =>
    if derived.any (·.run_id == row.run_id) then none
    else some ("not in the chain: " ++ row.run_id ++ " (index row at seq " ++ toString row.start_seq ++ ")")

end AuditStore

/-! ### The host's part -/

def AuditEvent.with_agent (event : AuditEvent) (agent_id : String) : AuditEvent := { event with agent_id := some agent_id }

/-- A host process: its agent's name, and the newest event of the chain when it started. -/
structure Host where
  agent_id : String
  startup_seq : Int
deriving DecidableEq

def abandoned_detail (run_id : String) (detected_at_ms : Int) : Value :=
  json [("run_id", .string run_id), ("detected_at_ms", .integer detected_at_ms)]

namespace Host
variable (crates : Crates) (store : AuditStore) (host : Host)

/-- Append an event of the host, if it can be. -/
def append_host_event (action : String) (detail : Value) : Act (Option StoredEvent) := do
  match ← attempt (store.append crates ((AuditEvent.new (← now_ms) "host" action detail).with_agent host.agent_id)) with
  | .ok stored => return some stored
  | .error _ => return none

/-- Open a run under the id minted for it: its start on the chain, then its row in the index. -/
def begin_run (run_id : String) (session_id parent_run_id resumed_from_snapshot sandbox instanceName : Option String)
    (config : Value) : Act (Option String) := do
  let detail := run_start_detail_with crates run_id session_id parent_run_id resumed_from_snapshot sandbox instanceName config
  match ← host.append_host_event crates store ACTION_RUN_START detail with
  | none => return none
  | some stored =>
    let row : RunRecord :=
      { run_id, session_id, parent_run_id, resumed_from_snapshot, fingerprint := fingerprint crates config,
        fingerprint_schema := FINGERPRINT_SCHEMA_V1, started_at_ms := stored.event.timestamp_ms, ended_at_ms := none,
        start_seq := stored.id, end_seq := none, status := .Open }
    let _ ← attempt (store.index_run_start row)
    return some run_id

/-- Close a run: its end on the chain, then its row in the index. -/
def finish_run (run_id : String) (status : RunStatus) (reason : String) : Act Unit := do
  match ← host.append_host_event crates store ACTION_RUN_END (run_end_detail run_id status reason) with
  | none => return ()
  | some stored =>
    let _ ← attempt (store.index_run_end run_id stored.id stored.event.timestamp_ms status)
    return ()

/-- A run that is open on the chain and began before the host started. -/
def stale (run : RunRecord) : Bool := run.end_seq.isNone && run.status == .Open && decide (run.start_seq ≤ host.startup_seq)

/-- One abandonment for each run, as far as it can be appended. -/
def abandon_each : List RunRecord → Act (List String)
  | [] => return []
  | run :: rest => do
    let detected_at_ms ← now_ms
    match ← host.append_host_event crates store ACTION_RUN_ABANDONED (abandoned_detail run.run_id detected_at_ms) with
    | some _ => return run.run_id :: (← abandon_each rest)
    | none => abandon_each rest

/-- Abandon the runs that an earlier process left open. -/
def abandon_stale_runs : Act (List String) := do
  match ← attempt (store.derive_runs crates) with
  | .error error => fail (.Other error.display)
  | .ok (runs, _) =>
    let abandoned ← host.abandon_each crates store (runs.filter host.stale)
    if abandoned ≠ [] then
      let _ ← attempt (store.rebuild_run_index crates)
    return abandoned

end Host
end Riscdom.Audit
