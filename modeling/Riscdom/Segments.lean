import Riscdom.AuditStore

/-!
Segments: opened, closed, adopted from another node, and merged into the main
chain by transcription. The segment table stands beside the chain, so its rows
are rewritten while the chain only grows.
-/
namespace Riscdom.Audit
open Riscdom.Json Riscdom.KeyedTable Fallible.Act

namespace AuditStore
variable (crates : Crates) (store : AuditStore)

/-! ### The segment table -/

/-- Open the store in a file, which is created when it is not there. -/
def open_at (path : FilePath) : Act AuditStore := fun w =>
  match w.opens.headD none with
  | some error => (.error error, { w with opens := w.opens.tail })
  | none => (.ok ⟨path⟩, { w with opens := w.opens.tail }.put ⟨path⟩ (w.db ⟨path⟩))

/-- The store of a temporary segment's own file. -/
def open_segment_store (audit_dir : FilePath) (segment_id : String) : Act AuditStore :=
  open_at (segment_db_path_in audit_dir segment_id)

def segment (segment_id : String) : Act (Option Segment) := get fun w => (w.db store).segments.find segment_id

def insert_segment (segment : Segment) : Act Unit := do
  if (← store.segment segment.segment_id).isSome then
    fail (.Sqlite .Unknown "UNIQUE constraint failed: segments.segment_id")
  else execute store fun db => { db with segments := db.segments.replace segment }

def update_segment (segment_id : String) (rewrite : Segment → Segment)
    (keeps : ∀ s, (rewrite s).segment_id = s.segment_id) : Act Unit :=
  execute store fun db => { db with segments := db.segments.update segment_id rewrite keeps }

def set_segment_state (segment_id : String) (state : SegmentState) (closed_at_ms : Option Int) : Act Unit :=
  update_segment store segment_id (fun s => { s with state, closed_at_ms }) fun _ => rfl

def mark_segment_forked (segment_id reason : String) : Act Unit :=
  update_segment store segment_id (fun s => { s with state := .Forked, note := some reason }) fun _ => rfl

def mark_segment_folded (segment_id : String) (head : Option String) : Act Unit :=
  update_segment store segment_id (fun s => { s with state := .Folded, head_hash := head }) fun _ => rfl

def set_segment_note (segment_id note : String) : Act Unit :=
  update_segment store segment_id (fun s => { s with note := some note }) fun _ => rfl

/-! ### Opening, closing, adopting -/

/-- The name of a segment opened at a time, by an owner, as the n-th of that time. -/
def mint (now : Int) (owner : Option String) (suffix : Option Nat) : String :=
  "seg-" ++ (match owner with | some owner => safe_owner owner ++ "-" | none => "") ++ toString now ++
    (match suffix with | some n => "-" ++ toString n | none => "")

/-- The first name that is free, trying so many from a suffix on. -/
def first_free (taken : String → Bool) (mint : Option Nat → String) : Nat → Nat → Option String
  | 0, _ => none
  | left + 1, n => if taken (mint (some n)) then first_free taken mint left (n + 1) else some (mint (some n))

/-- A name no row of the table has. -/
def free_id (segments : SegmentTable) (now : Int) (owner : Option String) : Except AuditError String :=
  let taken (id : String) := (segments.find id).isSome
  if taken (mint now owner none) then
    match first_free taken (mint now owner) 4294967294 2 with
    | some id => .ok id
    | none => .error (.Other "could not mint a segment id")
  else .ok (mint now owner none)

def free_segment_id (now : Int) (owner : Option String) : Act String := do
  ofExcept (free_id (← read store).segments now owner)

def open_segment_inner (kind : SegmentKind) (owner : Option String) : Act Segment := do
  let now ← now_ms
  let segment_id ← free_segment_id store now owner
  let head_prev_chain ← last_hash store
  let head_prev_length ← last_id store
  let segment : Segment :=
    { segment_id, kind, head_hash := none, head_prev_chain, head_prev_length, opened_at_ms := some now,
      closed_at_ms := none, state := .Open, note := none }
  insert_segment store segment
  match ← attempt (append crates store
    (.new (← now_ms) "host" ACTION_SEGMENT_OPENED (segment_opened_detail segment))) with
  | .ok _ => return segment
  | .error error =>
    -- A row without its opening event is taken back.
    execute store fun db => { db with segments := db.segments.delete segment.segment_id }
    fail error

def open_segment (kind : SegmentKind) : Act Segment := open_segment_inner crates store kind none
def open_segment_for (kind : SegmentKind) (owner : String) : Act Segment :=
  open_segment_inner crates store kind (some owner)

def close_segment (segment_id : String) : Act Segment := do
  match ← store.segment segment_id with
  | none => fail (.Other ("no segment " ++ segment_id))
  | some segment =>
    let now ← now_ms
    set_segment_state store segment_id .Closed (some now)
    match ← attempt (append crates store
      (.new (← now_ms) "host" ACTION_SEGMENT_CLOSED (segment_closed_detail segment_id now))) with
    | .ok _ => return { segment with state := .Closed, closed_at_ms := some now }
    | .error error =>
      set_segment_state store segment_id .Open none
      fail error

def adopt_segment (segment_id : String) (head_prev_chain : Option String) (head_prev_length : Option Int) : Act Unit := do
  if (← store.segment segment_id).isSome then return () else
    insert_segment store {
      segment_id, kind := .Temporary, head_hash := none, head_prev_chain, head_prev_length, opened_at_ms := none,
      closed_at_ms := none, state := .Closed, note := some "adopted from another node" }

end AuditStore

/-! ### What a merge checks before it writes -/

variable (crates : Crates)

/-- Whether the rows hold the merged marker of a segment. -/
def merged_already (segment_id : String) : List RawRow → Except AuditError Bool
  | [] => .ok false
  | row :: rest =>
    if row.action ≠ ACTION_SEGMENT_MERGED then merged_already segment_id rest else
      match decode crates row.detail_json with
      | .error error => .error error
      | .ok detail =>
        if text_at "segment_id" detail = some segment_id then .ok true else merged_already segment_id rest

/-- The id of the first row that holds an act, if one does. -/
def main_chain_row_with (actor action : String) (detail : Value) : List RawRow → Except AuditError (Option Int)
  | [] => .ok none
  | row :: rest =>
    if row.actor = actor ∧ row.action = action then
      match decode crates row.detail_json with
      | .error error => .error error
      | .ok existing => if same existing detail then .ok (some row.id) else main_chain_row_with actor action detail rest
    else main_chain_row_with actor action detail rest

/-- An act of a segment that the main chain holds, and the id of the row that holds it. -/
structure Conflict where
  actor : String
  action : String
  id : Int
deriving DecidableEq

def first_conflict (rows : List RawRow) : List StoredEvent → Except AuditError (Option Conflict)
  | [] => .ok none
  | event :: rest =>
    match main_chain_row_with crates event.event.actor event.event.action (cleared_detail event.event.detail) rows with
    | .error error => .error error
    | .ok (some id) => .ok (some ⟨event.event.actor, event.event.action, id⟩)
    | .ok none => first_conflict rows rest

/-- The segment a merge may go on with. -/
def mergeable (db : AuditDb) (segment_id : String) : Except AuditError Segment :=
  match db.segments.find segment_id with
  | none => .error (.Other ("no segment " ++ segment_id))
  | some segment =>
    if segment.kind ≠ .Temporary then .error (.Other (segment_id ++ " is not a temporary segment")) else
    if segment.state ≠ .Open ∧ segment.state ≠ .Closed then
      .error (.Other (segment_id ++ " is " ++ segment.state.as_str ++ " — only an open or closed segment can be merged"))
    else
      match merged_already crates segment_id db.audit_events.rows with
      | .error error => .error error
      | .ok true => .error (.Other (segment_id ++ " is already merged"))
      | .ok false =>
        match segment.note with
        | some note =>
          if partial_merge_recorded note then
            .error (.Other (segment_id ++ " has a partial merge recorded (" ++ note ++ "); refusing to merge again"))
          else .ok segment
        | none => .ok segment

/-! ### The merge -/

/-- An event as it is transcribed. -/
def outgoing (event : StoredEvent) : AuditEvent := { event.event with detail := cleared_detail event.event.detail }

def conflict_reason (conflict : Conflict) : String :=
  "conflicts with the main chain at event " ++ toString conflict.id ++ ": " ++ conflict.actor ++ " " ++ conflict.action ++
    "; not merged"

def partial_merge_note (merged total : Nat) (error : AuditError) : String :=
  PARTIAL_MERGE_PREFIX ++ toString merged ++ " of " ++ toString total ++ " events: " ++ error.display

namespace AuditStore
variable (store : AuditStore)

/-- The end of a merge that met a conflict: the record first, then the row. -/
def fork_segment (segment : Segment) (conflict : Conflict) : Act MergeOutcome := do
  let reason := conflict_reason conflict
  let forked_at_ms ← now_ms
  let event := AuditEvent.new (← now_ms) "host" ACTION_SEGMENT_FORKED
    (segment_forked_detail segment.segment_id segment.kind forked_at_ms reason (some conflict.id))
  let _ ← append crates store event
  mark_segment_forked store segment.segment_id reason
  return .Forked reason

/-- The events appended one by one; a failure is noted on the row, as far as the note can be written. -/
def transcribe (segment_id : String) (total : Nat) : List StoredEvent → Nat → Act Nat
  | [], merged => return merged
  | event :: rest, merged => do
    match ← attempt (append crates store (outgoing event)) with
    | .ok _ => transcribe segment_id total rest (merged + 1)
    | .error error =>
      let _ ← attempt (set_segment_note store segment_id (partial_merge_note merged total error))
      fail error

/-- The end of a merge without a conflict. -/
def fold_segment (segment : Segment) (events : List StoredEvent) : Act MergeOutcome := do
  let merged ← transcribe crates store segment.segment_id events.length events 0
  let now ← now_ms
  let event := AuditEvent.new (← now_ms) "host" ACTION_SEGMENT_MERGED
    (segment_merged_detail segment.segment_id segment.kind now merged)
  let _ ← append crates store event
  mark_segment_folded store segment.segment_id (← last_hash store)
  return .Folded merged

/-- Merge a temporary segment's events into the chain, or record the conflict that stops it. Everything is read
    before anything is written. -/
def merge_segment (audit_dir : FilePath) (segment_id : String) : Act MergeOutcome := do
  let segment ← ofExcept (mergeable crates (← read store) segment_id)
  let segment_store ← open_segment_store audit_dir segment_id
  let events ← all crates segment_store
  match ← ofExcept (first_conflict crates (← scan store) events) with
  | some conflict => fork_segment crates store segment conflict
  | none => fold_segment crates store segment events

end AuditStore
end Riscdom.Audit
