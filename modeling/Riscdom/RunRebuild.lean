import Riscdom.RunIndex
import Riscdom.RunSpec

/-!
The rebuild of the run index as the database sees it: columns that hold values of
any type, rows that are written and read back column by column, the table's key,
and a transaction that is rolled back where a statement fails. What the table held
before may be anything.
-/
namespace Riscdom.Audit
open Riscdom.Json Riscdom.KeyedTable

/-! ### The table of runs -/

inductive SqlValue
  | Null
  | Integer (n : Int)
  | Real (bits : UInt64)
  | Text (text : String)
  | Blob (bytes : List UInt8)
deriving DecidableEq

def SqlValue.type : SqlValue → String
  | Null => "Null"
  | Integer _ => "Integer"
  | Real _ => "Real"
  | Text _ => "Text"
  | Blob _ => "Blob"

/-- How the database orders values; of integers it is the order of their numbers. -/
structure SqlOrder where
  le : SqlValue → SqlValue → Bool
  integers : ∀ m n, le (.Integer m) (.Integer n) = decide (m ≤ n)

structure RunRow where
  run_id : SqlValue
  session_id : SqlValue
  parent_run_id : SqlValue
  fingerprint : SqlValue
  fingerprint_schema : SqlValue
  started_at_ms : SqlValue
  ended_at_ms : SqlValue
  start_seq : SqlValue
  end_seq : SqlValue
  status : SqlValue
  resumed_from_snapshot : SqlValue
deriving DecidableEq

/-- A column that is read as what it does not hold. -/
def invalid_column (value : SqlValue) (index : Nat) (name : String) : AuditError :=
  .Sqlite .Unknown ("Invalid column type " ++ value.type ++ " at index: " ++ toString index ++ ", name: " ++ name)

def get_text (index : Nat) (name : String) : SqlValue → Except AuditError String
  | .Text text => .ok text
  | value => .error (invalid_column value index name)

def get_optional_text (index : Nat) (name : String) : SqlValue → Except AuditError (Option String)
  | .Null => .ok none
  | value => (get_text index name value).map some

def get_integer (index : Nat) (name : String) : SqlValue → Except AuditError Int
  | .Integer n => .ok n
  | value => .error (invalid_column value index name)

def get_optional_integer (index : Nat) (name : String) : SqlValue → Except AuditError (Option Int)
  | .Null => .ok none
  | value => (get_integer index name value).map some

def run_from_row (row : RunRow) : Except AuditError RunRecord := do
  let run_id ← get_text 0 "run_id" row.run_id
  let session_id ← get_optional_text 1 "session_id" row.session_id
  let parent_run_id ← get_optional_text 2 "parent_run_id" row.parent_run_id
  let fingerprint ← get_text 3 "fingerprint" row.fingerprint
  let fingerprint_schema ← get_text 4 "fingerprint_schema" row.fingerprint_schema
  let started_at_ms ← get_integer 5 "started_at_ms" row.started_at_ms
  let ended_at_ms ← get_optional_integer 6 "ended_at_ms" row.ended_at_ms
  let start_seq ← get_integer 7 "start_seq" row.start_seq
  let end_seq ← get_optional_integer 8 "end_seq" row.end_seq
  let status ← get_text 9 "status" row.status
  let resumed_from_snapshot ← get_optional_text 10 "resumed_from_snapshot" row.resumed_from_snapshot
  return {
    run_id, session_id, parent_run_id, resumed_from_snapshot, fingerprint, fingerprint_schema
    started_at_ms, ended_at_ms, start_seq, end_seq
    status := RunStatus.parse status }

def text_column (text : Option String) : SqlValue := (text.map SqlValue.Text).getD .Null
def integer_column (n : Option Int) : SqlValue := (n.map SqlValue.Integer).getD .Null

/-- The parameters that a record is written with. -/
def RunRecord.columns (record : RunRecord) : RunRow where
  run_id := .Text record.run_id
  session_id := text_column record.session_id
  parent_run_id := text_column record.parent_run_id
  fingerprint := .Text record.fingerprint
  fingerprint_schema := .Text record.fingerprint_schema
  started_at_ms := .Integer record.started_at_ms
  ended_at_ms := integer_column record.ended_at_ms
  start_seq := .Integer record.start_seq
  end_seq := integer_column record.end_seq
  status := .Text record.status.as_str
  resumed_from_snapshot := text_column record.resumed_from_snapshot

/-! ### Statements and transactions -/

abbrev Statement : Type := List RunRow → Except AuditError (List RunRow)

def delete_runs : Statement := fun _ => .ok []

/-- A row under a key that is taken is refused; the empty value is no key, and stands in any number of rows. -/
def insert_run (row : RunRow) : Statement := fun rows =>
  if row.run_id ≠ .Null ∧ rows.any fun other => other.run_id = row.run_id then
    .error (.Sqlite .Unknown "UNIQUE constraint failed: runs.run_id")
  else .ok (rows ++ [row])

/-- The statements in order, each answered by the system with an error or not; the first that fails ends the
    transaction. -/
def run_statements : List (Option AuditError) → List Statement → Statement
  | _, [], rows => .ok rows
  | some error :: _, _ :: _, _ => .error error
  | none :: answers, statement :: later, rows => do run_statements answers later (← statement rows)
  | [], statement :: later, rows => do run_statements [] later (← statement rows)

/-- The database of a store: its chain, and the table of runs. -/
structure RunDb where
  audit_events : EventTable
  runs : List RunRow

section
variable (crates : Crates) (order : SqlOrder) (db : RunDb)

def RunDb.all : Except AuditError (List StoredEvent) := db.audit_events.rows.mapM (RawRow.into_stored crates)

def RunDb.derive_runs : Except AuditError (List RunRecord × RebuildReport) := do return derive_runs_from (← db.all crates)

/-- Every row of the table, in the order of the starts. -/
def RunDb.all_runs : Except AuditError (List RunRecord) :=
  (db.runs.mergeSort fun first second => order.le first.start_seq second.start_seq).mapM run_from_row

/-- The transaction begins, empties the table, writes the rows, and is committed. -/
def rebuild_statements (rows : List RunRecord) : List Statement :=
  [Except.ok, delete_runs] ++ rows.map (fun row => insert_run row.columns) ++ [Except.ok]

/-- The table made anew; where a statement fails it is as it was. -/
def RunDb.rebuild_run_index (answers : List (Option AuditError)) : Except AuditError RebuildReport × RunDb :=
  match db.derive_runs crates with
  | .error error => (.error error, db)
  | .ok (rows, report) =>
    match run_statements answers (rebuild_statements rows) db.runs with
    | .error error => (.error error, db)
    | .ok runs => (.ok report, { db with runs })

def RunDb.check_run_index (debug : RunRecord → String) : Except AuditError (List String) := do
  let derived := (← db.derive_runs crates).1
  let stored ← db.all_runs order
  return derived.filterMap (AuditStore.finding_of debug stored) ++ stored.filterMap fun row =>
    if derived.any (·.run_id == row.run_id) then none
    else some ("not in the chain: " ++ row.run_id ++ " (index row at seq " ++ toString row.start_seq ++ ")")

end

/-! ### Columns read back -/

@[simp] theorem get_optional_text_column (index : Nat) (name : String) (text : Option String) :
    get_optional_text index name (text_column text) = .ok text := by cases text <;> rfl
@[simp] theorem get_optional_integer_column (index : Nat) (name : String) (n : Option Int) :
    get_optional_integer index name (integer_column n) = .ok n := by cases n <;> rfl

/-- A record is read back from its columns. -/
theorem run_from_columns (record : RunRecord) : run_from_row record.columns = .ok record := by
  unfold run_from_row RunRecord.columns
  simp only [get_optional_text_column, get_optional_integer_column, get_text, get_integer]
  change Except.ok _ = _
  simp [parse_as_str]

theorem runs_from_columns (records : List RunRecord) : (records.map RunRecord.columns).mapM run_from_row = .ok records := by
  induction records with
  | nil => rfl
  | cons record rest ih =>
    rw [List.map_cons, List.mapM_cons, run_from_columns, ih]
    rfl

/-! ### The rebuild -/

/-- A statement that cannot fail for what the table holds. -/
theorem statement_done {answers : List (Option AuditError)} {statement : Statement} {later : List Statement}
    {rows after done : List RunRow} (works : statement rows = .ok after)
    (ran : run_statements answers (statement :: later) rows = .ok done) :
    ∃ answers, run_statements answers later after = .ok done := by
  cases answers with
  | nil =>
    rw [run_statements, works] at ran
    exact ⟨[], ran⟩
  | cons answer answers =>
    cases answer with
    | some error => cases ran
    | none =>
      rw [run_statements, works] at ran
      exact ⟨answers, ran⟩

/-- Rows of distinct runs are written one behind the other. -/
theorem inserts_done {answers : List (Option AuditError)} {records : List RunRecord} {written done : List RunRow}
    (distinct : (records.map RunRecord.run_id).Nodup) (new : ∀ record ∈ records, ∀ row ∈ written, row.run_id ≠ .Text record.run_id)
    (ran : run_statements answers (records.map (fun row => insert_run row.columns) ++ [Except.ok]) written = .ok done) :
    done = written ++ records.map RunRecord.columns := by
  induction records generalizing answers written with
  | nil =>
    obtain ⟨rest, ended⟩ := statement_done rfl ran
    cases rest <;> cases ended <;> simp
  | cons record records ih =>
    obtain ⟨apart, others⟩ := List.nodup_cons.mp distinct
    have free : insert_run record.columns written = .ok (written ++ [record.columns]) := by
      unfold insert_run
      rw [if_neg]
      rintro ⟨-, taken⟩
      obtain ⟨row, inside, same⟩ := List.any_eq_true.mp taken
      exact new record List.mem_cons_self row inside (of_decide_eq_true same)
    obtain ⟨answers, later⟩ := statement_done free ran
    have fresh : ∀ other ∈ records, ∀ row ∈ written ++ [record.columns], row.run_id ≠ .Text other.run_id := by
      intro other inside row member
      rcases List.mem_append.mp member with old | last
      · exact new other (List.mem_cons_of_mem _ inside) row old
      · rw [List.mem_singleton.mp last]
        intro same
        have ids : record.run_id = other.run_id := SqlValue.Text.inj same
        exact apart (ids ▸ List.mem_map_of_mem inside)
    rw [ih others fresh later, List.map_cons, List.append_assoc, List.singleton_append]

/-- A rebuild that goes through leaves the columns of the rows, whatever was there. -/
theorem rebuild_done {answers : List (Option AuditError)} {records : List RunRecord} {before done : List RunRow}
    (distinct : (records.map RunRecord.run_id).Nodup)
    (ran : run_statements answers (rebuild_statements records) before = .ok done) : done = records.map RunRecord.columns := by
  have begin_works : (Except.ok : Statement) before = .ok before := rfl
  have delete_works : delete_runs before = .ok [] := rfl
  have ran : run_statements answers (Except.ok :: delete_runs ::
      (records.map (fun row => insert_run row.columns) ++ [Except.ok])) before = .ok done := ran
  obtain ⟨answers, begun⟩ := statement_done begin_works ran
  obtain ⟨answers, emptied⟩ := statement_done delete_works begun
  have none_written : ∀ record ∈ records, ∀ row ∈ ([] : List RunRow), row.run_id ≠ .Text record.run_id :=
    fun _ _ _ inside => absurd inside List.not_mem_nil
  exact (inserts_done distinct none_written emptied).trans (List.nil_append _)

section
variable {crates : Crates} {db : RunDb} {events : List StoredEvent}

/-- Decoded rows have the ids of the table, which rise. -/
theorem all_rising (decoded : db.all crates = .ok events) : Rising events := by
  have id_kept {row : RawRow} {event : StoredEvent} (read : row.into_stored crates = .ok event) : event.id = row.id := by
    unfold RawRow.into_stored at read
    split at read
    · cases read
      rfl
    · cases read
  have ids {rows : List RawRow} {events : List StoredEvent}
      (pairs : List.Forall₂ (fun row event => row.into_stored crates = .ok event) rows events) :
      events.map StoredEvent.id = rows.map RawRow.id := by
    induction pairs with
    | nil => rfl
    | cons head _ ih => rw [List.map_cons, List.map_cons, id_kept head, ih]
  have rows : (db.audit_events.rows.map RawRow.id).Pairwise (· < ·) := List.pairwise_map.mpr db.audit_events.ordered
  rw [← ids (decoded_iff.mp decoded)] at rows
  exact List.pairwise_map.mp rows

/-- The rows of a rebuilt table come back as the rows of the chain, in their order. -/
theorem rebuilt_all_runs (order : SqlOrder) (decoded : db.all crates = .ok events) :
    (RunDb.mk db.audit_events ((derive_runs_from events).1.map RunRecord.columns)).all_runs order =
      .ok (derive_runs_from events).1 := by
  have sorted : ((derive_runs_from events).1.map RunRecord.columns).Pairwise fun first second =>
      order.le first.start_seq second.start_seq = true := by
    rw [derive_runs_from_declared (all_rising decoded), List.pairwise_map]
    refine (declared_rise (all_rising decoded)).imp fun {first second} less => ?_
    change order.le (.Integer _) (.Integer _) = true
    rw [order.integers]
    exact decide_eq_true (le_of_lt less)
  rw [RunDb.all_runs, List.mergeSort_of_pairwise sorted]
  exact runs_from_columns _

/-- A table whose rows are those of the chain has no findings. -/
theorem rebuilt_check (order : SqlOrder) (debug : RunRecord → String) (decoded : db.all crates = .ok events)
    (stored : db.all_runs order = .ok (derive_runs_from events).1) : db.check_run_index crates order debug = .ok [] := by
  have told : db.derive_runs crates = .ok (derive_runs_from events) := by rw [RunDb.derive_runs, decoded]; rfl
  have chain : (derive_runs_from events).1.filterMap (AuditStore.finding_of debug (derive_runs_from events).1) = [] := by
    rw [List.filterMap_eq_nil_iff]
    intro row inside
    have here : (derived events).find row.run_id = some row := Table.find_eq_some.mpr ⟨inside, rfl⟩
    have found : (derive_runs_from events).1.find? (·.run_id == row.run_id) = some row := here
    rw [AuditStore.finding_of, found]
    simp
  have index : ((derive_runs_from events).1.filterMap fun row =>
      if (derive_runs_from events).1.any (·.run_id == row.run_id) then none
      else some ("not in the chain: " ++ row.run_id ++ " (index row at seq " ++ toString row.start_seq ++ ")")) = [] := by
    rw [List.filterMap_eq_nil_iff]
    intro row inside
    have known : (derive_runs_from events).1.any (·.run_id == row.run_id) = true :=
      List.any_eq_true.mpr ⟨row, inside, by simp⟩
    rw [if_pos known]
  unfold RunDb.check_run_index
  rw [told, stored]
  simp only [bind, Except.bind, pure, Except.pure, chain, index, List.append_nil]

end

/-- For every chain and whatever the table held: a rebuild that succeeds leaves the rows that the chain tells of and no
    others, in their order, and the chain as it was; the check then finds nothing; and a rebuild of this table, whatever
    its statements are answered, leaves it the same. -/
theorem rebuild_exact (crates : Crates) (order : SqlOrder) (db : RunDb) (answers : List (Option AuditError))
    (report : RebuildReport) (rebuilt : (db.rebuild_run_index crates answers).1 = .ok report) :
    let after := (db.rebuild_run_index crates answers).2
    ∃ events, db.all crates = .ok events ∧ report = (derive_runs_from events).2 ∧
      after.runs = (derive_runs_from events).1.map RunRecord.columns ∧
      after.all_runs order = .ok (derive_runs_from events).1 ∧
      (∀ debug, after.check_run_index crates order debug = .ok []) ∧
      after.audit_events = db.audit_events ∧
      ∀ others, (after.rebuild_run_index crates others).2 = after := by
  intro after
  cases decoded : db.all crates with
  | error error =>
    have told : db.derive_runs crates = .error error := by rw [RunDb.derive_runs, decoded]; rfl
    rw [RunDb.rebuild_run_index, told] at rebuilt
    cases rebuilt
  | ok events =>
    have told {db : RunDb} (decoded : db.all crates = .ok events) : db.derive_runs crates = .ok (derive_runs_from events) := by
      rw [RunDb.derive_runs, decoded]
      rfl
    -- A rebuild on this chain leaves the table alone or leaves these rows.
    have outcome {db : RunDb} (decoded : db.all crates = .ok events) (answers : List (Option AuditError)) :
        (∃ error, db.rebuild_run_index crates answers = (.error error, db)) ∨
          db.rebuild_run_index crates answers = (.ok (derive_runs_from events).2,
            { db with runs := (derive_runs_from events).1.map RunRecord.columns }) := by
      rw [RunDb.rebuild_run_index, told decoded]
      simp only
      split
      · exact .inl ⟨_, rfl⟩
      · next runs ran =>
        rw [rebuild_done (derived events).distinct ran]
        exact .inr rfl
    rcases outcome decoded answers with ⟨error, failed⟩ | done
    · rw [failed] at rebuilt
      cases rebuilt
    · have same : after = { db with runs := (derive_runs_from events).1.map RunRecord.columns } := by
        change (db.rebuild_run_index crates answers).2 = _
        rw [done]
      rw [done] at rebuilt
      have kept : after.all crates = .ok events := by rw [same]; exact decoded
      have listed : after.all_runs order = .ok (derive_runs_from events).1 := by rw [same]; exact rebuilt_all_runs order decoded
      refine ⟨events, rfl, (Except.ok.inj rebuilt).symm, by rw [same], listed, fun debug => rebuilt_check order debug kept listed,
        by rw [same], fun others => ?_⟩
      rcases outcome kept others with ⟨error, failed⟩ | again
      · rw [failed]
      · rw [again, same]

/-- Integers by their numbers, anything else as it comes. -/
def by_number : SqlOrder where
  le first second := match first, second with
    | .Integer m, .Integer n => decide (m ≤ n)
    | _, _ => true
  integers _ _ := rfl

/-- A chain with one run, and an index of a row without a key, a row that is no run's, and one of a run long gone. -/
def damaged_db : RunDb where
  audit_events := (EventTable.empty.append request_crates (start_marker 0 "a").event).2
  runs := [⟨.Null, .Null, .Null, .Null, .Null, .Null, .Null, .Null, .Null, .Blob [0], .Null⟩,
    ⟨.Integer 3, .Real 0, .Null, .Text "f", .Text "s", .Text "soon", .Null, .Blob [], .Null, .Text "over", .Null⟩,
    RunRecord.columns ⟨"gone", none, none, none, "f", "s", 5, some 7, 1, some 2, .Ok⟩]

theorem damaged_index_rebuilt :
    let after := (damaged_db.rebuild_run_index request_crates []).2
    ∃ events, damaged_db.all request_crates = .ok events ∧ ⟨1, 1, 0, 0, 0⟩ = (derive_runs_from events).2 ∧
      after.runs = (derive_runs_from events).1.map RunRecord.columns ∧
      after.all_runs by_number = .ok (derive_runs_from events).1 ∧
      (∀ debug, after.check_run_index request_crates by_number debug = .ok []) ∧
      after.audit_events = damaged_db.audit_events ∧
      ∀ others, (after.rebuild_run_index request_crates others).2 = after :=
  rebuild_exact request_crates by_number damaged_db [] ⟨1, 1, 0, 0, 0⟩ (by decide +kernel)

end Riscdom.Audit
