import Mathlib.Logic.Function.Basic
import Riscdom.AuditHash
import Riscdom.Fallible
import Riscdom.RunDerivation
import Riscdom.SegmentRecords

/-!
The audit store: its tables, the world of files it stands in, and the append
that chains an event onto the newest row. The world answers every write: an
append attempt, a row write or an open either succeeds or fails with an error
the answer names, and a failed attempt leaves no row.
-/
namespace Riscdom.Audit
open Riscdom.Json Riscdom.HashChain Riscdom.KeyedTable

/-! ### Tables -/

/-- The event table. Its ids rise, and the newest id is never above the sequence that gives them out. -/
structure EventTable where
  rows : List RawRow
  sequence : Int
  ordered : rows.Pairwise fun r s => r.id < s.id
  counted : ∀ r ∈ rows, r.id ≤ sequence

namespace EventTable

def empty : EventTable := ⟨[], 0, .nil, by simp⟩

/-- A row at the next id. -/
def insert (table : EventTable) (row : RawRow) : EventTable where
  rows := table.rows ++ [{ row with id := table.sequence + 1 }]
  sequence := table.sequence + 1
  ordered := by
    refine List.pairwise_append.mpr ⟨table.ordered, List.pairwise_singleton _ _, ?_⟩
    intro r old s new
    have below := table.counted r old
    obtain rfl := List.mem_singleton.mp new
    exact Int.lt_add_one_of_le below
  counted := by
    intro r inside
    rcases List.mem_append.mp inside with old | new
    · have below := table.counted r old
      omega
    · obtain rfl := List.mem_singleton.mp new
      exact le_rfl

/-- The hash of the newest row. -/
def last_hash (table : EventTable) : Option String := table.rows.getLast?.map RawRow.hash
def last_id (table : EventTable) : Option Int := table.rows.getLast?.map RawRow.id

variable (crates : Crates)

/-- The row an event becomes after the newest one. -/
def row_of (table : EventTable) (event : AuditEvent) : RawRow :=
  let prev_hash := table.last_hash.getD GENESIS_PREV_HASH
  let detail_json := crates.json.to_string event.detail
  { id := table.sequence + 1, timestamp_ms := event.timestamp_ms, actor := event.actor, action := event.action,
    detail_json, prev_hash, hash := compute_hash crates prev_hash event detail_json, agent_id := event.agent_id }

/-- The body of an append transaction: read the newest hash, hash, insert. -/
def append (table : EventTable) (event : AuditEvent) : StoredEvent × EventTable :=
  let row := table.row_of crates event
  ({ id := row.id, event, prev_hash := row.prev_hash, hash := row.hash }, table.insert row)

@[simp] theorem append_rows (table : EventTable) (event : AuditEvent) :
    (table.append crates event).2.rows = table.rows ++ [table.row_of crates event] := rfl
@[simp] theorem append_sequence (table : EventTable) (event : AuditEvent) :
    (table.append crates event).2.sequence = table.sequence + 1 := rfl
@[simp] theorem append_id (table : EventTable) (event : AuditEvent) :
    (table.append crates event).1.id = table.sequence + 1 := rfl

/-- A row reads back as the event that was stored. -/
theorem row_of_stored (table : EventTable) (event : AuditEvent) (plain : Plain event.detail)
    (shallow : depth event.detail ≤ 127) : (table.row_of crates event).into_stored crates = .ok (table.append crates event).1 := by
  have read : decode crates (table.row_of crates event).detail_json = .ok event.detail := decode_to_string crates plain shallow
  rw [RawRow.into_stored, read]
  rfl

theorem last_hash_eq_tip (table : EventTable) :
    table.last_hash.getD GENESIS_PREV_HASH = tip RawRow.hash GENESIS_PREV_HASH table.rows :=
  (tip_eq_getLast GENESIS_PREV_HASH table.rows).symm

/-- An append to a chain is a chain. -/
theorem append_chained {table : EventTable} (chained : Chained crates table.rows) (event : AuditEvent) :
    Chained crates (table.append crates event).2.rows :=
  linked_snoc chained (last_hash_eq_tip table) rfl

end EventTable

abbrev SegmentTable : Type := Table Segment.segment_id

/-- What one database file holds. -/
structure AuditDb where
  audit_events : EventTable
  runs : RunTable
  segments : SegmentTable

def AuditDb.empty : AuditDb := ⟨.empty, .empty, .empty⟩

/-! ### The world -/

/-- The files, the clock, and how the writes to come are answered: an error or, where the list is spent, success. -/
structure World where
  disk : FilePath → Option AuditDb
  clock : List Int
  appends : List (Option AuditError)
  updates : List (Option AuditError)
  opens : List (Option AuditError)

abbrev Act (α : Type) : Type := Fallible.Act World AuditError α
open Fallible.Act

/-- An open store, by the file it is open on. -/
structure AuditStore where
  path : FilePath
deriving DecidableEq

namespace World

def db (w : World) (store : AuditStore) : AuditDb := (w.disk store.path).getD .empty
/-- The rows of a store in the order of their ids. -/
def rows (w : World) (store : AuditStore) : List RawRow := (w.db store).audit_events.rows
def put (w : World) (store : AuditStore) (db : AuditDb) : World :=
  { w with disk := Function.update w.disk store.path (some db) }

theorem db_put (w : World) (store other : AuditStore) (db : AuditDb) :
    (w.put store db).db other = if other = store then db else w.db other := by
  obtain ⟨path⟩ := store
  obtain ⟨second⟩ := other
  by_cases same : second = path <;> simp [World.db, put, same]
@[simp] theorem db_put_self (w : World) (store : AuditStore) (db : AuditDb) : (w.put store db).db store = db := by
  rw [db_put, if_pos rfl]
@[simp] theorem put_appends (w : World) (store : AuditStore) (db : AuditDb) : (w.put store db).appends = w.appends := rfl
@[simp] theorem put_updates (w : World) (store : AuditStore) (db : AuditDb) : (w.put store db).updates = w.updates := rfl
@[simp] theorem put_opens (w : World) (store : AuditStore) (db : AuditDb) : (w.put store db).opens = w.opens := rfl
@[simp] theorem put_clock (w : World) (store : AuditStore) (db : AuditDb) : (w.put store db).clock = w.clock := rfl

end World

def now_ms : Act Int := fun w => (.ok (w.clock.headD 0), { w with clock := w.clock.tail })

namespace AuditStore
variable (crates : Crates) (store : AuditStore)

def read : Act AuditDb := get fun w => w.db store

/-- One statement that writes a row of a table without triggers. -/
def execute (change : AuditDb → AuditDb) : Act Unit := fun w =>
  match w.updates.headD none with
  | some error => (.error error, { w with updates := w.updates.tail })
  | none => (.ok (), { w with updates := w.updates.tail }.put store (change (w.db store)))

/-- One append transaction; an attempt that fails leaves no row. -/
def append_once (event : AuditEvent) : Act StoredEvent := fun w =>
  match w.appends.headD none with
  | some error => (.error error, { w with appends := w.appends.tail })
  | none =>
    let (stored, audit_events) := (w.db store).audit_events.append crates event
    (.ok stored, { w with appends := w.appends.tail }.put store { w.db store with audit_events })

/-- Attempts until one succeeds, fails for good, or none is left after it. A world holds what this connection writes: the
    row of the writer that held the lock before a retry is another connection's step. -/
def append_retrying (event : AuditEvent) : Nat → Act StoredEvent
  | 0 => append_once crates store event
  | left + 1 => do
    match ← attempt (append_once crates store event) with
    | .ok stored => return stored
    | .error error => if is_lock_error error then append_retrying event left else fail error

def append_with (event : AuditEvent) (attempts : Nat) : Act StoredEvent :=
  append_retrying crates store event (max attempts 1 - 1)

def APPEND_MAX_ATTEMPTS : Nat := 5

def append (event : AuditEvent) : Act StoredEvent := append_with crates store event APPEND_MAX_ATTEMPTS

def last_hash : Act (Option String) := get fun w => (w.db store).audit_events.last_hash
def last_id : Act (Option Int) := get fun w => (w.db store).audit_events.last_id
def scan : Act (List RawRow) := get fun w => w.rows store

/-- All events in chain order, decoded. -/
def all : Act (List StoredEvent) := do ofExcept ((← scan store).mapM (RawRow.into_stored crates))

end AuditStore

/-! ### One append, from the answers it gets -/

/-- The error that ends a row of attempts, if one does, and the answers left after it. -/
def settle : Nat → List (Option AuditError) → Option AuditError × List (Option AuditError)
  | _, [] => (none, [])
  | _, none :: rest => (none, rest)
  | 0, some error :: rest => (some error, rest)
  | left + 1, some error :: rest => if is_lock_error error then settle left rest else (some error, rest)

namespace World

/-- What the next append comes to: an error, or none and then a row. -/
def append_error (w : World) : Option AuditError := (settle (AuditStore.APPEND_MAX_ATTEMPTS - 1) w.appends).1
def append_spent (w : World) : World := { w with appends := (settle (AuditStore.APPEND_MAX_ATTEMPTS - 1) w.appends).2 }

@[simp] theorem append_spent_db (w : World) (store : AuditStore) : w.append_spent.db store = w.db store := rfl
@[simp] theorem append_spent_updates (w : World) : w.append_spent.updates = w.updates := rfl
@[simp] theorem append_spent_opens (w : World) : w.append_spent.opens = w.opens := rfl
@[simp] theorem append_spent_clock (w : World) : w.append_spent.clock = w.clock := rfl

/-- The world with an event appended to a store. -/
def appended (w : World) (crates : Crates) (store : AuditStore) (event : AuditEvent) : World :=
  w.put store { w.db store with audit_events := ((w.db store).audit_events.append crates event).2 }

end World

namespace AuditStore
variable (crates : Crates) (store : AuditStore)

theorem append_once_granted {w : World} (granted : w.appends.headD none = none) (event : AuditEvent) :
    append_once crates store event w = (.ok ((w.db store).audit_events.append crates event).1,
      { w with appends := w.appends.tail }.appended crates store event) := by
  rw [append_once, granted]
  rfl

theorem append_once_refused {w : World} {error : AuditError} (refused : w.appends.headD none = some error)
    (event : AuditEvent) : append_once crates store event w = (.error error, { w with appends := w.appends.tail }) := by
  rw [append_once, refused]

/-- An attempt that succeeds ends the loop. -/
theorem append_retrying_granted {w : World} (granted : w.appends.headD none = none) (event : AuditEvent) (left : Nat) :
    append_retrying crates store event left w = (.ok ((w.db store).audit_events.append crates event).1,
      { w with appends := w.appends.tail }.appended crates store event) := by
  cases left with
  | zero => exact append_once_granted crates store granted event
  | succ left =>
    rw [append_retrying, Fallible.Act.bind_run, attempt_run, append_once_granted crates store granted event]
    rfl

/-- A lock spends one of the attempts left. -/
theorem append_retrying_locked {w : World} {error : AuditError} (refused : w.appends.headD none = some error)
    (locked : is_lock_error error) (event : AuditEvent) (left : Nat) :
    append_retrying crates store event (left + 1) w =
      append_retrying crates store event left { w with appends := w.appends.tail } := by
  rw [append_retrying, Fallible.Act.bind_run, attempt_run, append_once_refused crates store refused event]
  simp only [locked, if_true]

/-- Any other error ends the loop, and so does a lock at the last attempt. -/
theorem append_retrying_refused {w : World} {error : AuditError} (refused : w.appends.headD none = some error)
    (event : AuditEvent) {left : Nat} (final : left = 0 ∨ ¬ is_lock_error error) :
    append_retrying crates store event left w = (.error error, { w with appends := w.appends.tail }) := by
  cases left with
  | zero => exact append_once_refused crates store refused event
  | succ left =>
    have other : ¬ is_lock_error error := final.resolve_left (Nat.succ_ne_zero left)
    rw [append_retrying, Fallible.Act.bind_run, attempt_run, append_once_refused crates store refused event]
    simp only [other]
    rfl

theorem append_retrying_run (event : AuditEvent) (left : Nat) (w : World) :
    append_retrying crates store event left w =
      match settle left w.appends with
      | (some error, rest) => (.error error, { w with appends := rest })
      | (none, rest) => (.ok ((w.db store).audit_events.append crates event).1,
          { w with appends := rest }.appended crates store event) := by
  induction left generalizing w with
  | zero =>
    rcases answers : w.appends with _ | ⟨_ | error, rest⟩
    · rw [append_retrying_granted crates store (by rw [answers]; rfl), answers]
      rfl
    · rw [append_retrying_granted crates store (by rw [answers]; rfl), answers]
      rfl
    · rw [append_retrying_refused crates store (by rw [answers]; rfl) event (.inl rfl), answers]
      rfl
  | succ left ih =>
    rcases answers : w.appends with _ | ⟨_ | error, rest⟩
    · rw [append_retrying_granted crates store (by rw [answers]; rfl), answers]
      rfl
    · rw [append_retrying_granted crates store (by rw [answers]; rfl), answers]
      rfl
    · by_cases locked : is_lock_error error
      · rw [append_retrying_locked crates store (by rw [answers]; rfl) locked, ih, answers]
        simp only [List.tail_cons, settle, locked, if_true]
        rfl
      · rw [append_retrying_refused crates store (by rw [answers]; rfl) event (.inr locked), answers]
        simp only [List.tail_cons, settle, locked]
        rfl

theorem append_granted {w : World} (granted : w.append_error = none) (event : AuditEvent) :
    append crates store event w =
      (.ok ((w.db store).audit_events.append crates event).1, w.append_spent.appended crates store event) := by
  rw [append, append_with, append_retrying_run]
  simp only [World.append_error] at granted
  cases outcome : settle (max APPEND_MAX_ATTEMPTS 1 - 1) w.appends with
  | mk error rest =>
    have same : settle (APPEND_MAX_ATTEMPTS - 1) w.appends = (error, rest) := outcome
    rw [same] at granted
    simp only at granted
    subst granted
    simp only [World.append_spent, same]

theorem append_refused {w : World} {error : AuditError} (refused : w.append_error = some error) (event : AuditEvent) :
    append crates store event w = (.error error, w.append_spent) := by
  rw [append, append_with, append_retrying_run]
  simp only [World.append_error] at refused
  cases outcome : settle (max APPEND_MAX_ATTEMPTS 1 - 1) w.appends with
  | mk found rest =>
    have same : settle (APPEND_MAX_ATTEMPTS - 1) w.appends = (found, rest) := outcome
    rw [same] at refused
    simp only at refused
    subst refused
    simp only [World.append_spent, same]

theorem execute_granted {w : World} (granted : w.updates.headD none = none) (change : AuditDb → AuditDb) :
    execute store change w = (.ok (), { w with updates := w.updates.tail }.put store (change (w.db store))) := by
  rw [execute, granted]

theorem execute_refused {w : World} {error : AuditError} (refused : w.updates.headD none = some error)
    (change : AuditDb → AuditDb) : execute store change w = (.error error, { w with updates := w.updates.tail }) := by
  rw [execute, refused]

end AuditStore

/-- The verdict on a store. -/
def verify_chain (crates : Crates) (store : AuditStore) : Act ChainStatus := do
  return verify_rows crates (← store.scan)

end Riscdom.Audit
