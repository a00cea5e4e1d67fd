import Riscdom.AuditStore
import Riscdom.Machine

/-!
Any number of connections on one database. Each runs its append calls attempt by
attempt, an attempt taking the write lock before it reads the newest row, so one
attempt is one step here; the schedule chooses which connection steps, and the
database answers each attempt. Every schedule leaves one unforked chain.
-/
namespace Riscdom.Audit.Connections
open Riscdom.HashChain Riscdom.Machine
variable (crates : Crates)

/-- An append call that has not returned yet. -/
structure Call where
  event : AuditEvent
  budget : Nat
  attempt : Nat

/-- The table, the call each connection is in, and what the calls returned, newest first. -/
structure Database where
  audit_events : EventTable
  calls : Nat → Option Call
  returned : List (Nat × Except AuditError StoredEvent)

/-- A new database with idle connections. -/
def Database.new : Database := ⟨.empty, fun _ => none, []⟩

inductive Step
  /-- A connection calls append with an attempt budget; while it is in a call it cannot. -/
  | append_with (connection : Nat) (event : AuditEvent) (attempts : Nat)
  /-- The call of a connection makes one attempt, answered with success or an error. -/
  | append_once (connection : Nat) (answer : Option AuditError)

def Database.leave (d : Database) (connection : Nat) (result : Except AuditError StoredEvent) : Database :=
  { d with calls := Function.update d.calls connection none, returned := (connection, result) :: d.returned }

def step (d : Database) : Step → Database
  | .append_with connection event attempts =>
    match d.calls connection with
    | some _ => d
    | none => { d with calls := Function.update d.calls connection (some ⟨event, max attempts 1, 1⟩) }
  | .append_once connection answer =>
    match d.calls connection with
    | none => d
    | some call =>
      match answer with
      | none =>
        let (stored, audit_events) := d.audit_events.append crates call.event
        { d with audit_events }.leave connection (.ok stored)
      | some error =>
        if call.attempt ≥ call.budget ∨ ¬ is_lock_error error then d.leave connection (.error error) else
          { d with calls := Function.update d.calls connection (some { call with attempt := call.attempt + 1 }) }

/-- The stored events of the calls that returned one, oldest first. -/
def Database.stored (d : Database) : List StoredEvent := (d.returned.filterMap fun call => call.2.toOption).reverse

/-- A stored event as the row it stands in. -/
def row (stored : StoredEvent) : RawRow :=
  { id := stored.id, timestamp_ms := stored.event.timestamp_ms, actor := stored.event.actor,
    action := stored.event.action, detail_json := crates.json.to_string stored.event.detail,
    prev_hash := stored.prev_hash, hash := stored.hash, agent_id := stored.event.agent_id }

/-- What every step keeps: one chain, of the rows that the calls returned. -/
structure Sound (d : Database) : Prop where
  chained : Chained crates d.audit_events.rows
  returned : d.audit_events.rows = d.stored.map (row crates)

theorem sound_new : Sound crates .new := ⟨trivial, rfl⟩

/-- An attempt that succeeds adds the row its call returns. -/
theorem sound_append {d : Database} (sound : Sound crates d) (connection : Nat) (event : AuditEvent) :
    Sound crates (Database.leave { d with audit_events := (d.audit_events.append crates event).2 } connection
      (.ok (d.audit_events.append crates event).1)) := by
  constructor
  · exact EventTable.append_chained crates sound.chained event
  · simp only [Database.leave, Database.stored, EventTable.append_rows, List.map_append, List.filterMap_cons,
      Except.toOption, List.reverse_cons]
    exact congrArg (· ++ _) sound.returned

theorem sound_error {d : Database} (sound : Sound crates d) (connection : Nat) (error : AuditError) :
    Sound crates (d.leave connection (.error error)) := ⟨sound.chained, sound.returned⟩

theorem sound_step (d : Database) (act : Step) (sound : Sound crates d) : Sound crates (step crates d act) := by
  cases act with
  | append_with connection event attempts =>
    simp only [step]
    cases d.calls connection with
    | some call => exact sound
    | none => exact ⟨sound.chained, sound.returned⟩
  | append_once connection answer =>
    simp only [step]
    cases d.calls connection with
    | none => exact sound
    | some call =>
      cases answer with
      | none => exact sound_append crates sound connection call.event
      | some error =>
        by_cases final : call.attempt ≥ call.budget ∨ ¬ is_lock_error error
        · simp only [if_pos final]
          exact sound_error crates sound connection error
        · simp only [if_neg final]
          exact ⟨sound.chained, sound.returned⟩

/-- Under every schedule the rows are one chain from the genesis hash, their ids rise, every row names the hash
    before it and carries the hash of its own fields, and the verdict counts the appends that returned. -/
theorem schedules_keep_one_chain (schedule : List Step) :
    let d := run (step crates) .new schedule
    d.audit_events.rows.Pairwise (fun r s => r.id < s.id) ∧
    (∀ before row after, d.audit_events.rows = before ++ row :: after →
      row.prev_hash = (before.getLast?.map RawRow.hash).getD GENESIS_PREV_HASH ∧ row.hash = recompute crates row) ∧
    verify_rows crates d.audit_events.rows = .Intact (d.returned.countP fun call => call.2.toBool) := by
  intro d
  have sound : Sound crates d := run_invariant (sound_step crates) (sound_new crates) schedule
  refine ⟨d.audit_events.ordered, linked_predecessor sound.chained, ?_⟩
  have length : d.audit_events.rows.length = d.returned.countP fun call => call.2.toBool := by
    have lengths := congrArg List.length sound.returned
    simp only [List.length_map, Database.stored, List.length_reverse, List.length_filterMap_eq_countP] at lengths
    rw [lengths]
    apply List.countP_congr
    rintro ⟨connection, result⟩ _
    cases result <;> simp [Except.toOption, Except.toBool]
  rw [verify_rows_intact crates sound.chained, length]

/-! ### A call that runs alone -/

/-- The attempts left of a call, run one after the other, do what the loop of the store does. -/
theorem attempts_run (store : AuditStore) (connection : Nat) (event : AuditEvent) (left attempt : Nat) (w : World) :
    ∃ answers : List (Option AuditError),
      run (step crates) ⟨(w.db store).audit_events,
          Function.update (fun _ => none) connection (some ⟨event, attempt + left, attempt⟩), []⟩
        (answers.map (.append_once connection)) =
      ⟨((store.append_retrying crates event left w).2.db store).audit_events, fun _ => none,
        [(connection, (store.append_retrying crates event left w).1)]⟩ := by
  induction left generalizing attempt w with
  | zero =>
    refine ⟨[w.appends.headD none], ?_⟩
    rw [List.map_singleton, run_cons, run_nil]
    cases answer : w.appends.headD none with
    | none =>
      rw [AuditStore.append_retrying_granted crates store answer]
      simp [step, Database.leave, World.appended]
      rfl
    | some error =>
      rw [AuditStore.append_retrying_refused crates store answer event (.inl rfl)]
      simp [step, Database.leave]
      rfl
  | succ left ih =>
    cases answer : w.appends.headD none with
    | none =>
      refine ⟨[none], ?_⟩
      rw [AuditStore.append_retrying_granted crates store answer, List.map_singleton, run_cons, run_nil]
      simp [step, Database.leave, World.appended]
      rfl
    | some error =>
      by_cases locked : is_lock_error error
      · obtain ⟨answers, later⟩ := ih (attempt + 1) { w with appends := w.appends.tail }
        refine ⟨some error :: answers, ?_⟩
        rw [AuditStore.append_retrying_locked crates store answer locked, ← later, List.map_cons, run_cons]
        have more : ¬ attempt ≥ attempt + (left + 1) := by omega
        simp [step, locked, more, Nat.add_assoc, Nat.add_comm 1 left]
        rfl
      · refine ⟨[some error], ?_⟩
        rw [AuditStore.append_retrying_refused crates store answer event (.inr locked), List.map_singleton, run_cons,
          run_nil]
        simp [step, Database.leave, locked]
        rfl

/-- A call of the store's append, no other connection stepping, is one schedule of the connections. -/
theorem append_with_run (store : AuditStore) (connection : Nat) (event : AuditEvent) (attempts : Nat) (w : World) :
    ∃ answers : List (Option AuditError),
      run (step crates) ⟨(w.db store).audit_events, fun _ => none, []⟩
        (.append_with connection event attempts :: answers.map (.append_once connection)) =
      ⟨((store.append_with crates event attempts w).2.db store).audit_events, fun _ => none,
        [(connection, (store.append_with crates event attempts w).1)]⟩ := by
  obtain ⟨answers, ran⟩ := attempts_run crates store connection event (max attempts 1 - 1) 1 w
  have budget : 1 + (max attempts 1 - 1) = max attempts 1 := by omega
  rw [budget] at ran
  exact ⟨answers, ran⟩

end Riscdom.Audit.Connections
