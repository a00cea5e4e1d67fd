import Riscdom.Machine
import Riscdom.SegmentSteps

/-!
No operation rewrites the event table of any store: whatever an operation is
answered, whether it fails or not, the table after it is the table before it
with events appended. Chains therefore stay chains along every run.
-/
namespace Riscdom.Audit
open Riscdom.Json Riscdom.HashChain Riscdom.KeyedTable Fallible.Act Riscdom.Machine
variable (crates : Crates)

/-- The table with the events appended in order. -/
def EventTable.append_all (table : EventTable) (events : List AuditEvent) : EventTable :=
  events.foldl (fun table event => (table.append crates event).2) table

@[simp] theorem append_all_nil (table : EventTable) : table.append_all crates [] = table := rfl
@[simp] theorem append_all_cons (table : EventTable) (event : AuditEvent) (events : List AuditEvent) :
    table.append_all crates (event :: events) = (table.append crates event).2.append_all crates events := rfl
theorem append_all_append (table : EventTable) (first second : List AuditEvent) :
    table.append_all crates (first ++ second) = (table.append_all crates first).append_all crates second :=
  List.foldl_append

theorem append_all_chained {table : EventTable} (chained : Chained crates table.rows) (events : List AuditEvent) :
    Chained crates (table.append_all crates events).rows := by
  induction events generalizing table with
  | nil => exact chained
  | cons event events ih => exact ih (EventTable.append_chained crates chained event)

/-- What a row says of the event it was appended for. -/
def Records (event : AuditEvent) (row : RawRow) : Prop :=
  row.timestamp_ms = event.timestamp_ms ∧ row.actor = event.actor ∧ row.action = event.action ∧
    row.agent_id = event.agent_id ∧ row.detail_json = crates.json.to_string event.detail

theorem append_all_rows (table : EventTable) (events : List AuditEvent) :
    ∃ rows, (table.append_all crates events).rows = table.rows ++ rows ∧ List.Forall₂ (Records crates) events rows := by
  induction events generalizing table with
  | nil => exact ⟨[], (List.append_nil _).symm, .nil⟩
  | cons event events ih =>
    obtain ⟨rows, grown, recorded⟩ := ih (table.append crates event).2
    refine ⟨table.row_of crates event :: rows, ?_, .cons ⟨rfl, rfl, rfl, rfl, rfl⟩ recorded⟩
    rw [append_all_cons, grown, EventTable.append_rows, List.append_assoc]
    rfl

/-- The events of a store grew by events of a kind, and nothing of them was rewritten. -/
def Grows (fits : AuditEvent → Prop) (store : AuditStore) (v w : World) : Prop :=
  ∃ events, (∀ event ∈ events, fits event) ∧
    (w.db store).audit_events = (v.db store).audit_events.append_all crates events

section Grows
variable {crates} {fits : AuditEvent → Prop} {store : AuditStore}

theorem Grows.refl (w : World) : Grows crates fits store w w := ⟨[], by simp, rfl⟩
theorem Grows.trans {u v w : World} (first : Grows crates fits store u v) (second : Grows crates fits store v w) :
    Grows crates fits store u w := by
  obtain ⟨earlier, old, first⟩ := first
  obtain ⟨later, new, second⟩ := second
  refine ⟨earlier ++ later, ?_, by rw [second, first, append_all_append]⟩
  intro event inside
  rcases List.mem_append.mp inside with before | after
  · exact old event before
  · exact new event after
theorem Grows.of_eq {v w : World} (same : (w.db store).audit_events = (v.db store).audit_events) :
    Grows crates fits store v w := ⟨[], by simp, same⟩

theorem Grows.chained {v w : World} (grows : Grows crates fits store v w) (chained : Chained crates (v.rows store)) :
    Chained crates (w.rows store) := by
  obtain ⟨events, _, grown⟩ := grows
  rw [World.rows, grown]
  exact append_all_chained crates chained events

/-- The new rows record events of the kind. -/
theorem Grows.rows {v w : World} (grows : Grows crates fits store v w) :
    ∃ rows, w.rows store = v.rows store ++ rows ∧ ∀ row ∈ rows, ∃ event, fits event ∧ Records crates event row := by
  obtain ⟨events, kind, grown⟩ := grows
  obtain ⟨rows, shape, recorded⟩ := append_all_rows crates (v.db store).audit_events events
  refine ⟨rows, by rw [World.rows, grown, shape]; rfl, ?_⟩
  clear shape grown
  induction recorded with
  | nil => simp
  | cons head _ ih =>
    intro row inside
    rcases List.mem_cons.mp inside with rfl | later
    · exact ⟨_, kind _ List.mem_cons_self, head⟩
    · exact ih (fun event old => kind event (List.mem_cons_of_mem _ old)) row later

/-! ### Each operation grows the tables -/

theorem appended_grows (w : World) (on : AuditStore) {event : AuditEvent} (kind : fits event) :
    Grows crates fits store w (w.appended crates on event) := by
  by_cases same : store = on
  · subst same
    exact ⟨[event], by simpa using kind, by simp [World.appended]⟩
  · exact .of_eq (by simp [World.appended, World.db_put, same])

theorem append_grows (on : AuditStore) {event : AuditEvent} (kind : fits event) :
    Does (Grows crates fits store) (on.append crates event) := by
  intro w
  cases outcome : w.append_error with
  | none =>
    rw [AuditStore.append_granted crates on outcome]
    exact .trans (.of_eq rfl) (appended_grows w.append_spent on kind)
  | some error =>
    rw [AuditStore.append_refused crates on outcome]
    exact .of_eq rfl

/-- A statement on another table leaves the events alone. -/
theorem execute_grows (on : AuditStore) {change : AuditDb → AuditDb}
    (beside : ∀ db, (change db).audit_events = db.audit_events) : Does (Grows crates fits store) (on.execute change) := by
  intro w
  cases answer : w.updates.headD none with
  | none =>
    rw [AuditStore.execute_granted on answer]
    by_cases same : store = on
    · subst same
      exact .of_eq (by rw [World.db_put_self, beside])
    · exact .of_eq (by rw [World.db_put, if_neg same]; rfl)
  | some error =>
    rw [AuditStore.execute_refused on answer]
    exact .of_eq rfl

theorem open_at_grows (path : FilePath) : Does (Grows crates fits store) (AuditStore.open_at path) := by
  intro w
  rw [AuditStore.open_at]
  cases w.opens.headD none with
  | none =>
    refine .of_eq ?_
    simp only [World.db_put]
    split_ifs with same
    · rw [same]
    · rfl
  | some error => exact .of_eq rfl

theorem now_ms_grows : Does (Grows crates fits store) now_ms := fun _ => .of_eq rfl

/-- Growth is climbed by every operation whose appends are of the kind. -/
theorem grows_climbed : Climbed (Grows crates fits store) where
  refl := .refl
  trans := .trans
  tick := now_ms_grows
  opens := open_at_grows

theorem update_segment_grows (on : AuditStore) (segment_id : String) (rewrite : Segment → Segment)
    (keeps : ∀ s, (rewrite s).segment_id = s.segment_id) :
    Does (Grows crates fits store) (on.update_segment segment_id rewrite keeps) := execute_grows on fun _ => rfl

theorem insert_segment_grows (on : AuditStore) (segment : Segment) :
    Does (Grows crates fits store) (on.insert_segment segment) :=
  grows_climbed.insert_segment on (execute_grows on fun _ => rfl)

theorem open_segment_grows (on : AuditStore) (kind : SegmentKind) (owner : Option String)
    (opened : ∀ now segment, fits (.new now "host" ACTION_SEGMENT_OPENED (segment_opened_detail segment))) :
    Does (Grows crates fits store) (on.open_segment_inner crates kind owner) := by
  refine grows_climbed.open_segment on kind owner (insert_segment_grows on) ?_ ?_
  · intro now segment
    exact append_grows on (opened now segment)
  · intro segment_id
    exact execute_grows on fun _ => rfl

theorem close_segment_grows (on : AuditStore) (segment_id : String)
    (closed : ∀ now closed_at_ms, fits (.new now "host" ACTION_SEGMENT_CLOSED (segment_closed_detail segment_id closed_at_ms))) :
    Does (Grows crates fits store) (on.close_segment crates segment_id) := by
  refine grows_climbed.close_segment on segment_id ?_ ?_
  · intro state closed_at_ms _
    exact update_segment_grows on _ _ _
  · intro now closed_at_ms
    exact append_grows on (closed now closed_at_ms)

theorem adopt_segment_grows (on : AuditStore) (segment_id : String) (head_prev_chain : Option String)
    (head_prev_length : Option Int) :
    Does (Grows crates fits store) (on.adopt_segment segment_id head_prev_chain head_prev_length) :=
  grows_climbed.adopt_segment on segment_id _ _ fun segment _ => insert_segment_grows on segment

theorem fork_segment_grows (on : AuditStore) (segment : Segment) (conflict : Conflict)
    (forked : ∀ now forked_at_ms, fits (.new now "host" ACTION_SEGMENT_FORKED (segment_forked_detail segment.segment_id
      segment.kind forked_at_ms (conflict_reason conflict) (some conflict.id)))) :
    Does (Grows crates fits store) (on.fork_segment crates segment conflict) := by
  refine grows_climbed.fork_segment on segment conflict ?_ (update_segment_grows on _ _ _)
  intro now forked_at_ms
  exact append_grows on (forked now forked_at_ms)

theorem fold_segment_grows (on : AuditStore) (segment : Segment) {events : List StoredEvent}
    (transcribed : ∀ event ∈ events, fits (outgoing event))
    (merged : ∀ now merged_at_ms count, fits (.new now "host" ACTION_SEGMENT_MERGED
      (segment_merged_detail segment.segment_id segment.kind merged_at_ms count))) :
    Does (Grows crates fits store) (on.fold_segment crates segment events) := by
  refine grows_climbed.fold_segment on segment ?_ (fun _ => update_segment_grows on _ _ _) ?_
    fun _ => update_segment_grows on _ _ _
  · intro event inside
    exact append_grows on (transcribed event inside)
  · intro now merged_at_ms count
    exact append_grows on (merged now merged_at_ms count)

theorem merge_segment_grows (on : AuditStore) (audit_dir : FilePath) (segment_id : String) (any : ∀ event, fits event) :
    Does (Grows crates fits store) (on.merge_segment crates audit_dir segment_id) :=
  grows_climbed.merge_segment on audit_dir segment_id (fun event => append_grows on (any event))
    fun _ _ _ => update_segment_grows on _ _ _

end Grows

/-! ### Runs -/

/-- What happens to a store: an operation on it, or anything at all elsewhere, other files, the clock and the
    answers to come included. -/
inductive Op
  | append (event : AuditEvent)
  | open_segment (kind : SegmentKind) (owner : Option String)
  | close_segment (segment_id : String)
  | adopt_segment (segment_id : String) (head_prev_chain : Option String) (head_prev_length : Option Int)
  | merge_segment (audit_dir : FilePath) (segment_id : String)
  | elsewhere (world : World)

/-- Another world with this store's file in it. -/
def World.around (w : World) (store : AuditStore) (other : World) : World :=
  { other with disk := Function.update other.disk store.path (w.disk store.path) }

@[simp] theorem around_db (w : World) (store : AuditStore) (other : World) : (w.around store other).db store = w.db store := by
  simp [World.around, World.db]

def operate (store : AuditStore) (w : World) : Op → World
  | .append event => (store.append crates event w).2
  | .open_segment kind owner => (store.open_segment_inner crates kind owner w).2
  | .close_segment segment_id => (store.close_segment crates segment_id w).2
  | .adopt_segment segment_id head_prev_chain head_prev_length =>
    (store.adopt_segment segment_id head_prev_chain head_prev_length w).2
  | .merge_segment audit_dir segment_id => (store.merge_segment crates audit_dir segment_id w).2
  | .elsewhere world => w.around store world

/-- Any event at all. -/
def Unrestricted (_ : AuditEvent) : Prop := True

theorem operate_grows (store : AuditStore) (w : World) (op : Op) :
    Grows crates Unrestricted store w (operate crates store w op) := by
  cases op with
  | append event => exact append_grows store trivial w
  | open_segment kind owner => exact open_segment_grows store kind owner (fun _ _ => trivial) w
  | close_segment segment_id => exact close_segment_grows store segment_id (fun _ _ => trivial) w
  | adopt_segment segment_id chain length => exact adopt_segment_grows store segment_id chain length w
  | merge_segment audit_dir segment_id => exact merge_segment_grows store audit_dir segment_id (fun _ => trivial) w
  | elsewhere world => exact .of_eq (by rw [operate, around_db])

/-- The world after a run of operations. -/
def reached (store : AuditStore) (start : World) (ops : List Op) : World := run (operate crates store) start ops

theorem reached_snoc (store : AuditStore) (start : World) (ops : List Op) (op : Op) :
    reached crates store start (ops ++ [op]) = operate crates store (reached crates store start ops) op := by
  rw [reached, run_append, run_cons, run_nil]
  rfl

/-- Along every run the event table only grows, by appended events. -/
theorem reached_grows (store : AuditStore) (w : World) (ops : List Op) :
    Grows crates Unrestricted store w (reached crates store w ops) :=
  run_climbs .refl .trans (operate_grows crates store) w ops

/-- Every store that began as a new file holds one chain. -/
theorem reached_chained {store : AuditStore} {w : World} (new : w.disk store.path = none) (ops : List Op) :
    Chained crates ((reached crates store w ops).rows store) := by
  refine (reached_grows crates store w ops).chained ?_
  rw [World.rows, World.db, new]
  trivial

end Riscdom.Audit
