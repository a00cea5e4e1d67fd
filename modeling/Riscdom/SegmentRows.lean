import Riscdom.Merge

/-!
Which operation rewrites which row of the segment table: an operation on one
segment leaves the row of every other segment as it is, a refused merge leaves
all of them, and a close rewrites only where the segment is in its life.
-/
namespace Riscdom.Audit
open Riscdom.Json Riscdom.HashChain Riscdom.KeyedTable Fallible.Act Riscdom.Machine

namespace World

/-- The row of a segment in a store's table. -/
def segment (w : World) (store : AuditStore) (segment_id : String) : Option Segment :=
  (w.db store).segments.find segment_id

end World

/-- A row that stood under a name stands there still. -/
def SameRow (store : AuditStore) (segment_id : String) (v w : World) : Prop :=
  ∀ row, v.segment store segment_id = some row → w.segment store segment_id = some row

section SameRow
variable {crates : Crates} {store : AuditStore} {segment_id : String}

theorem SameRow.refl (w : World) : SameRow store segment_id w w := fun _ found => found
theorem SameRow.trans {u v w : World} (first : SameRow store segment_id u v) (second : SameRow store segment_id v w) :
    SameRow store segment_id u w := fun row found => second row (first row found)
theorem SameRow.of_eq {v w : World} (same : (w.db store).segments = (v.db store).segments) :
    SameRow store segment_id v w := by
  intro row found
  rw [World.segment, same]
  exact found

theorem now_ms_same_row : Does (SameRow store segment_id) now_ms := fun _ => .of_eq rfl

theorem append_same_row (on : AuditStore) (event : AuditEvent) :
    Does (SameRow store segment_id) (on.append crates event) := by
  intro w
  cases outcome : w.append_error with
  | none =>
    rw [AuditStore.append_granted crates on outcome]
    refine .of_eq ?_
    rw [World.appended, World.db_put]
    split_ifs with same
    · rw [same]
      rfl
    · rfl
  | some error =>
    rw [AuditStore.append_refused crates on outcome]
    exact .of_eq rfl

/-- A statement that finds what it found under the name. -/
theorem execute_same_row (on : AuditStore) {change : AuditDb → AuditDb}
    (beside : ∀ db row, db.segments.find segment_id = some row → (change db).segments.find segment_id = some row) :
    Does (SameRow store segment_id) (on.execute change) := by
  intro w
  cases answer : w.updates.headD none with
  | none =>
    rw [AuditStore.execute_granted on answer]
    intro row found
    rw [World.segment, World.db_put]
    split_ifs with same
    · subst same
      exact beside _ row found
    · exact found
  | some error =>
    rw [AuditStore.execute_refused on answer]
    exact .of_eq rfl

theorem open_at_same_row (path : FilePath) : Does (SameRow store segment_id) (AuditStore.open_at path) := by
  intro w
  rw [AuditStore.open_at]
  cases w.opens.headD none with
  | none => exact .of_eq (congrArg AuditDb.segments ((opened_alike w ⟨path⟩ w.opens.tail).db store))
  | some error => exact .of_eq rfl

theorem update_segment_same_row (on : AuditStore) {other : String} (differs : segment_id ≠ other)
    (rewrite : Segment → Segment) (keeps : ∀ s, (rewrite s).segment_id = s.segment_id) :
    Does (SameRow store segment_id) (on.update_segment other rewrite keeps) := by
  refine execute_same_row on fun db row found => ?_
  rw [Table.find_update, if_neg differs]
  exact found

theorem same_row_climbed : Climbed (SameRow store segment_id) where
  refl := .refl
  trans := .trans
  tick := now_ms_same_row
  opens := open_at_same_row

/-- A row is only inserted under a name that no row has. -/
theorem insert_segment_same_row (on : AuditStore) (segment : Segment) :
    Does (SameRow store segment_id) (on.insert_segment segment) := by
  intro w row found
  cases present : (w.db on).segments.find segment.segment_id with
  | some old =>
    have looked : on.segment segment.segment_id w = (.ok (some old), w) := by rw [AuditStore.segment, get_run, present]
    rw [AuditStore.insert_segment, bind_of_ok looked, if_pos (by simp)]
    exact found
  | none =>
    have looked : on.segment segment.segment_id w = (.ok none, w) := by rw [AuditStore.segment, get_run, present]
    rw [AuditStore.insert_segment, bind_of_ok looked, if_neg (by simp)]
    cases answer : w.updates.headD none with
    | some error =>
      rw [AuditStore.execute_refused on answer]
      exact found
    | none =>
      rw [AuditStore.execute_granted on answer, World.segment, World.db_put]
      by_cases same : store = on
      · subst same
        rw [if_pos rfl, Table.find_replace]
        by_cases name : segment_id = segment.segment_id
        · rw [World.segment, name, present] at found
          cases found
        · rw [if_neg name]
          exact found
      · rw [if_neg same]
        exact found

/-- A name given out is the name of no row. -/
theorem free_id_absent {segments : SegmentTable} {now : Int} {owner : Option String} {id : String}
    (given : AuditStore.free_id segments now owner = .ok id) : segments.find id = none := by
  have search : ∀ (left n : Nat) (id : String),
      AuditStore.first_free (fun id => (segments.find id).isSome) (AuditStore.mint now owner) left n = some id → segments.find id = none := by
    intro left
    induction left with
    | zero => simp [AuditStore.first_free]
    | succ left ih =>
      intro n id found
      rw [AuditStore.first_free] at found
      split_ifs at found with taken
      · exact ih (n + 1) id found
      · cases found
        simpa using taken
  unfold AuditStore.free_id at given
  simp only at given
  split_ifs at given with taken
  · split at given
    · next found =>
      cases given
      exact search _ _ _ found
    · cases given
  · cases given
    simpa using taken

theorem open_segment_same_row (kind : SegmentKind) (owner : Option String) :
    Does (SameRow store segment_id) (store.open_segment_inner crates kind owner) := by
  refine does_bind .trans now_ms_same_row fun now w => ?_
  -- The new segment has a name of its own, so its insert and its delete pass the row by.
  cases given : AuditStore.free_id (w.db store).segments now owner with
  | error error =>
    have run : store.free_segment_id now owner w = (.error error, w) := by
      rw [AuditStore.free_segment_id, bind_run, AuditStore.read, get_run]
      simp only [given, ofExcept_run]
    rw [bind_of_error run]
    exact .refl w
  | ok id =>
    have run : store.free_segment_id now owner w = (.ok id, w) := by
      rw [AuditStore.free_segment_id, bind_run, AuditStore.read, get_run]
      simp only [given, ofExcept_run]
    rw [bind_of_ok run]
    intro row found
    have differs : segment_id ≠ id := by
      rintro rfl
      rw [World.segment, free_id_absent given] at found
      cases found
    suffices rest : Does (SameRow store segment_id) _ from rest w row found
    refine does_bind .trans (does_get .refl _) fun head_prev_chain => ?_
    refine does_bind .trans (does_get .refl _) fun head_prev_length => ?_
    refine does_bind .trans (insert_segment_same_row store _) fun _ => ?_
    refine does_bind .trans now_ms_same_row fun stamp => ?_
    refine does_bind .trans (does_attempt (append_same_row store _)) fun result => ?_
    cases result with
    | ok stored => exact does_pure .refl _
    | error error =>
      refine does_bind .trans (execute_same_row store fun db row found => ?_) fun _ => does_fail .refl _
      rw [Table.find_delete, if_neg differs]
      exact found

theorem adopt_segment_same_row (other : String) (head_prev_chain : Option String) (head_prev_length : Option Int) :
    Does (SameRow store segment_id) (store.adopt_segment other head_prev_chain head_prev_length) :=
  same_row_climbed.adopt_segment store other _ _ fun segment _ => insert_segment_same_row store segment

theorem close_segment_same_row {other : String} (differs : segment_id ≠ other) :
    Does (SameRow store segment_id) (store.close_segment crates other) :=
  same_row_climbed.close_segment store other (fun _ _ _ => update_segment_same_row store differs _ _)
    fun _ _ => append_same_row store _

theorem fork_segment_same_row {segment : Segment} (differs : segment_id ≠ segment.segment_id) (conflict : Conflict) :
    Does (SameRow store segment_id) (store.fork_segment crates segment conflict) :=
  same_row_climbed.fork_segment store segment conflict (fun _ _ => append_same_row store _)
    (update_segment_same_row store differs _ _)

theorem fold_segment_same_row {segment : Segment} (differs : segment_id ≠ segment.segment_id)
    (events : List StoredEvent) : Does (SameRow store segment_id) (store.fold_segment crates segment events) :=
  same_row_climbed.fold_segment store segment (fun _ _ => append_same_row store _)
    (fun _ => update_segment_same_row store differs _ _) (fun _ _ _ => append_same_row store _)
    fun _ => update_segment_same_row store differs _ _

theorem merge_segment_same_row {audit_dir : FilePath} {other : String} (differs : segment_id ≠ other) :
    Does (SameRow store segment_id) (store.merge_segment crates audit_dir other) := by
  intro w
  obtain ⟨seen, alike, run⟩ := store.merge_segment_run crates audit_dir other w
  have read : SameRow store segment_id w seen := .of_eq (congrArg AuditDb.segments (alike.db store))
  rw [run]
  cases planned : merge_plan crates store audit_dir other w with
  | error error => exact read
  | ok plan =>
    obtain ⟨segment, events, conflict⟩ := plan
    have name : segment.segment_id = other := admitted_name (merge_plan_ok crates planned).1
    rw [← name] at differs
    cases conflict with
    | some conflict => exact read.trans (fork_segment_same_row differs conflict seen)
    | none => exact read.trans (fold_segment_same_row differs events seen)

end SameRow

/-- A merge that its checks refuse leaves every table as it is. -/
theorem merge_refused_unchanged (crates : Crates) {store : AuditStore} {audit_dir : FilePath} {segment_id : String}
    {w : World} {error : AuditError} (refused : merge_plan crates store audit_dir segment_id w = .error error) :
    ∃ after, store.merge_segment crates audit_dir segment_id w = (.error error, after) ∧
      ∀ other, after.db other = w.db other := by
  obtain ⟨seen, alike, run⟩ := store.merge_segment_run crates audit_dir segment_id w
  rw [refused] at run
  exact ⟨seen, run, alike.db⟩

/-- What a close makes of a row: where it is in its life may change, the rest of it stays. -/
def Closing (before after : Segment) : Prop :=
  after = { before with state := after.state, closed_at_ms := after.closed_at_ms } ∧
    (after.state = before.state ∨ after.state = .Closed ∨ after.state = .Open)

/-- The row of a segment is one that closes made of the row before. -/
def ClosedRow (store : AuditStore) (segment_id : String) (v w : World) : Prop :=
  ∀ row, v.segment store segment_id = some row → ∃ after, w.segment store segment_id = some after ∧ Closing row after

section ClosedRow
variable {crates : Crates} {store : AuditStore} {segment_id : String}

theorem SameRow.closed {v w : World} (same : SameRow store segment_id v w) : ClosedRow store segment_id v w :=
  fun row found => ⟨row, same row found, rfl, .inl rfl⟩

theorem ClosedRow.refl (w : World) : ClosedRow store segment_id w w := (SameRow.refl w).closed

theorem ClosedRow.trans {u v w : World} (first : ClosedRow store segment_id u v) (second : ClosedRow store segment_id v w) :
    ClosedRow store segment_id u w := by
  intro row found
  obtain ⟨middle, here, made, life⟩ := first row found
  obtain ⟨after, there, remade, later⟩ := second middle here
  refine ⟨after, there, ?_, ?_⟩
  · rw [remade, made]
  · rcases later with same | moved
    · rw [same]
      exact life
    · exact .inr moved

theorem set_segment_state_closed {state : SegmentState} (life : state = .Closed ∨ state = .Open) (closed_at_ms : Option Int) :
    Does (ClosedRow store segment_id) (store.set_segment_state segment_id state closed_at_ms) := by
  intro w
  cases answer : w.updates.headD none with
  | some error =>
    rw [AuditStore.set_segment_state, AuditStore.update_segment_refused store answer]
    exact (SameRow.of_eq rfl).closed
  | none =>
    rw [AuditStore.set_segment_state, AuditStore.update_segment_granted store answer]
    intro row found
    refine ⟨{ row with state, closed_at_ms }, ?_, rfl, .inr life⟩
    rw [World.segment] at found
    rw [World.segment, World.db_put_self, Table.find_update, if_pos rfl, found]
    rfl

theorem closed_row_climbed : Climbed (ClosedRow store segment_id) where
  refl := .refl
  trans := .trans
  tick w := (now_ms_same_row w).closed
  opens path w := (open_at_same_row path w).closed

/-- A close rewrites where its segment is in its life, and nothing else of its row. -/
theorem close_segment_closed (other : String) : Does (ClosedRow store segment_id) (store.close_segment crates other) := by
  by_cases same : segment_id = other
  · subst same
    refine closed_row_climbed.close_segment store segment_id ?_ ?_
    · intro state closed_at_ms life
      exact set_segment_state_closed life closed_at_ms
    · intro now closed_at_ms w
      exact (append_same_row store _ w).closed
  · exact fun w => (close_segment_same_row same w).closed

end ClosedRow

end Riscdom.Audit
