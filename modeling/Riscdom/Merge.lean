import Riscdom.MergeSteps

/-!
The outcome law of a merge: what each of its three outcomes says about the main
chain, the segment row and the segment's own file, and exactly when it holds.
-/
namespace Riscdom.Audit
open Riscdom.Json Riscdom.HashChain Riscdom.KeyedTable Fallible.Act Riscdom.Machine
variable (crates : Crates)

/-- The store of a segment's own file. -/
def segment_file (audit_dir : FilePath) (segment_id : String) : AuditStore := ⟨segment_db_path_in audit_dir segment_id⟩

/-- What a merge read: the segment's row, its events, and the conflict met, if one was. -/
structure Plan where
  segment : Segment
  events : List StoredEvent
  conflict : Option Conflict

/-- The checks of a merge before it writes, in the state it starts from. -/
def merge_plan (store : AuditStore) (audit_dir : FilePath) (segment_id : String) (w : World) : Except AuditError Plan :=
  match mergeable crates (w.db store) segment_id with
  | .error error => .error error
  | .ok segment =>
    match w.opens.headD none with
    | some error => .error error
    | none =>
      match (w.rows (segment_file audit_dir segment_id)).mapM (RawRow.into_stored crates) with
      | .error error => .error error
      | .ok events =>
        match first_conflict crates (w.rows store) events with
        | .error error => .error error
        | .ok conflict => .ok ⟨segment, events, conflict⟩

/-- Two worlds that hold the same databases and answer the next writes alike. -/
structure World.Alike (v w : World) : Prop where
  db : ∀ store, w.db store = v.db store
  appends : w.appends = v.appends
  updates : w.updates = v.updates
  clock : w.clock = v.clock

theorem opened_alike (w : World) (file : AuditStore) (opens : List (Option AuditError)) :
    w.Alike ({ w with opens }.put file (w.db file)) := by
  refine ⟨?_, rfl, rfl, rfl⟩
  intro store
  rw [World.db_put]
  split_ifs with same
  · rw [same]
  · rfl

namespace AuditStore
variable (store : AuditStore) (audit_dir : FilePath) (segment_id : String)

/-- A merge reads without writing; then its checks refuse it, or it goes on with one of its two ends. -/
theorem merge_segment_run (w : World) : ∃ seen, w.Alike seen ∧
    store.merge_segment crates audit_dir segment_id w =
      match merge_plan crates store audit_dir segment_id w with
      | .error error => (.error error, seen)
      | .ok ⟨segment, _, some conflict⟩ => store.fork_segment crates segment conflict seen
      | .ok ⟨segment, events, none⟩ => store.fold_segment crates segment events seen := by
  have unread : w.Alike w := ⟨fun _ => rfl, rfl, rfl, rfl⟩
  have start : store.read w = (.ok (w.db store), w) := rfl
  rw [merge_segment, bind_of_ok start, merge_plan]
  cases mergeable crates (w.db store) segment_id with
  | error error => exact ⟨w, unread, rfl⟩
  | ok segment =>
    have admitted : (ofExcept (.ok segment) : Act Segment) w = (.ok segment, w) := rfl
    rw [bind_of_ok admitted]
    cases answer : w.opens.headD none with
    | some error =>
      refine ⟨{ w with opens := w.opens.tail }, ⟨fun _ => rfl, rfl, rfl, rfl⟩, bind_of_error ?_⟩
      rw [open_segment_store, open_at, answer]
    | none =>
      let file := segment_file audit_dir segment_id
      let seen : World := { w with opens := w.opens.tail }.put file (w.db file)
      have alike : w.Alike seen := opened_alike w file w.opens.tail
      have opened : open_segment_store audit_dir segment_id w = (.ok file, seen) := by
        rw [open_segment_store, open_at, answer]
        rfl
      have all_read : file.all crates seen = ((w.rows file).mapM (RawRow.into_stored crates), seen) := by
        have rows : seen.rows file = w.rows file := congrArg (fun db => db.audit_events.rows) (alike.db file)
        rw [all, bind_run, scan, get_run, rows]
        rfl
      rw [bind_of_ok opened, bind_run, all_read]
      refine ⟨seen, alike, ?_⟩
      cases (w.rows file).mapM (RawRow.into_stored crates) with
      | error error => rfl
      | ok events =>
        have rows : seen.rows store = w.rows store := congrArg (fun db => db.audit_events.rows) (alike.db store)
        have scanned : store.scan seen = (.ok (w.rows store), seen) := by rw [scan, get_run, rows]
        simp only
        rw [bind_of_ok scanned, bind_run, ofExcept_run]
        cases first_conflict crates (w.rows store) events with
        | error error => rfl
        | ok conflict => cases conflict <;> rfl

end AuditStore

theorem merge_plan_ok {store : AuditStore} {audit_dir : FilePath} {segment_id : String} {w : World} {plan : Plan}
    (planned : merge_plan crates store audit_dir segment_id w = .ok plan) :
    mergeable crates (w.db store) segment_id = .ok plan.segment ∧
      (w.rows (segment_file audit_dir segment_id)).mapM (RawRow.into_stored crates) = .ok plan.events ∧
      first_conflict crates (w.rows store) plan.events = .ok plan.conflict := by
  unfold merge_plan at planned
  cases admitted : mergeable crates (w.db store) segment_id with
  | error error =>
    rw [admitted] at planned
    cases planned
  | ok segment =>
    rw [admitted] at planned
    simp only at planned
    cases answer : w.opens.headD none with
    | some error =>
      rw [answer] at planned
      cases planned
    | none =>
      rw [answer] at planned
      simp only at planned
      cases decoded : (w.rows (segment_file audit_dir segment_id)).mapM (RawRow.into_stored crates) with
      | error error =>
        rw [decoded] at planned
        cases planned
      | ok events =>
        rw [decoded] at planned
        simp only at planned
        cases checked : first_conflict crates (w.rows store) events with
        | error error =>
          rw [checked] at planned
          cases planned
        | ok conflict =>
          rw [checked] at planned
          cases planned
          exact ⟨rfl, rfl, checked⟩

/-! ### The outcomes -/

/-- The row of a segment was rewritten, and no other row of the segment table. -/
def Rewritten (before after : SegmentTable) (segment_id : String) (rewrite : Segment → Segment) : Prop :=
  ∃ old, before.find segment_id = some old ∧
    ∀ other, after.find other = if other = segment_id then some (rewrite old) else before.find other

/-- The segment's events were transcribed in order, none of them held before, and one marker after them. -/
def FoldedLaw (store file : AuditStore) (segment_id : String) (before after : World) (merged : Nat) : Prop :=
  ∃ (events : List StoredEvent) (transcribed : List RawRow) (marker : RawRow),
    (before.rows file).mapM (RawRow.into_stored crates) = .ok events ∧ merged = events.length ∧
    after.rows store = before.rows store ++ (transcribed ++ [marker]) ∧
    List.Forall₂ (Records crates) (events.map outgoing) transcribed ∧
    (∀ event ∈ events, ∀ row ∈ before.rows store, ¬ Holds crates row event) ∧
    marker.actor = "host" ∧ marker.action = ACTION_SEGMENT_MERGED ∧
    (∃ merged_at_ms, marker.detail_json =
      crates.json.to_string (segment_merged_detail segment_id .Temporary merged_at_ms merged)) ∧
    Rewritten (before.db store).segments (after.db store).segments segment_id
      fun old => { old with state := .Folded, head_hash := some marker.hash }

/-- One marker was appended, which names the first event that the chain held and the first row that holds it. -/
def ForkedLaw (store file : AuditStore) (segment_id : String) (before after : World) (reason : String) : Prop :=
  ∃ (earlier : List StoredEvent) (event : StoredEvent) (later : List StoredEvent) (held : List RawRow) (row : RawRow)
      (others : List RawRow) (marker : RawRow),
    (before.rows file).mapM (RawRow.into_stored crates) = .ok (earlier ++ event :: later) ∧
    before.rows store = held ++ row :: others ∧ Holds crates row event ∧ (∀ r ∈ held, ¬ Holds crates r event) ∧
    (∀ e ∈ earlier, ∀ r ∈ before.rows store, ¬ Holds crates r e) ∧
    reason = conflict_reason ⟨event.event.actor, event.event.action, row.id⟩ ∧
    after.rows store = before.rows store ++ [marker] ∧
    marker.actor = "host" ∧ marker.action = ACTION_SEGMENT_FORKED ∧
    (∃ forked_at_ms, marker.detail_json =
      crates.json.to_string (segment_forked_detail segment_id .Temporary forked_at_ms reason (some row.id))) ∧
    Rewritten (before.db store).segments (after.db store).segments segment_id
      fun old => { old with state := .Forked, note := some reason }

/-- The outcome law: what the result of a merge says, the segment's own file unchanged, the chain verified. -/
def OutcomeLaw (store : AuditStore) (audit_dir : FilePath) (segment_id : String) (w : World) : Prop :=
  let file := segment_file audit_dir segment_id
  let (result, after) := store.merge_segment crates audit_dir segment_id w
  (match result with
    | .ok (.Folded merged) => FoldedLaw crates store file segment_id w after merged
    | .ok (.Forked reason) => ForkedLaw crates store file segment_id w after reason
    | .error _ => after.rows store = w.rows store ∧ (after.db store).segments = (w.db store).segments) ∧
  after.db file = w.db file ∧
  verify_rows crates (after.rows store) = .Intact (after.rows store).length

/-- Every append to come succeeds within its attempts. -/
def World.Granting (w : World) : Prop := Unrefused w.appends

/-! ### The two ends under granted appends -/

section Granted
variable {crates} {store : AuditStore} {audit_dir : FilePath} {segment_id : String} {w : World}
  {segment : Segment} {events : List StoredEvent}

theorem Rewritten.of_update {before : SegmentTable} {old : Segment} (found : before.find segment_id = some old)
    (rewrite : Segment → Segment) (keeps : ∀ s, (rewrite s).segment_id = s.segment_id) :
    Rewritten before (before.update segment_id rewrite keeps) segment_id rewrite := by
  refine ⟨old, found, ?_⟩
  intro other
  rw [Table.find_update]
  split_ifs with here
  · rw [here, found]
    rfl
  · rfl

/-- The row a merge is for stands under the name the merge was called with. -/
theorem admitted_name (admitted : mergeable crates (w.db store) segment_id = .ok segment) : segment.segment_id = segment_id :=
  Table.key_of_find (mergeable_ok crates admitted).1

theorem merge_forked {conflict : Conflict}
    (planned : merge_plan crates store audit_dir segment_id w = .ok ⟨segment, events, some conflict⟩)
    (granting : w.Granting) (updates : w.updates.headD none = none) :
    ∃ after, store.merge_segment crates audit_dir segment_id w = (.ok (.Forked (conflict_reason conflict)), after) ∧
      ∀ other, after.db other = if other = store then
        { w.db store with
          audit_events := ((w.db store).audit_events.append crates (forked_event segment conflict w.clock)).2
          segments := (w.db store).segments.update segment.segment_id
            (fun s => { s with state := .Forked, note := some (conflict_reason conflict) }) fun _ => rfl }
        else w.db other := by
  obtain ⟨seen, alike, run⟩ := store.merge_segment_run crates audit_dir segment_id w
  rw [planned] at run
  have granted : seen.append_error = none := by
    rw [World.append_error, alike.appends]
    exact granting.one.1
  obtain ⟨after, forked, held⟩ := store.fork_segment_marked crates segment conflict granted (by rw [alike.updates, updates])
  refine ⟨after, run.trans forked, ?_⟩
  intro other
  rw [held other, alike.db, alike.db, alike.clock]

theorem merge_fork_unmarked {conflict : Conflict} {error : AuditError}
    (planned : merge_plan crates store audit_dir segment_id w = .ok ⟨segment, events, some conflict⟩)
    (granting : w.Granting) (updates : w.updates.headD none = some error) :
    ∃ after row, store.merge_segment crates audit_dir segment_id w = (.error error, after) ∧
      after.rows store = w.rows store ++ [row] := by
  obtain ⟨seen, alike, run⟩ := store.merge_segment_run crates audit_dir segment_id w
  rw [planned] at run
  have granted : seen.append_error = none := by
    rw [World.append_error, alike.appends]
    exact granting.one.1
  have forked := store.fork_segment_unmarked crates segment conflict granted (by rw [alike.updates, updates])
  refine ⟨_, (w.db store).audit_events.row_of crates (forked_event segment conflict w.clock), run.trans forked, ?_⟩
  simp only [World.rows, updated_db, World.appended, World.db_put_self, EventTable.append_rows, World.append_spent_db,
    ticked_db, alike.db, alike.clock]

theorem merge_folded (planned : merge_plan crates store audit_dir segment_id w = .ok ⟨segment, events, none⟩)
    (granting : w.Granting) (updates : w.updates.headD none = none) :
    ∃ after, store.merge_segment crates audit_dir segment_id w = (.ok (.Folded events.length), after) ∧
      after.updates = w.updates.tail ∧ ∀ other, after.db other = if other = store then
        let audit_events := (w.db store).audit_events.append_all crates
          (events.map outgoing ++ [merged_event segment events.length w.clock])
        { w.db store with
          audit_events
          segments := (w.db store).segments.update segment.segment_id
            (fun s => { s with state := .Folded, head_hash := audit_events.last_hash }) fun _ => rfl }
        else w.db other := by
  obtain ⟨seen, alike, run⟩ := store.merge_segment_run crates audit_dir segment_id w
  rw [planned] at run
  obtain ⟨granted, left⟩ := Unrefused.several granting events.length
  rw [← alike.appends] at granted left
  have merged : (store.transcribed crates events seen).append_error = none := by
    simp only [World.append_error, AuditStore.transcribed, World.appended_all_appends]
    exact left.one.1
  obtain ⟨after, folded, spent, held⟩ := store.fold_segment_marked crates segment events granted merged
    (by rw [alike.updates, updates])
  refine ⟨after, run.trans folded, by rw [spent, alike.updates], ?_⟩
  intro other
  rw [held other, alike.db, alike.db, alike.clock]

theorem merge_fold_unmarked {error : AuditError}
    (planned : merge_plan crates store audit_dir segment_id w = .ok ⟨segment, events, none⟩)
    (granting : w.Granting) (updates : w.updates.headD none = some error) :
    ∃ after more row, store.merge_segment crates audit_dir segment_id w = (.error error, after) ∧
      after.rows store = w.rows store ++ more ++ [row] := by
  obtain ⟨seen, alike, run⟩ := store.merge_segment_run crates audit_dir segment_id w
  rw [planned] at run
  obtain ⟨granted, left⟩ := Unrefused.several granting events.length
  rw [← alike.appends] at granted left
  have merged : (store.transcribed crates events seen).append_error = none := by
    simp only [World.append_error, AuditStore.transcribed, World.appended_all_appends]
    exact left.one.1
  have folded := store.fold_segment_unmarked crates segment events granted merged (by rw [alike.updates, updates])
  obtain ⟨more, grown, _⟩ := append_all_rows crates (w.db store).audit_events (events.map outgoing)
  refine ⟨_, more, ((w.db store).audit_events.append_all crates (events.map outgoing)).row_of crates
    (merged_event segment events.length w.clock), run.trans folded, ?_⟩
  simp only [World.rows, updated_db, World.appended, World.db_put_self, EventTable.append_rows, World.append_spent_db,
    ticked_db, AuditStore.transcribed_db, if_true, alike.db, alike.clock, grown]

end Granted

/-! ### When the law holds -/

section Law
variable {crates} {store : AuditStore} {audit_dir : FilePath} {segment_id : String} {w : World}

/-- A merge that goes on writes to the chain. -/
theorem merge_planned_writes {plan : Plan} (planned : merge_plan crates store audit_dir segment_id w = .ok plan)
    (granting : w.Granting) :
    (w.rows store).length < ((store.merge_segment crates audit_dir segment_id w).2.rows store).length := by
  obtain ⟨segment, events, conflict⟩ := plan
  cases updates : w.updates.headD none with
  | none =>
    cases conflict with
    | some conflict =>
      obtain ⟨after, run, held⟩ := merge_forked planned granting updates
      rw [run, World.rows, World.rows, held store, if_pos rfl, EventTable.append_rows, List.length_append]
      exact Nat.lt_succ_self _
    | none =>
      obtain ⟨after, run, _, held⟩ := merge_folded planned granting updates
      obtain ⟨more, grown, _⟩ := append_all_rows crates (w.db store).audit_events (events.map outgoing)
      rw [run, World.rows, World.rows, held store, if_pos rfl]
      simp only [append_all_append, append_all_cons, append_all_nil, EventTable.append_rows, grown, List.length_append,
        List.length_singleton]
      omega
  | some error =>
    cases conflict with
    | some conflict =>
      obtain ⟨after, row, run, rows⟩ := merge_fork_unmarked planned granting updates
      rw [run, rows, List.length_append]
      exact Nat.lt_succ_self _
    | none =>
      obtain ⟨after, more, row, run, rows⟩ := merge_fold_unmarked planned granting updates
      simp only [run, rows, List.length_append, List.length_singleton]
      omega

theorem forked_law {segment : Segment} {events : List StoredEvent} {conflict : Conflict}
    (planned : merge_plan crates store audit_dir segment_id w = .ok ⟨segment, events, some conflict⟩)
    {after : World}
    (held : after.db store = { w.db store with
      audit_events := ((w.db store).audit_events.append crates (forked_event segment conflict w.clock)).2
      segments := (w.db store).segments.update segment.segment_id
        (fun s => { s with state := .Forked, note := some (conflict_reason conflict) }) fun _ => rfl }) :
    ForkedLaw crates store (segment_file audit_dir segment_id) segment_id w after (conflict_reason conflict) := by
  obtain ⟨admitted, decoded, checked⟩ := merge_plan_ok crates planned
  obtain ⟨found, kind, _⟩ := mergeable_ok crates admitted
  obtain rfl := admitted_name admitted
  obtain ⟨earlier, event, later, before, row, others, rfl, split, rfl, holds, first, none⟩ :=
    first_conflict_some crates checked
  let marker := (w.db store).audit_events.row_of crates
    (forked_event segment ⟨event.event.actor, event.event.action, row.id⟩ w.clock)
  refine ⟨earlier, event, later, before, row, others, marker, decoded, split, holds, first, none, rfl, ?_, rfl, rfl, ?_,
    ?_⟩
  · rw [World.rows, held]
    rfl
  · refine ⟨w.clock.headD 0, ?_⟩
    rw [← kind]
    rfl
  · rw [held]
    exact .of_update found _ (by intro _; rfl)

theorem folded_law {segment : Segment} {events : List StoredEvent}
    (planned : merge_plan crates store audit_dir segment_id w = .ok ⟨segment, events, none⟩) {after : World}
    (held : after.db store =
      let audit_events := (w.db store).audit_events.append_all crates
        (events.map outgoing ++ [merged_event segment events.length w.clock])
      { w.db store with
        audit_events
        segments := (w.db store).segments.update segment.segment_id
          (fun s => { s with state := .Folded, head_hash := audit_events.last_hash }) fun _ => rfl }) :
    FoldedLaw crates store (segment_file audit_dir segment_id) segment_id w after events.length := by
  obtain ⟨admitted, decoded, checked⟩ := merge_plan_ok crates planned
  obtain ⟨found, kind, _⟩ := mergeable_ok crates admitted
  obtain rfl := admitted_name admitted
  obtain ⟨rows, grown, recorded⟩ := append_all_rows crates (w.db store).audit_events (events.map outgoing)
  let marker := ((w.db store).audit_events.append_all crates (events.map outgoing)).row_of crates
    (merged_event segment events.length w.clock)
  have whole : ((w.db store).audit_events.append_all crates
      (events.map outgoing ++ [merged_event segment events.length w.clock])).rows =
        (w.db store).audit_events.rows ++ (rows ++ [marker]) := by
    rw [append_all_append, append_all_cons, append_all_nil, EventTable.append_rows, grown, List.append_assoc]
  refine ⟨events, rows, marker, decoded, rfl, ?_, recorded, first_conflict_none crates checked, rfl, rfl, ?_, ?_⟩
  · rw [World.rows, held]
    exact whole
  · refine ⟨w.clock.headD 0, ?_⟩
    rw [← kind]
    rfl
  · have last : ((w.db store).audit_events.append_all crates
        (events.map outgoing ++ [merged_event segment events.length w.clock])).last_hash = some marker.hash := by
      rw [EventTable.last_hash, whole, ← List.append_assoc, List.getLast?_concat]
      rfl
    rw [held]
    simp only [last]
    exact .of_update found _ (by intro _; rfl)

/-- A merge that goes on breaks the law where the segment's file is the store's own. -/
theorem outcome_law_apart {plan : Plan} (planned : merge_plan crates store audit_dir segment_id w = .ok plan)
    (granting : w.Granting) (law : OutcomeLaw crates store audit_dir segment_id w) :
    segment_db_path_in audit_dir segment_id ≠ store.path := by
  intro same
  have writes := merge_planned_writes planned granting
  have file : segment_file audit_dir segment_id = store := by rw [segment_file, same]
  have unchanged : (store.merge_segment crates audit_dir segment_id w).2.db (segment_file audit_dir segment_id) =
      w.db (segment_file audit_dir segment_id) := law.2.1
  rw [file] at unchanged
  rw [World.rows, World.rows, unchanged] at writes
  exact lt_irrefl _ writes

/-- A merge that goes on breaks the law where its row update fails. -/
theorem outcome_law_marked {plan : Plan} (planned : merge_plan crates store audit_dir segment_id w = .ok plan)
    (granting : w.Granting) (law : OutcomeLaw crates store audit_dir segment_id w) : w.updates.headD none = none := by
  have writes := merge_planned_writes planned granting
  obtain ⟨segment, events, conflict⟩ := plan
  cases updates : w.updates.headD none with
  | none => rfl
  | some error =>
    exfalso
    cases conflict with
    | some conflict =>
      obtain ⟨after, row, merged, _⟩ := merge_fork_unmarked planned granting updates
      simp only [OutcomeLaw, merged] at law
      rw [merged, law.1.1] at writes
      exact lt_irrefl _ writes
    | none =>
      obtain ⟨after, more, row, merged, _⟩ := merge_fold_unmarked planned granting updates
      simp only [OutcomeLaw, merged] at law
      rw [merged, law.1.1] at writes
      exact lt_irrefl _ writes

/-- In every state a store reaches, with the appends of the merge granted, the law holds exactly when the merge is
    refused by its checks, or its segment's file is another than the store's own and the row update succeeds. -/
theorem merge_outcome_law (crates : Crates) (store : AuditStore) (start : World) (new : start.disk store.path = none)
    (ops : List Op) (audit_dir : FilePath) (segment_id : String) (granting : (reached crates store start ops).Granting) :
    OutcomeLaw crates store audit_dir segment_id (reached crates store start ops) ↔
      (∃ error, merge_plan crates store audit_dir segment_id (reached crates store start ops) = .error error) ∨
      (segment_db_path_in audit_dir segment_id ≠ store.path ∧
        (reached crates store start ops).updates.headD none = none) := by
  have chained : Chained crates ((reached crates store start ops).rows store) := reached_chained crates new ops
  generalize reached crates store start ops = w at granting chained ⊢
  have verified : verify_rows crates ((store.merge_segment crates audit_dir segment_id w).2.rows store) =
      .Intact ((store.merge_segment crates audit_dir segment_id w).2.rows store).length :=
    verify_rows_intact crates ((merge_segment_grows store audit_dir segment_id (fun _ : AuditEvent => trivial) w).chained chained)
  cases planned : merge_plan crates store audit_dir segment_id w with
  | error error =>
    refine ⟨fun _ => .inl ⟨error, rfl⟩, fun _ => ?_⟩
    obtain ⟨seen, alike, merged⟩ := store.merge_segment_run crates audit_dir segment_id w
    rw [planned] at merged
    rw [merged] at verified
    simp only [OutcomeLaw, merged]
    exact ⟨⟨congrArg (fun db => db.audit_events.rows) (alike.db store), congrArg AuditDb.segments (alike.db store)⟩,
      alike.db _, verified⟩
  | ok plan =>
    constructor
    · intro law
      exact .inr ⟨outcome_law_apart planned granting law, outcome_law_marked planned granting law⟩
    · rintro (⟨error, refused⟩ | ⟨apart, updates⟩)
      · cases refused
      · have other : segment_file audit_dir segment_id ≠ store := by
          rintro rfl
          exact apart rfl
        obtain ⟨segment, events, conflict⟩ := plan
        cases conflict with
        | some conflict =>
          obtain ⟨after, merged, held⟩ := merge_forked planned granting updates
          rw [merged] at verified
          simp only [OutcomeLaw, merged]
          refine ⟨forked_law planned (by rw [held store, if_pos rfl]), ?_, verified⟩
          rw [held, if_neg other]
        | none =>
          obtain ⟨after, merged, _, held⟩ := merge_folded planned granting updates
          rw [merged] at verified
          simp only [OutcomeLaw, merged]
          refine ⟨folded_law planned (by rw [held store, if_pos rfl]), ?_, verified⟩
          rw [held, if_neg other]

end Law

/-! ### At concrete segments -/

/-- An event written under a stand-in. -/
def provisional_event : AuditEvent :=
  { timestamp_ms := 5, actor := "agent", action := "llm.request", agent_id := none,
    detail := json [("n", .integer 1), ("provisional", .bool true)] }

/-- SHA-256 on the texts of the segment's row, of its transcription and of the marker after it. -/
def provisional_crates : Crates where
  sha256_hex := digest_of
    [(GENESIS_PREV_HASH ++ "|5|agent|llm.request|\x7b\"n\":1,\"provisional\":true\x7d",
        "719df24020d8c99605b39b71c75f8d42a1e882e7e5f3b986224c50149de4055b"),
      (GENESIS_PREV_HASH ++ "|5|agent|llm.request|\x7b\"n\":1\x7d",
        "7a9c1f67235bc73d728aef23af2e65c983cfc3c19259c916237bf0127df5a4ed"),
      ("7a9c1f67235bc73d728aef23af2e65c983cfc3c19259c916237bf0127df5a4ed" ++
        "|8|host|host.audit.segment_merged|\x7b\"event_count\":1,\"kind\":\"temporary\",\"merged_at_ms\":7,\"segment_id\":\"seg-7\"\x7d",
        "f29fcaa896250d2ca8f1c8e0c079a57d68d89c70afbfa5e48b0ef593ced7360e")]
  json := compact

/-- A world with no store at a path, and a delivered segment of one event beside it. -/
def delivered_world : World where
  disk := Function.update (fun _ => none) ["data", "audit-segments", "seg-7.db"]
    (some { AuditDb.empty with audit_events := (EventTable.empty.append provisional_crates provisional_event).2 })
  clock := [7, 8]
  appends := []
  updates := []
  opens := []

theorem adopted_segment_world (crates : Crates) (store : AuditStore) {w : World} (segment_id : String)
    (absent : (w.db store).segments.find segment_id = none) (granted : w.updates = []) :
    reached crates store w [.adopt_segment segment_id none none] =
      w.put store { w.db store with
        segments := (w.db store).segments.replace {
          segment_id, kind := .Temporary, head_hash := none, head_prev_chain := none, head_prev_length := none,
          opened_at_ms := none, closed_at_ms := none, state := .Closed, note := some "adopted from another node" } } := by
  obtain ⟨disk, clock, appends, updates, opens⟩ := w
  cases granted
  rw [reached, run_cons, run_nil, operate, AuditStore.adopt_segment_absent store absent rfl]
  rfl

theorem delivered_segment_law :
    OutcomeLaw provisional_crates ⟨["data", "audit.db"]⟩ ["data"] "seg-7"
      (reached provisional_crates ⟨["data", "audit.db"]⟩ delivered_world [.adopt_segment "seg-7" none none]) := by
  have new : delivered_world.disk ["data", "audit.db"] = none := by simp [delivered_world]
  have absent : (delivered_world.db ⟨["data", "audit.db"]⟩).segments.find "seg-7" = none := by
    rw [World.db, new]
    rfl
  have world := adopted_segment_world provisional_crates ⟨["data", "audit.db"]⟩ "seg-7" absent rfl
  have granting : (reached provisional_crates ⟨["data", "audit.db"]⟩ delivered_world
      [.adopt_segment "seg-7" none none]).Granting := by
    rw [world, World.Granting, World.put_appends]
    exact unrefused_of_granted (by simp [delivered_world])
  have updates : (reached provisional_crates ⟨["data", "audit.db"]⟩ delivered_world
      [.adopt_segment "seg-7" none none]).updates.headD none = none := by
    rw [world, World.put_updates]
    rfl
  have apart : segment_db_path_in ["data"] "seg-7" ≠ ["data", "audit.db"] := by decide
  rw [merge_outcome_law provisional_crates ⟨["data", "audit.db"]⟩ delivered_world new
    [.adopt_segment "seg-7" none none] ["data"] "seg-7" granting]
  exact .inr ⟨apart, updates⟩

/-- An adopted segment may bear a name that leads back to the store's own file, and its merge then writes to the
    segment's file, though every write succeeds. -/
theorem steered_segment_breaks_law : ¬ ∃ crates : Crates, ∀ (store : AuditStore) (start : World),
    start.disk store.path = none → ∀ (ops : List Op) (audit_dir : FilePath) (segment_id : String),
      (reached crates store start ops).Granting → (reached crates store start ops).updates = [] →
      OutcomeLaw crates store audit_dir segment_id (reached crates store start ops) := by
  rintro ⟨crates, law⟩
  let store : AuditStore := ⟨["data", "audit.db"]⟩
  let start : World := ⟨fun _ => none, [], [], [], []⟩
  have world := adopted_segment_world crates store (w := start) "../audit" rfl rfl
  have holds := law store start rfl [.adopt_segment "../audit" none none] ["data"] "../audit"
  generalize reached crates store start [.adopt_segment "../audit" none none] = steered_world at world holds
  have granting : steered_world.Granting := by
    rw [world, World.Granting, World.put_appends]
    exact unrefused_of_granted (by simp [start])
  have updates : steered_world.updates = [] := by
    rw [world, World.put_updates]
  have steered : segment_db_path_in ["data"] "../audit" = store.path := by decide
  have file : segment_file ["data"] "../audit" = store := by rw [segment_file, steered]
  have planned : ∃ plan, merge_plan crates store ["data"] "../audit" steered_world = .ok plan := by
    have noted : partial_merge_recorded "adopted from another node" = false := by decide +kernel
    rw [world]
    unfold merge_plan mergeable
    rw [file, World.rows, World.db_put_self]
    have nothing : (start.db store).audit_events.rows = [] := rfl
    have unmerged : merged_already crates "../audit" [] = .ok false := rfl
    simp only [Table.find_replace, if_true, nothing, unmerged, noted]
    exact ⟨_, rfl⟩
  obtain ⟨plan, planned⟩ := planned
  exact outcome_law_apart planned granting (holds granting updates) steered

end Riscdom.Audit
