import Riscdom.RunIndex
import Riscdom.SegmentLife

/-!
The run index against the chain: what each operation of a host appends and
writes beside it, and that the index agrees with the chain along every run whose
merges bring no news of a run and whose ends are first ends.
-/
namespace Riscdom.Audit
open Riscdom.Json Riscdom.KeyedTable Fallible.Act Riscdom.Machine

/-- The chain can be read, and the index holds under each id the row that the chain tells. -/
def Agrees (crates : Crates) (store : AuditStore) (w : World) : Prop :=
  ∃ events, (w.rows store).mapM (RawRow.into_stored crates) = .ok events ∧
    ∀ run_id, (w.db store).runs.find run_id = (derived events).find run_id

section
variable {crates : Crates} {store : AuditStore}

/-! ### The check -/

theorem find_in_order (table : RunTable) (run_id : String) :
    (table.rows.mergeSort fun r s => decide (r.start_seq ≤ s.start_seq)).find? (·.run_id == run_id) = table.find run_id := by
  have perm := List.mergeSort_perm table.rows fun r s => decide (r.start_seq ≤ s.start_seq)
  let sorted : RunTable := ⟨_, (perm.map RunRecord.run_id).nodup_iff.mpr table.distinct⟩
  change sorted.find run_id = table.find run_id
  cases found : table.find run_id with
  | none =>
    rw [Table.find_eq_none] at found ⊢
    intro row inside
    exact found row (perm.mem_iff.mp inside)
  | some row =>
    rw [Table.find_eq_some] at found ⊢
    exact ⟨perm.mem_iff.mpr found.1, found.2⟩

/-- The check has no findings on an index that agrees with its chain. -/
theorem agrees_checked {w : World} (agrees : Agrees crates store w) (debug : RunRecord → String) :
    (store.check_run_index crates debug w).1 = .ok [] := by
  obtain ⟨events, decoded, same⟩ := agrees
  have told : store.derive_runs crates w = (.ok (derive_runs_from events), w) := by
    rw [AuditStore.derive_runs, AuditStore.all, bind_run, bind_run, AuditStore.scan, get_run]
    simp only [ofExcept_run, decoded, pure_run]
  let stored := (w.db store).runs.rows.mergeSort fun r s => decide (r.start_seq ≤ s.start_seq)
  have listed : store.all_runs w = (.ok stored, w) := rfl
  have found (run_id : String) : stored.find? (·.run_id == run_id) = (derived events).find run_id :=
    (find_in_order (w.db store).runs run_id).trans (same run_id)
  rw [AuditStore.check_run_index, bind_of_ok told]
  simp only
  rw [bind_of_ok listed, pure_run]
  have chain : (derive_runs_from events).1.filterMap (AuditStore.finding_of debug stored) = [] := by
    rw [List.filterMap_eq_nil_iff]
    intro row inside
    have here : (derived events).find row.run_id = some row := Table.find_eq_some.mpr ⟨inside, rfl⟩
    rw [AuditStore.finding_of, found, here]
    simp
  have index : (stored.filterMap fun row =>
      if (derive_runs_from events).1.any (·.run_id == row.run_id) then none
      else some ("not in the chain: " ++ row.run_id ++ " (index row at seq " ++ toString row.start_seq ++ ")")) = [] := by
    rw [List.filterMap_eq_nil_iff]
    intro row inside
    have member : row ∈ (w.db store).runs.rows := (List.mergeSort_perm _ _).mem_iff.mp inside
    have here : (w.db store).runs.find row.run_id = some row := Table.find_eq_some.mpr ⟨member, rfl⟩
    rw [same, Table.find_eq_some] at here
    have known : (derive_runs_from events).1.any (·.run_id == row.run_id) = true :=
      List.any_eq_true.mpr ⟨row, here.1, by simp⟩
    rw [if_pos known]
  simp only [chain, index, List.append_nil]

/-- An index on which the check has no findings agrees with its chain. -/
theorem checked_agrees {w : World} {debug : RunRecord → String} (checked : (store.check_run_index crates debug w).1 = .ok []) :
    Agrees crates store w := by
  cases decoded : (w.rows store).mapM (RawRow.into_stored crates) with
  | error error =>
    have unread : store.derive_runs crates w = (.error error, w) := by
      rw [AuditStore.derive_runs, AuditStore.all, bind_run, bind_run, AuditStore.scan, get_run]
      simp only [ofExcept_run, decoded]
    rw [AuditStore.check_run_index, bind_of_error unread] at checked
    cases checked
  | ok events =>
    have told : store.derive_runs crates w = (.ok (derive_runs_from events), w) := by
      rw [AuditStore.derive_runs, AuditStore.all, bind_run, bind_run, AuditStore.scan, get_run]
      simp only [ofExcept_run, decoded, pure_run]
    let stored := (w.db store).runs.rows.mergeSort fun r s => decide (r.start_seq ≤ s.start_seq)
    have listed : store.all_runs w = (.ok stored, w) := rfl
    have found (run_id : String) : stored.find? (·.run_id == run_id) = (w.db store).runs.find run_id :=
      find_in_order (w.db store).runs run_id
    rw [AuditStore.check_run_index, bind_of_ok told] at checked
    simp only at checked
    rw [bind_of_ok listed, pure_run] at checked
    simp only [Except.ok.injEq, List.append_eq_nil_iff, List.filterMap_eq_nil_iff] at checked
    obtain ⟨chain, index⟩ := checked
    refine ⟨events, decoded, ?_⟩
    intro run_id
    cases here : (derived events).find run_id with
    | some row =>
      obtain ⟨inside, rfl⟩ := Table.find_eq_some.mp here
      have agreed := chain row inside
      rw [AuditStore.finding_of, found] at agreed
      cases there : (w.db store).runs.find row.run_id with
      | none =>
        rw [there] at agreed
        cases agreed
      | some other =>
        rw [there] at agreed
        by_cases same : other = row
        · rw [same]
        · simp [same] at agreed
    | none =>
      cases there : (w.db store).runs.find run_id with
      | none => rfl
      | some row =>
        obtain ⟨inside, rfl⟩ := Table.find_eq_some.mp there
        have known := index row ((List.mergeSort_perm _ _).mem_iff.mpr inside)
        by_cases told : (derive_runs_from events).1.any (·.run_id == row.run_id) = true
        · obtain ⟨other, member, same⟩ := List.any_eq_true.mp told
          exact absurd (by simpa using same) (Table.find_eq_none.mp here other member)
        · rw [if_neg told] at known
          cases known

/-! ### Events that tell nothing of the runs -/

/-- What is written for the event can be read. -/
def Legible (crates : Crates) (event : AuditEvent) : Prop :=
  ∃ detail, decode crates (crates.json.to_string event.detail) = .ok detail

/-- The event, once on the chain, leaves these run rows as they are. -/
def Untold (crates : Crates) (rows : List RunRecord) (event : AuditEvent) : Prop :=
  ∀ row, Records crates event row → ∀ stored, row.into_stored crates = .ok stored → derive_row_step rows stored = rows

theorem untold_of_action {event : AuditEvent} (other : ¬ RunMarker event.action) (rows : List RunRecord) :
    Untold crates rows event := by
  intro row recorded stored decoded
  refine row_step_other ?_
  rw [show stored.event.action = row.action from ?_, recorded.2.2.1]
  · exact other
  · unfold RawRow.into_stored at decoded
    split at decoded
    · cases decoded
      rfl
    · cases decoded

/-- A start tells the same run once it was transcribed. -/
theorem parse_run_start_cleared (detail : Value) : parse_run_start (cleared_detail detail) = parse_run_start detail := by
  have same (key : String) (differs : key ≠ PROVISIONAL) : text_at key (cleared_detail detail) = text_at key detail := by
    rw [text_at, cleared_detail, get_without differs, text_at]
  unfold parse_run_start required
  rw [same "run_id" (by decide), same "fingerprint" (by decide), same "fingerprint_schema" (by decide),
    same "fingerprint_json" (by decide), same "session_id" (by decide), same "parent_run_id" (by decide),
    same "resumed_from_snapshot" (by decide), same "sandbox" (by decide), same "instance" (by decide)]

theorem legible_of_plain {event : AuditEvent} (plain : Plain event.detail) (shallow : depth event.detail ≤ 127) :
    Legible crates event := ⟨event.detail, decode_to_string crates plain shallow⟩

/-- An index stays in step with a chain that grows by such events. -/
theorem agrees_grows {v w : World} {events : List StoredEvent}
    (decoded : (v.rows store).mapM (RawRow.into_stored crates) = .ok events)
    (same : ∀ run_id, (v.db store).runs.find run_id = (derived events).find run_id)
    (grows : Grows crates (fun event => Legible crates event ∧ Untold crates (derived events).rows event) store v w)
    (runs : (w.db store).runs = (v.db store).runs) : Agrees crates store w := by
  obtain ⟨rows, grown, kind⟩ := grows.rows
  have legible : Decodable crates rows := by
    intro row inside
    obtain ⟨event, ⟨readable, _⟩, recorded⟩ := kind row inside
    rw [recorded.2.2.2.2]
    exact readable
  obtain ⟨more, read⟩ := events_of_decodable legible
  have untold : ∀ stored ∈ more, derive_row_step (derived events).rows stored = (derived events).rows := by
    rw [decoded_iff] at read
    clear grown legible
    induction read with
    | nil => simp
    | cons head _ ih =>
      intro stored inside
      rcases List.mem_cons.mp inside with rfl | later
      · obtain ⟨event, ⟨_, untold⟩, recorded⟩ := kind _ List.mem_cons_self
        exact untold _ recorded stored head
      · exact ih (fun row old => kind row (List.mem_cons_of_mem _ old)) stored later
  refine ⟨events ++ more, ?_, ?_⟩
  · rw [grown]
    exact decoded_append decoded read
  · intro run_id
    rw [runs, find_derived_same events untold, same]

/-! ### Segments beside the index -/

/-- The index stands as it stood. -/
def SameRuns (store : AuditStore) (v w : World) : Prop := (w.db store).runs = (v.db store).runs

theorem append_same_runs (on : AuditStore) (event : AuditEvent) : Does (SameRuns store) (on.append crates event) := by
  intro w
  cases outcome : w.append_error with
  | none =>
    rw [AuditStore.append_granted crates on outcome, SameRuns, World.appended, World.db_put]
    by_cases same : store = on
    · rw [if_pos same, same]
      rfl
    · rw [if_neg same]
      rfl
  | some error =>
    rw [AuditStore.append_refused crates on outcome]
    rfl

/-- A statement on another table leaves the index alone. -/
theorem execute_same_runs (on : AuditStore) {change : AuditDb → AuditDb} (beside : ∀ db, (change db).runs = db.runs) :
    Does (SameRuns store) (on.execute change) := by
  intro w
  cases answer : w.updates.headD none with
  | none =>
    rw [AuditStore.execute_granted on answer, SameRuns, World.db_put]
    by_cases same : store = on
    · rw [if_pos same, beside, same]
    · rw [if_neg same]
      rfl
  | some error =>
    rw [AuditStore.execute_refused on answer]
    rfl

theorem same_runs_climbed : Climbed (SameRuns store) where
  refl _ := rfl
  trans first second := second.trans first
  tick _ := rfl
  opens path w := by
    rw [AuditStore.open_at]
    cases w.opens.headD none with
    | none => exact congrArg AuditDb.runs ((opened_alike w ⟨path⟩ w.opens.tail).db store)
    | some error => rfl

theorem insert_segment_same_runs (on : AuditStore) (segment : Segment) : Does (SameRuns store) (on.insert_segment segment) :=
  same_runs_climbed.insert_segment on (execute_same_runs on fun _ => rfl)

theorem update_segment_same_runs (on : AuditStore) (segment_id : String) (rewrite : Segment → Segment)
    (keeps : ∀ s, (rewrite s).segment_id = s.segment_id) :
    Does (SameRuns store) (on.update_segment segment_id rewrite keeps) := execute_same_runs on fun _ => rfl

/-- No operation on segments touches the index. -/
theorem operate_same_runs (w : World) (op : Op) : SameRuns store w (operate crates store w op) := by
  cases op with
  | append event => exact append_same_runs store event w
  | open_segment kind owner =>
    exact same_runs_climbed.open_segment store kind owner (insert_segment_same_runs store)
      (fun _ _ => append_same_runs store _) (fun _ => execute_same_runs store fun _ => rfl) w
  | close_segment segment_id =>
    exact same_runs_climbed.close_segment store segment_id (fun _ _ _ => update_segment_same_runs store _ _ _)
      (fun _ _ => append_same_runs store _) w
  | adopt_segment segment_id chain length =>
    exact same_runs_climbed.adopt_segment store segment_id chain length
      (fun segment _ => insert_segment_same_runs store segment) w
  | merge_segment audit_dir segment_id =>
    exact same_runs_climbed.merge_segment store audit_dir segment_id (append_same_runs store)
      (update_segment_same_runs store) w
  | elsewhere world =>
    rw [SameRuns, operate, around_db]

/-- What an operation on segments appends, and what a merge transcribes, brings no news of the runs. -/
def NoNews (crates : Crates) (store : AuditStore) (w : World) (op : Op) : Prop :=
  ∀ told, (w.rows store).mapM (RawRow.into_stored crates) = .ok told →
    match op with
    | .append event => Legible crates event ∧ Untold crates (derived told).rows event
    | .merge_segment audit_dir segment_id => ∀ segment events,
        merge_plan crates store audit_dir segment_id w = .ok ⟨segment, events, none⟩ →
          ∀ event ∈ events, Untold crates (derived told).rows (outgoing event)
    | _ => True

theorem merge_no_news {w : World} {audit_dir : FilePath} {segment_id : String} {rows : List RunRecord}
    (no_news : ∀ segment events, merge_plan crates store audit_dir segment_id w = .ok ⟨segment, events, none⟩ →
      ∀ event ∈ events, Untold crates rows (outgoing event)) :
    Grows crates (fun event => Legible crates event ∧ Untold crates rows event) store w
      (store.merge_segment crates audit_dir segment_id w).2 := by
  obtain ⟨seen, alike, merged⟩ := store.merge_segment_run crates audit_dir segment_id w
  have read : Grows crates (fun event => Legible crates event ∧ Untold crates rows event) store w seen :=
    .of_eq (congrArg AuditDb.audit_events (alike.db store))
  rw [merged]
  cases planned : merge_plan crates store audit_dir segment_id w with
  | error error => exact read
  | ok plan =>
    obtain ⟨segment, events, conflict⟩ := plan
    have decoded := (merge_plan_ok crates planned).2.1
    simp only at decoded
    cases conflict with
    | some conflict =>
      refine read.trans (fork_segment_grows store segment conflict (fun now at_ms => ?_) seen)
      obtain ⟨plain, shallow, _⟩ := forked_detail_plain segment.segment_id segment.kind at_ms
        (conflict_reason conflict) conflict.id
      exact ⟨legible_of_plain plain shallow, untold_of_action (show ¬ RunMarker ACTION_SEGMENT_FORKED by decide) rows⟩
    | none =>
      refine read.trans (fold_segment_grows store segment ?_ (fun now at_ms count => ?_) seen)
      · intro event inside
        exact ⟨outgoing_readable decoded event inside, no_news segment events planned event inside⟩
      · obtain ⟨plain, shallow, _⟩ := merged_detail_plain segment.segment_id segment.kind at_ms count
        exact ⟨legible_of_plain plain shallow, untold_of_action (show ¬ RunMarker ACTION_SEGMENT_MERGED by decide) rows⟩

theorem operate_no_news {w : World} {op : Op} {told : List StoredEvent}
    (decoded : (w.rows store).mapM (RawRow.into_stored crates) = .ok told) (no_news : NoNews crates store w op) :
    Grows crates (fun event => Legible crates event ∧ Untold crates (derived told).rows event) store w
      (operate crates store w op) := by
  have allowed := no_news told decoded
  cases op with
  | append event => exact append_grows store allowed w
  | open_segment kind owner =>
    refine open_segment_grows store kind owner (fun now segment => ⟨legible_of_plain ?_ ?_, untold_of_action ?_ _⟩) w
    · exact plain_json (by simp)
    · exact le_trans (depth_json (d := 0) (by simp)) (by omega)
    · show ¬ RunMarker ACTION_SEGMENT_OPENED
      decide
  | close_segment segment_id =>
    refine close_segment_grows store segment_id (fun now at_ms => ⟨legible_of_plain ?_ ?_, untold_of_action ?_ _⟩) w
    · exact plain_json (by simp)
    · exact le_trans (depth_json (d := 0) (by simp)) (by omega)
    · show ¬ RunMarker ACTION_SEGMENT_CLOSED
      decide
  | adopt_segment segment_id chain length => exact adopt_segment_grows store segment_id chain length w
  | merge_segment audit_dir segment_id => exact merge_no_news allowed
  | elsewhere world => exact .of_eq (by rw [operate, around_db])

/-! ### The host's operations -/

variable (crates) (store)

theorem run_start_detail_plain (run_id : String) (session_id parent_run_id resumed_from_snapshot sandbox instanceName : Option String)
    (config : Value) :
    Plain (run_start_detail_with crates run_id session_id parent_run_id resumed_from_snapshot sandbox instanceName config) ∧
      depth (run_start_detail_with crates run_id session_id parent_run_id resumed_from_snapshot sandbox instanceName config)
        ≤ 127 :=
  ⟨plain_json (by simp), le_trans (depth_json (d := 0) (by simp)) (by omega)⟩

theorem run_end_detail_plain (run_id : String) (status : RunStatus) (reason : String) :
    Plain (run_end_detail run_id status reason) ∧ depth (run_end_detail run_id status reason) ≤ 127 :=
  ⟨plain_json (by simp), le_trans (depth_json (d := 0) (by simp)) (by omega)⟩

theorem abandoned_detail_plain (run_id : String) (detected_at_ms : Int) :
    Plain (abandoned_detail run_id detected_at_ms) ∧ depth (abandoned_detail run_id detected_at_ms) ≤ 127 :=
  ⟨plain_json (by simp), le_trans (depth_json (d := 0) (by simp)) (by omega)⟩

/-- The world once the clock was read. -/
def World.stamped (w : World) : World := { w with clock := w.clock.tail }

@[simp] theorem stamped_db (w : World) (on : AuditStore) : w.stamped.db on = w.db on := rfl
@[simp] theorem stamped_append_error (w : World) : w.stamped.append_error = w.append_error := rfl
@[simp] theorem stamped_updates (w : World) : w.stamped.updates = w.updates := rfl

namespace Host
variable (host : Host)

/-- The event a host writes at the time its clock shows. -/
def event (clock : List Int) (action : String) (detail : Value) : AuditEvent :=
  (AuditEvent.new (clock.headD 0) "host" action detail).with_agent host.agent_id

theorem append_host_event_granted {w : World} (granted : w.append_error = none) (action : String) (detail : Value) :
    host.append_host_event crates store action detail w =
      (.ok (some ((w.db store).audit_events.append crates (host.event w.clock action detail)).1),
        w.stamped.append_spent.appended crates store (host.event w.clock action detail)) := by
  have tick : now_ms w = (.ok (w.clock.headD 0), w.stamped) := rfl
  have append := AuditStore.append_granted crates store (w := w.stamped) granted (host.event w.clock action detail)
  rw [append_host_event, bind_of_ok tick, bind_run, attempt_run]
  rw [event] at append
  rw [append]
  rfl

theorem append_host_event_refused {w : World} {error : AuditError} (refused : w.append_error = some error) (action : String)
    (detail : Value) : host.append_host_event crates store action detail w = (.ok none, w.stamped.append_spent) := by
  have tick : now_ms w = (.ok (w.clock.headD 0), w.stamped) := rfl
  have append := AuditStore.append_refused crates store (w := w.stamped) refused (host.event w.clock action detail)
  rw [append_host_event, bind_of_ok tick, bind_run, attempt_run]
  rw [event] at append
  rw [append]
  rfl

/-- The start of a run that is granted stands on the chain and in the index. -/
theorem begin_run_granted {w : World} (granted : w.append_error = none) (written : w.updates.headD none = none)
    (run_id : String) (session_id parent_run_id resumed_from_snapshot sandbox instanceName : Option String) (config : Value) :
    ∃ after, host.begin_run crates store run_id session_id parent_run_id resumed_from_snapshot sandbox instanceName config w =
        (.ok (some run_id), after) ∧
      after.db store =
        let event := host.event w.clock ACTION_RUN_START (run_start_detail_with crates run_id session_id parent_run_id
          resumed_from_snapshot sandbox instanceName config)
        let (stored, audit_events) := (w.db store).audit_events.append crates event
        { w.db store with
          audit_events
          runs := (w.db store).runs.replace
            { run_id, session_id, parent_run_id, resumed_from_snapshot, fingerprint := fingerprint crates config,
              fingerprint_schema := FINGERPRINT_SCHEMA_V1, started_at_ms := stored.event.timestamp_ms, ended_at_ms := none,
              start_seq := stored.id, end_seq := none, status := .Open } } := by
  have append := host.append_host_event_granted crates store granted ACTION_RUN_START
    (run_start_detail_with crates run_id session_id parent_run_id resumed_from_snapshot sandbox instanceName config)
  have index := fun record => AuditStore.execute_granted store
    (w := w.stamped.append_spent.appended crates store (host.event w.clock ACTION_RUN_START
      (run_start_detail_with crates run_id session_id parent_run_id resumed_from_snapshot sandbox instanceName config)))
    written fun db => { db with runs := db.runs.replace record }
  rw [begin_run, bind_of_ok append]
  simp only
  rw [bind_run, attempt_run, AuditStore.index_run_start, index]
  refine ⟨_, rfl, ?_⟩
  simp only [World.db_put_self, World.appended]
  rfl

/-- The end of a run that is granted stands on the chain, and in the index where the run has a row. -/
theorem finish_run_granted {w : World} (granted : w.append_error = none) (written : w.updates.headD none = none)
    (run_id : String) (status : RunStatus) (reason : String) :
    ∃ after, host.finish_run crates store run_id status reason w = (.ok (), after) ∧
      after.db store =
        let (stored, audit_events) := (w.db store).audit_events.append crates
          (host.event w.clock ACTION_RUN_END (run_end_detail run_id status reason))
        { w.db store with audit_events, runs := (w.db store).runs.update run_id (RunRecord.ended stored status) fun _ => rfl } := by
  have append := host.append_host_event_granted crates store granted ACTION_RUN_END
    (run_end_detail run_id status reason)
  let told := w.stamped.append_spent.appended crates store (host.event w.clock ACTION_RUN_END (run_end_detail run_id status reason))
  let stored := ((w.db store).audit_events.append crates
    (host.event w.clock ACTION_RUN_END (run_end_detail run_id status reason))).1
  have index := AuditStore.execute_granted store (w := told) written fun db => { db with
    runs := db.runs.update run_id (RunRecord.ended stored status) fun _ => rfl }
  have read : store.read told = (.ok (told.db store), told) := rfl
  have closed : store.index_run_end run_id stored.id stored.event.timestamp_ms status told =
      (.ok ((told.db store).runs.find run_id).isSome, { told with updates := told.updates.tail }.put store
        { told.db store with runs := (told.db store).runs.update run_id (RunRecord.ended stored status) fun _ => rfl }) := by
    rw [AuditStore.index_run_end, bind_of_ok read]
    exact bind_of_ok index
  rw [finish_run, bind_of_ok append]
  simp only
  rw [bind_run, attempt_run, closed]
  refine ⟨_, rfl, ?_⟩
  simp only [World.db_put_self, told, World.appended]
  rfl

/-- The abandonments go one by one onto the chain; where the next append succeeds, at least one does. -/
theorem abandon_each_run {fits : AuditEvent → Prop} (runs : List RunRecord) (w : World)
    (kind : ∀ run ∈ runs, ∀ clock detected_at_ms,
      fits (host.event clock ACTION_RUN_ABANDONED (abandoned_detail run.run_id detected_at_ms))) :
    ∃ ids after, host.abandon_each crates store runs w = (.ok ids, after) ∧ Grows crates fits store w after ∧
      after.updates = w.updates ∧ (w.append_error = none → runs ≠ [] → ids ≠ []) := by
  induction runs generalizing w with
  | nil => exact ⟨[], w, rfl, .refl w, rfl, by simp⟩
  | cons run rest ih =>
    have tick : now_ms w = (.ok (w.clock.headD 0), w.stamped) := rfl
    have others := fun other inside => kind other (List.mem_cons_of_mem run inside)
    cases outcome : w.append_error with
    | none =>
      have append := host.append_host_event_granted crates store (w := w.stamped) outcome
        ACTION_RUN_ABANDONED (abandoned_detail run.run_id (w.clock.headD 0))
      obtain ⟨ids, after, told, grows, updates, _⟩ := ih (w.stamped.stamped.append_spent.appended crates store
        (host.event w.stamped.clock ACTION_RUN_ABANDONED (abandoned_detail run.run_id (w.clock.headD 0)))) others
      refine ⟨run.run_id :: ids, after, ?_, ?_, updates, by simp⟩
      · rw [abandon_each, bind_of_ok tick, bind_of_ok append]
        exact bind_of_ok told
      · refine Grows.trans (.of_eq rfl) (Grows.trans (appended_grows w.stamped.stamped.append_spent store ?_) grows)
        exact kind run List.mem_cons_self _ _
    | some error =>
      have append := host.append_host_event_refused crates store (w := w.stamped) outcome
        ACTION_RUN_ABANDONED (abandoned_detail run.run_id (w.clock.headD 0))
      obtain ⟨ids, after, told, grows, updates, _⟩ := ih w.stamped.stamped.append_spent others
      refine ⟨ids, after, ?_, .trans (.of_eq rfl) grows, updates, by simp⟩
      rw [abandon_each, bind_of_ok tick, bind_of_ok append]
      exact told

variable {crates} {store} in
/-- A start that abandons runs leaves an index made anew; a start that finds none leaves everything. -/
theorem abandon_stale_runs_agrees {w : World} (agrees : Agrees crates store w) (granted : w.append_error = none)
    (written : w.updates = []) : Agrees crates store (host.abandon_stale_runs crates store w).2 := by
  obtain ⟨events, decoded, same⟩ := agrees
  have read : store.all crates w = (.ok events, w) := by
    rw [AuditStore.all, bind_run, AuditStore.scan, get_run]
    simp only [ofExcept_run, decoded]
  have derive : attempt (store.derive_runs crates) w = (.ok (.ok (derive_runs_from events)), w) := by
    rw [attempt_run, AuditStore.derive_runs, bind_of_ok read]
    rfl
  obtain ⟨ids, after, told, grows, updates, some_ids⟩ := host.abandon_each_run crates store
    ((derive_runs_from events).1.filter host.stale) w (show ∀ run ∈ _, ∀ clock at_ms, Legible crates _ by
      intro run inside clock at_ms
      obtain ⟨plain, shallow⟩ := abandoned_detail_plain run.run_id at_ms
      exact legible_of_plain plain shallow)
  rw [abandon_stale_runs, bind_of_ok derive]
  simp only
  by_cases none_stale : (derive_runs_from events).1.filter host.stale = []
  · have nothing : host.abandon_each crates store ((derive_runs_from events).1.filter host.stale) w = (.ok [], w) := by
      rw [none_stale]
      rfl
    rw [bind_of_ok nothing]
    exact ⟨events, decoded, same⟩
  · have nonempty := some_ids granted none_stale
    rw [bind_of_ok told]
    simp only [if_pos nonempty]
    obtain ⟨rows, grown, kind⟩ := grows.rows
    have legible : Decodable crates (after.rows store) := by
      rw [grown, decodable_append]
      refine ⟨decodable_of_events decoded, ?_⟩
      intro row inside
      obtain ⟨event, readable, recorded⟩ := kind row inside
      rw [recorded.2.2.2.2]
      exact readable
    obtain ⟨all, reread⟩ := events_of_decodable legible
    have read_after : store.all crates after = (.ok all, after) := by
      rw [AuditStore.all, bind_run, AuditStore.scan, get_run]
      simp only [ofExcept_run, reread]
    have rebuild : store.rebuild_run_index crates after = (.ok (derive_runs_from all).2,
        { after with updates := after.updates.tail }.put store { after.db store with runs := derived all }) := by
      rw [AuditStore.rebuild_run_index, bind_of_ok read_after]
      exact bind_of_ok (AuditStore.execute_granted store (by rw [updates, written]; rfl) _)
    rw [bind_run, attempt_run, rebuild]
    refine ⟨all, ?_, ?_⟩
    · simp only [pure_run, World.rows, World.db_put_self]
      exact reread
    · intro run_id
      simp only [pure_run, World.db_put_self]

variable {crates} {store}

/-- A run begun under an id that no run has agrees with its row. -/
theorem begin_run_agrees {w : World} (agrees : Agrees crates store w) (granted : w.append_error = none)
    (written : w.updates.headD none = none) {run_id : String} (fresh : (w.db store).runs.find run_id = none)
    (session_id parent_run_id resumed_from_snapshot sandbox instanceName : Option String) (config : Value) :
    Agrees crates store
      (host.begin_run crates store run_id session_id parent_run_id resumed_from_snapshot sandbox instanceName config w).2 := by
  obtain ⟨events, decoded, same⟩ := agrees
  obtain ⟨after, run, held⟩ := host.begin_run_granted crates store granted written run_id session_id
    parent_run_id resumed_from_snapshot sandbox instanceName config
  let event := host.event w.clock ACTION_RUN_START (run_start_detail_with crates run_id session_id parent_run_id
    resumed_from_snapshot sandbox instanceName config)
  let stored := ((w.db store).audit_events.append crates event).1
  obtain ⟨plain, shallow⟩ := run_start_detail_plain crates run_id session_id parent_run_id resumed_from_snapshot
    sandbox instanceName config
  have read := EventTable.row_of_stored crates (w.db store).audit_events event plain shallow
  have last : [(w.db store).audit_events.row_of crates event].mapM (RawRow.into_stored crates) = .ok [stored] :=
    decoded_iff.mpr (.cons read .nil)
  have parsed : parse_run_start stored.event.detail = .ok _ := parse_run_start_detail crates run_id session_id parent_run_id
    resumed_from_snapshot sandbox instanceName config
  rw [run]
  refine ⟨events ++ [stored], ?_, ?_⟩
  · rw [World.rows, held]
    exact decoded_append decoded last
  · intro other
    have unknown : (derived events).find run_id = none := (same run_id).symm.trans fresh
    rw [held, find_derived_start events stored rfl parsed unknown other]
    change ((w.db store).runs.replace _).find other = _
    rw [Table.find_replace, same]
    rfl

/-- An end of a run that has none yet, or of no known run, agrees with the index. -/
theorem finish_run_agrees {w : World} (agrees : Agrees crates store w) (granted : w.append_error = none)
    (written : w.updates.headD none = none) {run_id : String}
    (unended : ∀ row, (w.db store).runs.find run_id = some row → row.end_seq = none) (status : RunStatus) (reason : String) :
    Agrees crates store (host.finish_run crates store run_id status reason w).2 := by
  obtain ⟨events, decoded, same⟩ := agrees
  obtain ⟨after, run, held⟩ := host.finish_run_granted crates store granted written run_id status reason
  let event := host.event w.clock ACTION_RUN_END (run_end_detail run_id status reason)
  let stored := ((w.db store).audit_events.append crates event).1
  obtain ⟨plain, shallow⟩ := run_end_detail_plain run_id status reason
  have read := EventTable.row_of_stored crates (w.db store).audit_events event plain shallow
  have last : [(w.db store).audit_events.row_of crates event].mapM (RawRow.into_stored crates) = .ok [stored] :=
    decoded_iff.mpr (.cons read .nil)
  have parsed : parse_run_end stored.event.detail = .ok ⟨run_id, status, reason⟩ := parse_run_end_detail run_id status reason
  rw [run]
  refine ⟨events ++ [stored], ?_, ?_⟩
  · rw [World.rows, held]
    exact decoded_append decoded last
  · intro other
    rw [held, find_derived_end events stored rfl parsed other]
    refine (Table.find_update (w.db store).runs run_id other (RunRecord.ended stored status) fun _ => rfl).trans ?_
    by_cases here : other = run_id
    · rw [if_pos here, if_pos here, same]
      cases found : (derived events).find other with
      | none => rfl
      | some row =>
        have none_yet : row.end_seq = none := by
          refine unended row ?_
          rw [← here, same, found]
        simp [none_yet]
    · rw [if_neg here, if_neg here, same]

end Host

/-! ### Along runs -/

variable {crates} {store}

/-- What happens to the index: a host's operation, or one on the segments beside it. -/
inductive RunOp
  | begin_run (host : Host) (run_id : String)
      (session_id parent_run_id resumed_from_snapshot sandbox instanceName : Option String) (config : Value)
  | finish_run (host : Host) (run_id : String) (status : RunStatus) (reason : String)
  | abandon_stale_runs (host : Host)
  | segments (op : Op)

/-- An operation is one step: its reads and writes with no operation between them. -/
def run_operate (crates : Crates) (store : AuditStore) (w : World) : RunOp → World
  | .begin_run host run_id session_id parent_run_id resumed_from_snapshot sandbox instanceName config =>
    (host.begin_run crates store run_id session_id parent_run_id resumed_from_snapshot sandbox instanceName config w).2
  | .finish_run host run_id status reason => (host.finish_run crates store run_id status reason w).2
  | .abandon_stale_runs host => (host.abandon_stale_runs crates store w).2
  | .segments op => operate crates store w op

/-- Every write succeeds; an id is minted for one run; a run is ended once; and no merge brings news of a run. -/
def InStep (crates : Crates) (store : AuditStore) (w : World) (op : RunOp) : Prop :=
  w.appends = [] ∧ w.updates = [] ∧
    match op with
    | .begin_run _ run_id _ _ _ _ _ _ => (w.db store).runs.find run_id = none
    | .finish_run _ run_id _ _ => ∀ row, (w.db store).runs.find run_id = some row → row.end_seq = none
    | .abandon_stale_runs _ => True
    | .segments op => NoNews crates store w op

theorem run_operate_agrees {w : World} {op : RunOp} (agrees : Agrees crates store w) (in_step : InStep crates store w op) :
    Agrees crates store (run_operate crates store w op) := by
  obtain ⟨appends, updates, allowed⟩ := in_step
  have granted : w.append_error = none := by
    rw [World.append_error, appends]
    rfl
  have written : w.updates.headD none = none := by
    rw [updates]
    rfl
  cases op with
  | begin_run host run_id session_id parent_run_id resumed_from_snapshot sandbox instanceName config =>
    exact host.begin_run_agrees agrees granted written allowed _ _ _ _ _ _
  | finish_run host run_id status reason => exact host.finish_run_agrees agrees granted written allowed status reason
  | abandon_stale_runs host => exact host.abandon_stale_runs_agrees agrees granted updates
  | segments op =>
    obtain ⟨events, decoded, same⟩ := agrees
    exact agrees_grows decoded same (operate_no_news decoded allowed) (operate_same_runs w op)

end

/-- Along every run whose operations are in step the check of the index has no findings. -/
theorem run_index_in_step (crates : Crates) (store : AuditStore) (start : World) (new : start.disk store.path = none)
    (ops : List RunOp) (in_step : Allowed (run_operate crates store) (InStep crates store) start ops)
    (debug : RunRecord → String) :
    (store.check_run_index crates debug (run (run_operate crates store) start ops)).1 = .ok [] := by
  have empty : Agrees crates store start := by
    refine ⟨[], ?_, ?_⟩
    · rw [World.rows, World.db, new]
      rfl
    · intro run_id
      rw [World.db, new]
      rfl
  exact agrees_checked (run_keeps (fun _ _ good allowed => run_operate_agrees good allowed) empty in_step) debug

/-! ### One run of one host, and a run delivered with a segment -/

theorem begun_and_ended_in_step :
    (AuditStore.check_run_index provisional_crates ⟨["data", "audit.db"]⟩ RunRecord.run_id
      (run (run_operate provisional_crates ⟨["data", "audit.db"]⟩) blank_world
        [.begin_run ⟨"agent", 0⟩ "run_1" none none none none none .null, .finish_run ⟨"agent", 0⟩ "run_1" .Ok "done"])).1 =
      .ok [] := by
  refine run_index_in_step provisional_crates ⟨["data", "audit.db"]⟩ blank_world rfl _ ?_ RunRecord.run_id
  refine ⟨⟨rfl, rfl, rfl⟩, ⟨?_, ?_, ?_⟩, trivial⟩
  · rfl
  · rfl
  · intro row found
    obtain ⟨after, begun, held⟩ := Host.begin_run_granted provisional_crates ⟨["data", "audit.db"]⟩
      ⟨"agent", 0⟩ (w := blank_world) rfl rfl "run_1" none none none none none .null
    rw [run_operate, begun, held] at found
    simp only [Table.find_replace, if_true] at found
    cases found
    rfl

/-- A world with no store at a path, and the delivered segment of one event beside it. -/
def delivered_event_world (crates : Crates) (event : AuditEvent) : World where
  disk := Function.update (fun _ => none) ["data", "audit-segments", "seg-7.db"]
    (some { AuditDb.empty with audit_events := (EventTable.empty.append crates event).2 })
  clock := [7, 8]
  appends := []
  updates := []
  opens := []

/-- The segment is adopted, and merged. -/
def delivery_run : List RunOp :=
  [.segments (.adopt_segment "seg-7" none none), .segments (.merge_segment ["data"] "seg-7")]

/-- The chain and the index after one event was delivered: the event, cleared, and its marker; and no run. -/
theorem delivery_run_tables (crates : Crates) {event : AuditEvent} (plain : Plain event.detail) (shallow : depth event.detail ≤ 127) :
    ∃ marker : AuditEvent, marker.action = ACTION_SEGMENT_MERGED ∧ Plain marker.detail ∧ depth marker.detail ≤ 127 ∧
      let store : AuditStore := ⟨["data", "audit.db"]⟩
      let after := run (run_operate crates store) (delivered_event_world crates event) delivery_run
      let first := EventTable.empty.append crates { event with detail := cleared_detail event.detail }
      (after.db store).audit_events = (first.2.append crates marker).2 ∧ (after.db store).runs = .empty := by
  let store : AuditStore := ⟨["data", "audit.db"]⟩
  have new : (delivered_event_world crates event).disk store.path = none := by simp [delivered_event_world, store]
  have no_store : (delivered_event_world crates event).db store = .empty := by
    rw [World.db, new]
    rfl
  have adopted := adopted_segment_world crates store (w := delivered_event_world crates event) "seg-7"
    (by rw [no_store]; rfl) rfl
  rw [no_store] at adopted
  have apart : (⟨["data", "audit-segments", "seg-7.db"]⟩ : AuditStore) ≠ store := by decide
  have planned := delivered_planned crates plain shallow
    (w := reached crates store (delivered_event_world crates event) [.adopt_segment "seg-7" none none]) (by rw [adopted]; rfl)
    (by rw [adopted, World.db_put_self]; rfl)
    (by rw [adopted, World.db_put, if_neg apart, World.db, delivered_event_world]; simp)
  obtain ⟨after, merged, _, held⟩ := merge_folded planned (by rw [adopted]; exact unrefused_of_granted (by simp [delivered_event_world]))
    (by rw [adopted]; rfl)
  have world : run (run_operate crates store) (delivered_event_world crates event) delivery_run = after := by
    rw [delivery_run, run_cons, run_cons, run_nil, run_operate, run_operate]
    exact congrArg Prod.snd merged
  have table := held store
  rw [if_pos rfl, adopted, World.db_put_self] at table
  obtain ⟨marker_plain, marker_shallow, _⟩ := merged_detail_plain delivered_segment.segment_id delivered_segment.kind
    (([7, 8] : List Int).headD 0) 1
  refine ⟨merged_event delivered_segment 1 [7, 8], rfl, marker_plain, marker_shallow, ?_⟩
  intro on there first
  rw [show there = after from world, table]
  exact ⟨rfl, rfl⟩

/-- A delivered start tells the chain of a run that the index does not have. -/
theorem delivered_start_disagrees (crates : Crates) {event : AuditEvent} {payload : RunStartPayload}
    (plain : Plain event.detail) (shallow : depth event.detail ≤ 127) (action : event.action = ACTION_RUN_START)
    (parsed : parse_run_start event.detail = .ok payload) :
    ¬ Agrees crates ⟨["data", "audit.db"]⟩
      (run (run_operate crates ⟨["data", "audit.db"]⟩) (delivered_event_world crates event) delivery_run) := by
  rintro ⟨events, decoded, same⟩
  obtain ⟨marker, marker_action, marker_plain, marker_shallow, table, runs⟩ := delivery_run_tables crates plain shallow
  let first := EventTable.empty.append crates { event with detail := cleared_detail event.detail }
  have first_read := EventTable.row_of_stored crates EventTable.empty
    { event with detail := cleared_detail event.detail } (plain_without PROVISIONAL plain)
    (le_trans (depth_without PROVISIONAL event.detail) shallow)
  have second_read := EventTable.row_of_stored crates first.2 marker marker_plain marker_shallow
  have reread : (first.2.append crates marker).2.rows.mapM (RawRow.into_stored crates) =
      .ok ([first.1] ++ [(first.2.append crates marker).1]) :=
    decoded_append (decoded_iff.mpr (.cons first_read .nil)) (decoded_iff.mpr (.cons second_read .nil))
  rw [World.rows, table] at decoded
  cases reread.symm.trans decoded
  have told := find_derived_start [] first.1 action ((parse_run_start_cleared event.detail).trans parsed)
    rfl payload.run_id
  have quiet : ∀ stored ∈ [(first.2.append crates marker).1],
      derive_row_step (derived [first.1]).rows stored = (derived [first.1]).rows := by
    intro stored inside
    rw [List.mem_singleton.mp inside]
    refine row_step_other ?_
    rw [show (first.2.append crates marker).1.event.action = ACTION_SEGMENT_MERGED from marker_action]
    decide
  have kept := find_derived_same [first.1] quiet payload.run_id
  have absent := same payload.run_id
  rw [runs, kept, ← List.nil_append [first.1], told, if_pos rfl] at absent
  cases absent

/-- A call that adopts a delivered segment or merges it. -/
def DeliveryCall : RunOp → Prop
  | .segments (.adopt_segment _ _ _) => True
  | .segments (.merge_segment _ _) => True
  | _ => False

/-- A merge puts a delivered start onto the chain and no row into the index. -/
theorem merged_start_not_indexed : ¬ ∃ crates : Crates, ∀ (store : AuditStore) (start : World),
    start.disk store.path = none → start.appends = [] → start.updates = [] →
      ∀ ops : List RunOp, (∀ op ∈ ops, DeliveryCall op) → ∀ debug : RunRecord → String,
        (store.check_run_index crates debug (run (run_operate crates store) start ops)).1 = .ok [] := by
  rintro ⟨crates, law⟩
  obtain ⟨plain, shallow⟩ := run_start_detail_plain crates "run_1" none none none none none .null
  have parsed := parse_run_start_detail crates "run_1" none none none none none .null
  generalize run_start_detail_with crates "run_1" none none none none none .null = detail at plain shallow parsed
  let event : AuditEvent := { timestamp_ms := 5, actor := "host", action := ACTION_RUN_START, agent_id := none, detail }
  have new : (delivered_event_world crates event).disk ["data", "audit.db"] = none := by simp [delivered_event_world]
  have checked := law ⟨["data", "audit.db"]⟩ (delivered_event_world crates event) new rfl rfl delivery_run
    (by simp [delivery_run, DeliveryCall]) fun _ => ""
  have disagrees := delivered_start_disagrees crates (show Plain event.detail from plain) shallow rfl parsed
  exact disagrees (checked_agrees checked)

end Riscdom.Audit
