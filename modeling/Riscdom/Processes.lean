import Riscdom.RunAgreement

/-!
Host processes on one audit database. A process that starts notes the newest
event, later reads the chain for runs left open before that, and abandons them
one by one; runs begin and end in between, in every order of the processes'
steps.
-/
namespace Riscdom.Audit
open Riscdom.Json Riscdom.KeyedTable Fallible.Act Riscdom.Machine

/-- Where a process is: its start in three parts, and then its service. -/
inductive Process
  | unborn
  | starting (host : Host)
  | sweeping (host : Host) (stale : List RunRecord) (abandoned : List String)
  | serving (host : Host)
  | gone

/-- The process is there. -/
def Process.Alive : Process → Prop
  | .unborn => False
  | .gone => False
  | _ => True

/-- The processes, by number, on the files of one world, and which process began which run. -/
structure Fleet where
  world : World
  procs : Nat → Process
  owner : String → Option Nat

def Fleet.start (world : World) : Fleet := ⟨world, fun _ => .unborn, fun _ => none⟩

inductive FleetOp
  | launch (pid : Nat) (agent_id : String)
  | survey (pid : Nat)
  | abandon (pid : Nat)
  | settle (pid : Nat)
  | begin_run (pid : Nat) (run_id : String)
      (session_id parent_run_id resumed_from_snapshot sandbox instanceName : Option String) (config : Value)
  | finish_run (pid : Nat) (run_id : String) (status : RunStatus) (reason : String)
  | exit (pid : Nat)
  | elsewhere (world : World)

variable (crates : Crates) (store : AuditStore)

/-- The newest event of the chain, or zero where it cannot be read. -/
def startup_seq (w : World) : Int :=
  match (store.all crates w).1 with
  | .ok events => (events.getLast?.map StoredEvent.id).getD 0
  | .error _ => 0

def Fleet.move (f : Fleet) (pid : Nat) (process : Process) : Fleet := { f with procs := Function.update f.procs pid process }

/-- One step of one process; a step that is not its turn leaves everything. An id is minted once, and a process ends the
    runs that it began. -/
def fleet_step (f : Fleet) : FleetOp → Fleet
  | .launch pid agent_id =>
    match f.procs pid with
    | .unborn => f.move pid (.starting ⟨agent_id, startup_seq crates store f.world⟩)
    | _ => f
  | .survey pid =>
    match f.procs pid with
    | .starting host =>
      match store.derive_runs crates f.world with
      | (.error _, world) => { f with world }.move pid (.serving host)
      | (.ok (runs, _), world) => { f with world }.move pid (.sweeping host (runs.filter host.stale) [])
    | _ => f
  | .abandon pid =>
    match f.procs pid with
    | .sweeping host (run :: rest) abandoned =>
      match host.abandon_each crates store [run] f.world with
      | (.ok ids, world) => { f with world }.move pid (.sweeping host rest (abandoned ++ ids))
      | (.error _, world) => { f with world }
    | _ => f
  | .settle pid =>
    match f.procs pid with
    | .sweeping host [] abandoned =>
      { f with world := if abandoned ≠ [] then (store.rebuild_run_index crates f.world).2 else f.world }.move pid
        (.serving host)
    | _ => f
  | .begin_run pid run_id session_id parent_run_id resumed_from_snapshot sandbox instanceName config =>
    match f.procs pid, f.owner run_id with
    | .serving host, none =>
      match host.begin_run crates store run_id session_id parent_run_id resumed_from_snapshot sandbox instanceName config
        f.world with
      | (.ok (some _), world) => { f with world, owner := Function.update f.owner run_id (some pid) }
      | (_, world) => { f with world }
    | _, _ => f
  | .finish_run pid run_id status reason =>
    match f.procs pid with
    | .serving host =>
      if f.owner run_id = some pid then { f with world := (host.finish_run crates store run_id status reason f.world).2 } else f
    | _ => f
  | .exit pid =>
    match f.procs pid with
    | .unborn => f
    | _ => f.move pid .gone
  | .elsewhere world => { f with world := f.world.around store world }

/-! ### The parts of a start make up the start -/

theorem abandon_one_granted (host : Host) (run : RunRecord) {w : World} (granted : w.append_error = none) :
    host.abandon_each crates store [run] w = (.ok [run.run_id], w.stamped.stamped.append_spent.appended crates store
      (host.event w.clock.tail ACTION_RUN_ABANDONED (abandoned_detail run.run_id (w.clock.headD 0)))) := by
  have tick : now_ms w = (.ok (w.clock.headD 0), w.stamped) := rfl
  have append := host.append_host_event_granted crates store (w := w.stamped) granted ACTION_RUN_ABANDONED
    (abandoned_detail run.run_id (w.clock.headD 0))
  rw [Host.abandon_each, bind_of_ok tick, bind_of_ok append]
  exact bind_of_ok rfl

theorem abandon_each_cons (host : Host) (run : RunRecord) (rest : List RunRecord) (w : World) :
    ∃ ids middle more after, host.abandon_each crates store [run] w = (.ok ids, middle) ∧
      host.abandon_each crates store rest middle = (.ok more, after) ∧
      host.abandon_each crates store (run :: rest) w = (.ok (ids ++ more), after) := by
  have any (runs : List RunRecord) (v : World) : ∃ ids after, host.abandon_each crates store runs v = (.ok ids, after) := by
    obtain ⟨ids, after, told, _⟩ := host.abandon_each_run crates store runs v
      (show ∀ run ∈ runs, ∀ clock at_ms, Unrestricted _ from fun _ _ _ _ => trivial)
    exact ⟨ids, after, told⟩
  have tick : now_ms w = (.ok (w.clock.headD 0), w.stamped) := rfl
  cases outcome : w.append_error with
  | none =>
    have append := host.append_host_event_granted crates store (w := w.stamped) outcome ACTION_RUN_ABANDONED
      (abandoned_detail run.run_id (w.clock.headD 0))
    let middle := w.stamped.stamped.append_spent.appended crates store
      (host.event w.stamped.clock ACTION_RUN_ABANDONED (abandoned_detail run.run_id (w.clock.headD 0)))
    have alone : host.abandon_each crates store [run] w = (.ok [run.run_id], middle) :=
      abandon_one_granted crates store host run outcome
    obtain ⟨more, after, told⟩ := any rest middle
    refine ⟨_, _, more, after, alone, told, ?_⟩
    rw [Host.abandon_each, bind_of_ok tick, bind_of_ok append]
    exact bind_of_ok told
  | some error =>
    have append := host.append_host_event_refused crates store (w := w.stamped) outcome ACTION_RUN_ABANDONED
      (abandoned_detail run.run_id (w.clock.headD 0))
    have alone : host.abandon_each crates store [run] w = (.ok [], w.stamped.stamped.append_spent) := by
      rw [Host.abandon_each, bind_of_ok tick, bind_of_ok append]
      rfl
    obtain ⟨more, after, told⟩ := any rest w.stamped.stamped.append_spent
    refine ⟨_, _, more, after, alone, told, ?_⟩
    rw [Host.abandon_each, bind_of_ok tick, bind_of_ok append]
    exact told

@[simp] theorem move_procs (f : Fleet) (pid : Nat) (process : Process) : (f.move pid process).procs pid = process := by
  simp [Fleet.move]
theorem move_procs_of_ne (f : Fleet) {pid other : Nat} (process : Process) (differs : other ≠ pid) :
    (f.move pid process).procs other = f.procs other := Function.update_of_ne differs _ _

/-- The abandonments of a process, taken one after the other without a step between. -/
theorem abandon_steps (pid : Nat) (host : Host) (stale : List RunRecord) (abandoned : List String) (f : Fleet)
    (sweeping : f.procs pid = .sweeping host stale abandoned) :
    ∃ ids after, host.abandon_each crates store stale f.world = (.ok ids, after) ∧
      run (fleet_step crates store) f (stale.map fun _ => .abandon pid) =
        { f with world := after }.move pid (.sweeping host [] (abandoned ++ ids)) := by
  induction stale generalizing f abandoned with
  | nil =>
    refine ⟨[], f.world, rfl, ?_⟩
    rw [List.map_nil, run_nil, List.append_nil, Fleet.move, ← sweeping, Function.update_eq_self]
  | cons head rest ih =>
    obtain ⟨ids, middle, more, after, alone, later, whole⟩ := abandon_each_cons crates store host head rest f.world
    have step : fleet_step crates store f (.abandon pid) =
        { f with world := middle }.move pid (.sweeping host rest (abandoned ++ ids)) := by
      rw [fleet_step, sweeping]
      simp only [alone]
    obtain ⟨others, last, told, reached⟩ := ih (abandoned ++ ids) _ (show (Fleet.move { f with world := middle } pid
      (.sweeping host rest (abandoned ++ ids))).procs pid = _ by simp)
    have same : host.abandon_each crates store rest middle = (.ok others, last) := told
    rw [later] at same
    cases same
    refine ⟨ids ++ more, after, whole, ?_⟩
    rw [List.map_cons, run_cons, step, reached]
    simp only [Fleet.move, Function.update_idem, List.append_assoc]

/-- A start whose steps are taken without a step between does what the code's function does. -/
theorem start_abandons_stale_runs (pid : Nat) (host : Host) (f : Fleet) (starting : f.procs pid = .starting host)
    {events : List StoredEvent} (decoded : (f.world.rows store).mapM (RawRow.into_stored crates) = .ok events) :
    run (fleet_step crates store) f (.survey pid ::
        (((derive_runs_from events).1.filter host.stale).map fun _ => .abandon pid) ++ [.settle pid]) =
      { f with world := (host.abandon_stale_runs crates store f.world).2 }.move pid (.serving host) := by
  have derive : store.derive_runs crates f.world = (.ok (derive_runs_from events), f.world) := by
    rw [AuditStore.derive_runs, AuditStore.all, bind_run, bind_run, AuditStore.scan, get_run]
    simp only [ofExcept_run, decoded, pure_run]
  have survey : fleet_step crates store f (.survey pid) =
      f.move pid (.sweeping host ((derive_runs_from events).1.filter host.stale) []) := by
    rw [fleet_step, starting]
    simp only [derive]
  let stale := (derive_runs_from events).1.filter host.stale
  obtain ⟨ids, after, told, reached⟩ := abandon_steps crates store pid host stale [] (f.move pid (.sweeping host stale []))
    (by simp)
  have whole : (host.abandon_stale_runs crates store f.world).2 =
      if ids ≠ [] then (store.rebuild_run_index crates after).2 else after := by
    have attempted : attempt (store.derive_runs crates) f.world = (.ok (.ok (derive_runs_from events)), f.world) := by
      rw [attempt_run, derive]
    rw [Host.abandon_stale_runs, bind_of_ok attempted]
    simp only
    rw [bind_of_ok (show host.abandon_each crates store stale f.world = (.ok ids, after) from told)]
    by_cases none : ids = []
    · simp [none]
    · simp only [if_pos (show ids ≠ [] from none)]
      rw [bind_run, attempt_run]
      rfl
  rw [List.cons_append, run_cons, survey, run_append, reached, run_cons, run_nil, fleet_step]
  simp only [move_procs, List.nil_append, whole]
  simp only [Fleet.move, Function.update_idem]

/-! ### What each process tells the chain -/

section
variable {crates} {store}

/-- A chain that grew by readable events of a kind reads on with events of the kind. -/
theorem Grows.told {fits : AuditEvent → Prop} {v w : World} {events : List StoredEvent}
    (grows : Grows crates fits store v w) (readable : ∀ event, fits event → Plain event.detail ∧ depth event.detail ≤ 127)
    (decoded : (v.rows store).mapM (RawRow.into_stored crates) = .ok events) :
    ∃ more, (w.rows store).mapM (RawRow.into_stored crates) = .ok (events ++ more) ∧ ∀ stored ∈ more, fits stored.event := by
  obtain ⟨rows, grown, kind⟩ := grows.rows
  rw [grown]
  clear grown
  have legible : Decodable crates rows := by
    intro row inside
    obtain ⟨event, fit, recorded⟩ := kind row inside
    rw [recorded.2.2.2.2]
    exact ⟨event.detail, decode_to_string crates (readable event fit).1 (readable event fit).2⟩
  obtain ⟨more, read⟩ := events_of_decodable legible
  refine ⟨more, decoded_append decoded read, ?_⟩
  rw [decoded_iff] at read
  clear legible
  induction read with
  | nil => simp
  | @cons row stored rest others head _ ih =>
    intro other inside
    rcases List.mem_cons.mp inside with rfl | later
    · obtain ⟨event, fit, at_time, actor, action, agent, detail⟩ := kind row List.mem_cons_self
      rw [RawRow.into_stored, detail, decode_to_string crates (readable event fit).1 (readable event fit).2, at_time,
        actor, action, agent] at head
      cases head
      exact fit
    · exact ih (fun row old => kind row (List.mem_cons_of_mem _ old)) other later

variable (crates) (store) in
/-- A run either is refused, with the chain as it was, or begins with its start on the chain. -/
theorem begin_run_told (host : Host) (run_id : String)
    (session_id parent_run_id resumed_from_snapshot sandbox instanceName : Option String) (config : Value) (w : World) :
    let detail := run_start_detail_with crates run_id session_id parent_run_id resumed_from_snapshot sandbox instanceName config
    ∃ begun after, host.begin_run crates store run_id session_id parent_run_id resumed_from_snapshot sandbox instanceName
        config w = (.ok begun, after) ∧
      (begun = none ∧ (after.db store).audit_events = (w.db store).audit_events ∨ begun = some run_id ∧
        Grows crates (fun event => event.action = ACTION_RUN_START ∧ event.detail = detail) store w after) := by
  intro detail
  cases outcome : w.append_error with
  | none =>
    have append := host.append_host_event_granted crates store outcome ACTION_RUN_START detail
    have index (record : RunRecord) (v : World) : ∃ result after, attempt (store.index_run_start record) v = (.ok result, after) ∧
        (after.db store).audit_events = (v.db store).audit_events := by
      rw [attempt_run, AuditStore.index_run_start]
      cases answer : v.updates.headD none with
      | none =>
        rw [AuditStore.execute_granted store answer]
        exact ⟨_, _, rfl, by rw [World.db_put_self]⟩
      | some error =>
        rw [AuditStore.execute_refused store answer]
        exact ⟨_, _, rfl, rfl⟩
    obtain ⟨result, after, written, same⟩ := index _ _
    refine ⟨some run_id, after, ?_, .inr ⟨rfl, ?_⟩⟩
    · rw [Host.begin_run, bind_of_ok append]
      simp only
      exact bind_of_ok written
    · refine Grows.trans (.of_eq rfl) (Grows.trans (appended_grows w.stamped.append_spent store ?_) (.of_eq same))
      exact ⟨rfl, rfl⟩
  | some error =>
    have append := host.append_host_event_refused crates store outcome ACTION_RUN_START detail
    refine ⟨none, w.stamped.append_spent, ?_, .inl ⟨rfl, rfl⟩⟩
    rw [Host.begin_run, bind_of_ok append]
    rfl

theorem finish_run_told (host : Host) (run_id : String) (status : RunStatus) (reason : String) (w : World) :
    Grows crates (fun event => event.action = ACTION_RUN_END ∧ event.detail = run_end_detail run_id status reason) store w
      (host.finish_run crates store run_id status reason w).2 := by
  cases outcome : w.append_error with
  | none =>
    have append := host.append_host_event_granted crates store outcome ACTION_RUN_END (run_end_detail run_id status reason)
    have index (seq at_ms : Int) (v : World) :
        ((attempt (store.index_run_end run_id seq at_ms status) v).2.db store).audit_events = (v.db store).audit_events := by
      have read : store.read v = (.ok (v.db store), v) := rfl
      rw [attempt_run, AuditStore.index_run_end, bind_of_ok read, bind_run]
      cases answer : v.updates.headD none with
      | none =>
        rw [AuditStore.execute_granted store answer]
        simp only [pure_run, World.db_put_self]
      | some error =>
        rw [AuditStore.execute_refused store answer]
        rfl
    rw [Host.finish_run, bind_of_ok append]
    simp only
    rw [bind_run, attempt_run]
    refine Grows.trans (.of_eq rfl) (Grows.trans (appended_grows w.stamped.append_spent store ?_) (.of_eq (index _ _ _)))
    exact ⟨rfl, rfl⟩
  | some error =>
    have append := host.append_host_event_refused crates store outcome ACTION_RUN_END (run_end_detail run_id status reason)
    rw [Host.finish_run, bind_of_ok append]
    exact .of_eq rfl

theorem rebuild_told (w : World) :
    ((store.rebuild_run_index crates w).2.db store).audit_events = (w.db store).audit_events := by
  have read : ∃ result, store.all crates w = (result, w) := by
    rw [AuditStore.all, bind_run, AuditStore.scan, get_run]
    exact ⟨_, rfl⟩
  obtain ⟨result, read⟩ := read
  rw [AuditStore.rebuild_run_index]
  cases result with
  | error error => rw [bind_of_error read]
  | ok events =>
    rw [bind_of_ok read, bind_run]
    cases answer : w.updates.headD none with
    | none =>
      rw [AuditStore.execute_granted store answer]
      simp only [pure_run, World.db_put_self]
    | some error =>
      rw [AuditStore.execute_refused store answer]
      rfl

end

/-! ### The dead and the living -/

/-- The process that began the run is gone. -/
def Deserted (f : Fleet) (run_id : String) : Prop := ∃ pid, f.owner run_id = some pid ∧ f.procs pid = .gone

/-- A process that reads the chain for stale runs finds each run of a process that is there, when it began on the chain
    that the reader started on, ended. -/
def Considerate (f : Fleet) : FleetOp → Prop
  | .survey pid => ∀ host events, f.procs pid = .starting host →
      (f.world.rows store).mapM (RawRow.into_stored crates) = .ok events →
        ∀ run_id owner, f.owner run_id = some owner → (f.procs owner).Alive →
          ∀ first ∈ events, Starts run_id first → first.id ≤ host.startup_seq →
            ∃ second, [first, second].Sublist events ∧ Ends run_id second
  | _ => True

/-- Every run on the chain has the process that began it, and what was abandoned, or is about to be, is deserted. -/
structure Tidy (f : Fleet) (events : List StoredEvent) : Prop where
  read : (f.world.rows store).mapM (RawRow.into_stored crates) = .ok events
  started : ∀ stored ∈ events, ∀ run_id, Starts run_id stored → ∃ pid, f.owner run_id = some pid
  abandoned : ∀ stored ∈ events, ∀ run_id, Abandons run_id stored → Deserted f run_id
  order : events.Pairwise fun first second => ∀ run_id, Abandons run_id first → ¬ Ends run_id second
  pending : ∀ pid host stale ids, f.procs pid = .sweeping host stale ids → ∀ run ∈ stale, Deserted f run.run_id
  born : ∀ run_id pid, f.owner run_id = some pid → f.procs pid ≠ .unborn

section
variable {crates} {store} {f : Fleet} {events : List StoredEvent}

theorem tidy_start {start : World} (new : start.disk store.path = none) : Tidy crates store (.start start) [] where
  read := by
    rw [World.rows, World.db, Fleet.start, new]
    rfl
  started := by simp
  abandoned := by simp
  order := .nil
  pending := by
    intro pid host stale ids sweeping
    cases sweeping
  born := by
    intro run_id pid owned
    cases owned

/-- A process that is not gone may go on to any part of its life, as long as it abandons the deserted. -/
theorem tidy_move (tidy : Tidy crates store f events) {pid : Nat} {process : Process} (there : f.procs pid ≠ .gone)
    (born : process ≠ .unborn)
    (pending : ∀ host stale ids, process = .sweeping host stale ids → ∀ run ∈ stale, Deserted f run.run_id) :
    Tidy crates store (f.move pid process) events := by
  have deserted {run_id : String} (before : Deserted f run_id) : Deserted (f.move pid process) run_id := by
    obtain ⟨owner, owned, gone⟩ := before
    refine ⟨owner, owned, ?_⟩
    have other : owner ≠ pid := by
      rintro rfl
      exact there gone
    rw [move_procs_of_ne f process other]
    exact gone
  refine ⟨tidy.read, tidy.started, ?_, tidy.order, ?_, ?_⟩
  · intro stored inside run_id abandons
    exact deserted (tidy.abandoned stored inside run_id abandons)
  · intro other host stale ids sweeping run inside
    by_cases same : other = pid
    · subst same
      rw [move_procs] at sweeping
      exact deserted (pending host stale ids sweeping run inside)
    · rw [move_procs_of_ne f process same] at sweeping
      exact deserted (tidy.pending other host stale ids sweeping run inside)
  · intro run_id owner owned
    by_cases same : owner = pid
    · subst same
      rw [move_procs]
      exact born
    · rw [move_procs_of_ne f process same]
      exact tidy.born run_id owner owned

/-- A run of a process that is there gets its owner when it begins. -/
theorem tidy_mint (tidy : Tidy crates store f events) {run_id : String} {pid : Nat} (fresh : f.owner run_id = none)
    (born : f.procs pid ≠ .unborn) :
    Tidy crates store { f with owner := Function.update f.owner run_id (some pid) } events := by
  have kept {other : String} {owner : Nat} (owned : f.owner other = some owner) :
      Function.update f.owner run_id (some pid) other = some owner := by
    have differs : other ≠ run_id := by
      rintro rfl
      rw [fresh] at owned
      cases owned
    rw [Function.update_of_ne differs, owned]
  have deserted {other : String} (before : Deserted f other) :
      Deserted { f with owner := Function.update f.owner run_id (some pid) } other := by
    obtain ⟨owner, owned, gone⟩ := before
    exact ⟨owner, kept owned, gone⟩
  refine ⟨tidy.read, ?_, ?_, tidy.order, ?_, ?_⟩
  · intro stored inside other starts
    obtain ⟨owner, owned⟩ := tidy.started stored inside other starts
    exact ⟨owner, kept owned⟩
  · intro stored inside other abandons
    exact deserted (tidy.abandoned stored inside other abandons)
  · intro other host stale ids sweeping run inside
    exact deserted (tidy.pending other host stale ids sweeping run inside)
  · intro other owner owned
    have written : Function.update f.owner run_id (some pid) other = some owner := owned
    by_cases same : other = run_id
    · subst same
      rw [Function.update_self] at written
      cases written
      exact born
    · rw [Function.update_of_ne same] at written
      exact tidy.born other owner written

/-- The chain may go on with starts of owned runs, abandonments of deserted ones and ends of others. -/
theorem tidy_told (tidy : Tidy crates store f events) {world : World} {more : List StoredEvent}
    (read : (world.rows store).mapM (RawRow.into_stored crates) = .ok (events ++ more))
    (starts : ∀ stored ∈ more, ∀ run_id, Starts run_id stored → ∃ pid, f.owner run_id = some pid)
    (abandons : ∀ stored ∈ more, ∀ run_id, Abandons run_id stored → Deserted f run_id)
    (ends : ∀ stored ∈ more, ∀ run_id, Ends run_id stored → ¬ Deserted f run_id) :
    Tidy crates store { f with world } (events ++ more) := by
  have all : ∀ stored ∈ events ++ more, ∀ run_id, Abandons run_id stored → Deserted f run_id := by
    intro stored inside
    rcases List.mem_append.mp inside with old | new
    · exact tidy.abandoned stored old
    · exact abandons stored new
  refine ⟨read, ?_, all, ?_, tidy.pending, tidy.born⟩
  · intro stored inside
    rcases List.mem_append.mp inside with old | new
    · exact tidy.started stored old
    · exact starts stored new
  · refine List.pairwise_append.mpr ⟨tidy.order, ?_, ?_⟩
    · refine List.pairwise_iff_forall_sublist.mpr ?_
      intro first second order run_id abandoned ended
      have members := order.subset
      exact ends second (members (by simp)) run_id ended (abandons first (members (by simp)) run_id abandoned)
    · intro first old second new run_id abandoned ended
      exact ends second new run_id ended (tidy.abandoned first old run_id abandoned)

theorem tidy_same (tidy : Tidy crates store f events) {world : World}
    (same : (world.db store).audit_events = (f.world.db store).audit_events) : Tidy crates store { f with world } events := by
  refine ⟨?_, tidy.started, tidy.abandoned, tidy.order, tidy.pending, tidy.born⟩
  rw [World.rows, same]
  exact tidy.read

/-- What is stale on a chain where every run there is ended, is deserted. -/
theorem stale_deserted (tidy : Tidy crates store f events) {pid : Nat} {host : Host} (starting : f.procs pid = .starting host)
    (considerate : Considerate crates store f (.survey pid)) :
    ∀ run ∈ (derive_runs_from events).1.filter host.stale, Deserted f run.run_id := by
  intro run inside
  obtain ⟨member, stale⟩ := List.mem_filter.mp inside
  rw [Host.stale, Bool.and_eq_true, Bool.and_eq_true, decide_eq_true_eq] at stale
  obtain ⟨⟨unended, _⟩, early⟩ := stale
  obtain ⟨first, told, starts, seq⟩ := derived_started (show run ∈ (derived events).rows from member)
  obtain ⟨owner, owned⟩ := tidy.started first told run.run_id starts
  refine ⟨owner, owned, ?_⟩
  by_contra there
  have alive : (f.procs owner).Alive := by
    have born := tidy.born run.run_id owner owned
    cases process : f.procs owner with
    | unborn => exact absurd process born
    | gone => exact absurd process there
    | starting host => trivial
    | sweeping host stale ids => trivial
    | serving host => trivial
  obtain ⟨second, order, ends⟩ := considerate host events starting tidy.read run.run_id owner owned alive first told starts
    (by rw [seq]; exact early)
  obtain ⟨row, found, ended⟩ := derived_ended order starts ends
  have same : (derived events).find run.run_id = some run := Table.find_eq_some.mpr ⟨member, rfl⟩
  rw [same] at found
  cases found
  exact ended (by simpa using unended)

/-- A chain that grows by one marker of a run stays tidy. -/
theorem tidy_grows (tidy : Tidy crates store f events) {world : World} {action : String} (fits : Value → Prop)
    (readable : ∀ detail, fits detail → Plain detail ∧ depth detail ≤ 127)
    (starts : ∀ detail payload, fits detail → action = ACTION_RUN_START → parse_run_start detail = .ok payload →
      ∃ pid, f.owner payload.run_id = some pid)
    (abandons : ∀ detail run_id, fits detail → action = ACTION_RUN_ABANDONED → text_at "run_id" detail = some run_id →
      Deserted f run_id)
    (ends : ∀ detail payload, fits detail → action = ACTION_RUN_END → parse_run_end detail = .ok payload →
      ¬ Deserted f payload.run_id)
    (grows : Grows crates (fun event => event.action = action ∧ fits event.detail) store f.world world) :
    ∃ later, Tidy crates store { f with world } later := by
  obtain ⟨more, read, kind⟩ := grows.told (fun event fit => readable event.detail fit.2) tidy.read
  refine ⟨events ++ more, tidy_told tidy read ?_ ?_ ?_⟩
  · rintro stored inside run_id ⟨same, payload, parsed, rfl⟩
    obtain ⟨marker, fit⟩ := kind stored inside
    exact starts stored.event.detail payload fit (marker.symm.trans same) parsed
  · rintro stored inside run_id ⟨same, named⟩
    obtain ⟨marker, fit⟩ := kind stored inside
    exact abandons stored.event.detail run_id fit (marker.symm.trans same) named
  · rintro stored inside run_id ⟨same, payload, parsed, rfl⟩
    obtain ⟨marker, fit⟩ := kind stored inside
    exact ends stored.event.detail payload fit (marker.symm.trans same) parsed

/-! ### One lemma a step -/

theorem tidy_abandon (tidy : Tidy crates store f events) (pid : Nat) :
    ∃ later, Tidy crates store (fleet_step crates store f (.abandon pid)) later := by
  rw [fleet_step]
  split
  · next host run rest abandoned sweeping =>
    have deserted := tidy.pending pid host (run :: rest) abandoned sweeping run List.mem_cons_self
    let fits (event : AuditEvent) : Prop :=
      event.action = ACTION_RUN_ABANDONED ∧ ∃ at_ms, event.detail = abandoned_detail run.run_id at_ms
    have kind : ∀ other ∈ [run], ∀ clock at_ms,
        fits (host.event clock ACTION_RUN_ABANDONED (abandoned_detail other.run_id at_ms)) := by
      intro other inside clock at_ms
      rw [List.mem_singleton.mp inside]
      exact ⟨rfl, at_ms, rfl⟩
    obtain ⟨ids, after, told, grows, _⟩ := host.abandon_each_run crates store [run] f.world kind
    rw [told]
    obtain ⟨later, tidy⟩ := tidy_grows tidy (fun detail => ∃ at_ms, detail = abandoned_detail run.run_id at_ms)
      (by
        rintro detail ⟨at_ms, rfl⟩
        exact abandoned_detail_plain run.run_id at_ms)
      (by
        intro detail payload _ same
        exact absurd same (by decide))
      (by
        rintro detail run_id ⟨at_ms, rfl⟩ _ named
        rw [abandoned_detail, text_at_json] at named
        cases named
        exact deserted)
      (by
        intro detail payload _ same
        exact absurd same (by decide))
      grows
    refine ⟨later, tidy_move tidy ?_ (by simp) ?_⟩
    · rw [sweeping]
      simp
    · intro _ _ _ same other inside
      cases same
      exact tidy.pending pid host (run :: rest) abandoned sweeping other (List.mem_cons_of_mem _ inside)
  · exact ⟨events, tidy⟩

theorem tidy_begin_run (tidy : Tidy crates store f events) (pid : Nat) (run_id : String)
    (session_id parent_run_id resumed_from_snapshot sandbox instanceName : Option String) (config : Value) :
    ∃ later, Tidy crates store (fleet_step crates store f
      (.begin_run pid run_id session_id parent_run_id resumed_from_snapshot sandbox instanceName config)) later := by
  rw [fleet_step]
  split
  · next host serving fresh =>
    obtain ⟨begun, after, told, refused | granted⟩ := begin_run_told crates store host run_id
      session_id parent_run_id resumed_from_snapshot sandbox instanceName config f.world
    · obtain ⟨rfl, same⟩ := refused
      rw [told]
      exact ⟨events, tidy_same tidy same⟩
    · obtain ⟨rfl, grows⟩ := granted
      rw [told]
      have minted := tidy_mint tidy fresh (show f.procs pid ≠ .unborn by rw [serving]; simp)
      refine tidy_grows minted (fun detail => detail = _) ?_ ?_ ?_ ?_ grows
      · rintro detail rfl
        exact run_start_detail_plain crates run_id session_id parent_run_id resumed_from_snapshot sandbox instanceName config
      · rintro detail payload rfl _ parsed
        rw [parse_run_start_detail] at parsed
        cases parsed
        exact ⟨pid, Function.update_self _ _ _⟩
      · intro detail other _ same
        exact absurd same (by decide)
      · intro detail payload _ same
        exact absurd same (by decide)
  · exact ⟨events, tidy⟩

theorem tidy_finish_run (tidy : Tidy crates store f events) (pid : Nat) (run_id : String) (status : RunStatus)
    (reason : String) : ∃ later, Tidy crates store (fleet_step crates store f (.finish_run pid run_id status reason)) later := by
  rw [fleet_step]
  split
  · next host serving =>
    split_ifs with owned
    · refine tidy_grows tidy (fun detail => detail = run_end_detail run_id status reason) ?_ ?_ ?_ ?_
        (finish_run_told host run_id status reason f.world)
      · rintro detail rfl
        exact run_end_detail_plain run_id status reason
      · intro detail payload _ same
        exact absurd same (by decide)
      · intro detail other _ same
        exact absurd same (by decide)
      · rintro detail payload rfl _ parsed ⟨owner, other, gone⟩
        rw [parse_run_end_detail] at parsed
        cases parsed
        -- The process that ends the run is its owner, and is there.
        rw [owned] at other
        cases other
        rw [serving] at gone
        cases gone
    · exact ⟨events, tidy⟩
  · exact ⟨events, tidy⟩

theorem tidy_step {op : FleetOp} (tidy : ∃ events, Tidy crates store f events) (considerate : Considerate crates store f op) :
    ∃ events, Tidy crates store (fleet_step crates store f op) events := by
  obtain ⟨events, tidy⟩ := tidy
  cases op with
  | launch pid agent_id =>
    rw [fleet_step]
    split
    · next unborn => exact ⟨events, tidy_move tidy (by rw [unborn]; simp) (by simp) (by simp)⟩
    · exact ⟨events, tidy⟩
  | survey pid =>
    rw [fleet_step]
    split
    · next host starting =>
      have derive : store.derive_runs crates f.world = (.ok (derive_runs_from events), f.world) := by
        rw [AuditStore.derive_runs, AuditStore.all, bind_run, bind_run, AuditStore.scan, get_run]
        simp only [ofExcept_run, tidy.read, pure_run]
      rw [derive]
      refine ⟨events, tidy_move tidy (by rw [starting]; simp) (by simp) ?_⟩
      intro _ _ _ same
      cases same
      exact stale_deserted tidy starting considerate
    · exact ⟨events, tidy⟩
  | abandon pid => exact tidy_abandon tidy pid
  | settle pid =>
    rw [fleet_step]
    split
    · next host abandoned sweeping =>
      refine ⟨events, tidy_move (tidy_same tidy ?_) (by rw [sweeping]; simp) (by simp) (by simp)⟩
      split_ifs
      · exact rebuild_told f.world
      · rfl
    · exact ⟨events, tidy⟩
  | begin_run pid run_id session_id parent_run_id resumed_from_snapshot sandbox instanceName config =>
    exact tidy_begin_run tidy pid run_id session_id parent_run_id resumed_from_snapshot sandbox instanceName config
  | finish_run pid run_id status reason => exact tidy_finish_run tidy pid run_id status reason
  | exit pid =>
    rw [fleet_step]
    split
    · exact ⟨events, tidy⟩
    · by_cases there : f.procs pid = .gone
      · rw [Fleet.move, ← there, Function.update_eq_self]
        exact ⟨events, tidy⟩
      · exact ⟨events, tidy_move tidy there (by simp) (by simp)⟩
  | elsewhere world => exact ⟨events, tidy_same tidy (by rw [around_db])⟩

end

/-- Where every start finds the runs of the living that it could take for stale ended, whatever is abandoned was begun by a
    process that is gone, and nothing abandoned ends later. -/
theorem considerate_starts_abandon_the_dead (start : World) (new : start.disk store.path = none) (ops : List FleetOp)
    (considerate : Allowed (fleet_step crates store) (Considerate crates store) (.start start) ops) :
    let f := run (fleet_step crates store) (.start start) ops
    ∃ events, (f.world.rows store).mapM (RawRow.into_stored crates) = .ok events ∧
      (∀ stored ∈ events, ∀ run_id, Abandons run_id stored → ∃ pid, f.owner run_id = some pid ∧ ¬ (f.procs pid).Alive) ∧
      events.Pairwise fun first second => ∀ run_id, Abandons run_id first → ¬ Ends run_id second := by
  intro f
  have step : ∀ f op, (∃ events, Tidy crates store f events) → Considerate crates store f op →
      ∃ events, Tidy crates store (fleet_step crates store f op) events := fun _ _ => tidy_step
  have reached : ∃ events, Tidy crates store f events := run_keeps step ⟨[], tidy_start new⟩ considerate
  obtain ⟨events, tidy⟩ := reached
  refine ⟨events, tidy.read, ?_, tidy.order⟩
  intro stored inside run_id abandons
  obtain ⟨pid, owned, gone⟩ := tidy.abandoned stored inside run_id abandons
  refine ⟨pid, owned, ?_⟩
  rw [gone]
  exact id

/-! ### Two processes, the first gone or still there when the second starts -/

def shared_store : AuditStore := ⟨["data", "audit.db"]⟩

def first_start : List FleetOp :=
  [.launch 1 "agent", .survey 1, .settle 1, .begin_run 1 "run_1" none none none none none .null]

/-- The first process serves. -/
def first_serves (world : World) : Fleet :=
  ⟨world, Function.update (fun _ => .unborn) 1 (.serving ⟨"agent", 0⟩), Function.update (fun _ => none) "run_1" (some 1)⟩

/-- The first process serves, and its run stands alone on the chain. -/
theorem first_start_run :
    ∃ world stored, run (fleet_step crates shared_store) (.start blank_world) first_start = first_serves world ∧
      world.append_error = none ∧ (world.rows shared_store).mapM (RawRow.into_stored crates) = .ok [stored] ∧
      stored.id = 1 ∧ Starts "run_1" stored := by
  obtain ⟨after, begun, held⟩ := Host.begin_run_granted crates shared_store ⟨"agent", 0⟩ (w := blank_world) rfl rfl
    "run_1" none none none none none .null
  have launched : fleet_step crates shared_store (.start blank_world) (.launch 1 "agent") =
      (Fleet.start blank_world).move 1 (.starting ⟨"agent", 0⟩) := rfl
  have surveyed : fleet_step crates shared_store ((Fleet.start blank_world).move 1 (.starting ⟨"agent", 0⟩)) (.survey 1) =
      (Fleet.start blank_world).move 1 (.sweeping ⟨"agent", 0⟩ [] []) := by
    have derive : shared_store.derive_runs crates blank_world = (.ok ([], ⟨0, 0, 0, 0, 0⟩), blank_world) := rfl
    rw [fleet_step, move_procs]
    simp only [show ((Fleet.start blank_world).move 1 (.starting ⟨"agent", 0⟩)).world = blank_world from rfl, derive]
    simp [Fleet.move, Fleet.start]
  have settled : fleet_step crates shared_store ((Fleet.start blank_world).move 1 (.sweeping ⟨"agent", 0⟩ [] [])) (.settle 1) =
      (Fleet.start blank_world).move 1 (.serving ⟨"agent", 0⟩) := by
    rw [fleet_step, move_procs]
    simp [Fleet.move]
  obtain ⟨plain, shallow⟩ := run_start_detail_plain crates "run_1" none none none none none .null
  have parsed := parse_run_start_detail crates "run_1" none none none none none .null
  let event := Host.event ⟨"agent", 0⟩ [] ACTION_RUN_START
    (run_start_detail_with crates "run_1" none none none none none .null)
  have read := EventTable.row_of_stored crates EventTable.empty event plain shallow
  refine ⟨after, (EventTable.empty.append crates event).1, ?_, ?_, ?_, rfl, rfl, _, parsed, rfl⟩
  · rw [first_start, run_cons, launched, run_cons, surveyed, run_cons, settled, run_cons, run_nil, fleet_step]
    simp only [move_procs]
    have world : ((Fleet.start blank_world).move 1 (.serving ⟨"agent", 0⟩)).world = blank_world := rfl
    have owner : ((Fleet.start blank_world).move 1 (.serving ⟨"agent", 0⟩)).owner = fun _ => none := rfl
    simp only [world, owner, begun]
    rfl
  · have same := congrArg (fun result => result.2.append_error) begun
    rw [← same]
    rfl
  · rw [World.rows, held]
    exact decoded_iff.mpr (.cons read .nil)

/-- A process that starts beside one that serves its run takes that run for stale. -/
theorem second_start_run {world : World} {stored : StoredEvent}
    (read : (world.rows shared_store).mapM (RawRow.into_stored crates) = .ok [stored]) (starts : Starts "run_1" stored) :
    ∃ row, row.run_id = "run_1" ∧ run (fleet_step crates shared_store) (first_serves world) [.launch 2 "agent", .survey 2] =
      (first_serves world).move 2 (.sweeping ⟨"agent", stored.id⟩ [row] []) := by
  obtain ⟨action, payload, parsed, named⟩ := starts
  have newest : startup_seq crates shared_store world = stored.id := by
    rw [startup_seq, AuditStore.all, bind_run, AuditStore.scan, get_run]
    simp only [ofExcept_run, read]
    rfl
  have launched : fleet_step crates shared_store (first_serves world) (.launch 2 "agent") =
      (first_serves world).move 2 (.starting ⟨"agent", stored.id⟩) := by
    rw [← newest]
    rfl
  have rows : (derive_runs_from [stored]).1 = [.opened payload stored] := by
    rw [derive_runs_from_rows, List.foldl_cons, List.foldl_nil]
    exact row_step_start action parsed (by simp)
  have derive : shared_store.derive_runs crates world = (.ok (derive_runs_from [stored]), world) := by
    rw [AuditStore.derive_runs, AuditStore.all, bind_run, bind_run, AuditStore.scan, get_run]
    simp only [ofExcept_run, read, pure_run]
  have stale : [RunRecord.opened payload stored].filter (Host.stale ⟨"agent", stored.id⟩) = [.opened payload stored] := by
    simp [Host.stale, RunRecord.opened]
  refine ⟨.opened payload stored, named, ?_⟩
  rw [run_cons, launched, run_cons, run_nil, fleet_step, move_procs]
  simp only [show ((first_serves world).move 2 (.starting ⟨"agent", stored.id⟩)).world = world from rfl, derive, rows, stale]
  simp only [Fleet.move, Function.update_idem]
  rfl

/-- The second process starts once the first is gone, and abandons what that left. -/
theorem restart_abandons_the_dead :
    let ops := first_start ++ [.exit 1, .launch 2 "agent", .survey 2, .abandon 2]
    let f := run (fleet_step provisional_crates shared_store) (.start blank_world) ops
    ∃ events, (f.world.rows shared_store).mapM (RawRow.into_stored provisional_crates) = .ok events ∧
      (∀ stored ∈ events, ∀ run_id, Abandons run_id stored → ∃ pid, f.owner run_id = some pid ∧ ¬ (f.procs pid).Alive) ∧
      events.Pairwise fun first second => ∀ run_id, Abandons run_id first → ¬ Ends run_id second := by
  refine considerate_starts_abandon_the_dead provisional_crates shared_store blank_world rfl _ ?_
  rw [allowed_append]
  constructor
  · refine ⟨trivial, ?_, trivial, trivial, trivial⟩
    intro host events starting decoded run_id owner owned
    cases owned
  · obtain ⟨world, stored, served, _⟩ := first_start_run provisional_crates
    rw [served]
    refine ⟨trivial, trivial, ?_, trivial, trivial⟩
    intro host events starting decoded run_id owner owned alive
    have mine : Function.update (fun _ => none) "run_1" (some 1) run_id = some owner := owned
    by_cases same : run_id = "run_1"
    · rw [same, Function.update_self] at mine
      cases mine
      exact absurd alive (by simp [fleet_step, first_serves, Fleet.move, Process.Alive])
    · rw [Function.update_of_ne same] at mine
      cases mine

/-- A second process starts beside the first, and abandons the run that the first still runs. -/
theorem start_abandons_a_living_run : ¬ ∃ crates : Crates, ∀ (store : AuditStore) (start : World),
    start.disk store.path = none → ∀ ops : List FleetOp,
      let f := run (fleet_step crates store) (.start start) ops
      ∃ events, (f.world.rows store).mapM (RawRow.into_stored crates) = .ok events ∧
        (∀ stored ∈ events, ∀ run_id, Abandons run_id stored → ∃ pid, f.owner run_id = some pid ∧ ¬ (f.procs pid).Alive) ∧
        events.Pairwise fun first second => ∀ run_id, Abandons run_id first → ¬ Ends run_id second := by
  rintro ⟨crates, law⟩
  obtain ⟨world, stored, served, granted, read, _, starts⟩ := first_start_run crates
  obtain ⟨row, named, surveyed⟩ := second_start_run crates read starts
  let host : Host := ⟨"agent", stored.id⟩
  let event := host.event world.clock.tail ACTION_RUN_ABANDONED (abandoned_detail row.run_id (world.clock.headD 0))
  let after := world.stamped.stamped.append_spent.appended crates shared_store event
  have abandoned : fleet_step crates shared_store ((first_serves world).move 2 (.sweeping host [row] [])) (.abandon 2) =
      { first_serves world with world := after }.move 2 (.sweeping host [] [row.run_id]) := by
    rw [fleet_step, move_procs]
    simp only [show ((first_serves world).move 2 (.sweeping host [row] [])).world = world from rfl,
      abandon_one_granted crates shared_store host row granted]
    simp only [Fleet.move, Function.update_idem]
    rfl
  obtain ⟨plain, shallow⟩ := abandoned_detail_plain row.run_id (world.clock.headD 0)
  have last := EventTable.row_of_stored crates (world.db shared_store).audit_events event plain shallow
  have reread : (after.rows shared_store).mapM (RawRow.into_stored crates) =
      .ok ([stored] ++ [((world.db shared_store).audit_events.append crates event).1]) := by
    have held : (after.db shared_store).audit_events = ((world.db shared_store).audit_events.append crates event).2 := by
      simp only [after, World.appended, World.db_put_self]
      rfl
    rw [World.rows, held]
    exact decoded_append read (decoded_iff.mpr (.cons last .nil))
  obtain ⟨events, decoded, dead, _⟩ := law shared_store blank_world rfl
    (first_start ++ ([.launch 2 "agent", .survey 2] ++ [.abandon 2]))
  rw [run_append, served, run_append, surveyed, run_cons, run_nil, abandoned] at decoded dead
  cases reread.symm.trans decoded
  obtain ⟨pid, owned, gone⟩ := dead _ (List.mem_append_right _ (List.mem_singleton.mpr rfl)) "run_1" ⟨rfl, by
    rw [← named]
    exact text_at_json "run_id" _⟩
  have owner : pid = 1 := by
    have mine : Function.update (fun _ => none) "run_1" (some 1) "run_1" = some pid := owned
    rw [Function.update_self] at mine
    cases mine
    rfl
  subst owner
  exact gone trivial

end Riscdom.Audit
