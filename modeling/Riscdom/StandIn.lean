import Riscdom.SegmentLife
import Riscdom.SegmentStream
import Riscdom.Suppression

/-!
The segment of a stand-in. The ticker opens it when the node stands in, holds it,
and closes it when the centre is back; the phase it belongs to is the machine's,
which a takeover heard of changes without asking for the segment.
-/
namespace Riscdom.Audit
open Riscdom.Json Riscdom.KeyedTable Fallible.Act

/-! ### Opening and closing, by the rows of the table -/

section Table
variable {crates : Crates} {store : AuditStore} {w : World}

theorem append_segment (crates : Crates) (store : AuditStore) (event : AuditEvent) (w : World) (segment_id : String) :
    (store.append crates event w).2.segment store segment_id = w.segment store segment_id := by
  cases outcome : w.append_error with
  | none =>
    rw [AuditStore.append_granted crates store outcome, World.segment, World.appended, World.db_put_self]
    rfl
  | some error =>
    rw [AuditStore.append_refused crates store outcome]
    rfl

theorem last_id_append (events : EventTable) (event : AuditEvent) : (events.append crates event).2.last_id ≠ none := by
  rw [EventTable.last_id, EventTable.append_rows, List.getLast?_append]
  simp

/-- A row that is inserted under a free name stands there, if it could be written. -/
theorem insert_segment_absent {segment : Segment} (absent : w.segment store segment.segment_id = none) :
    store.insert_segment segment w =
      store.execute (fun db => { db with segments := db.segments.replace segment }) w := by
  rw [World.segment] at absent
  have looked : store.segment segment.segment_id w = (.ok none, w) := by rw [AuditStore.segment, get_run, absent]
  rw [AuditStore.insert_segment, bind_of_ok looked, if_neg (by simp)]

/-- An opening that fails leaves no row behind: its event is taken, or its row is not written, or is taken back. -/
def LeavesNone (w : World) : Prop := w.append_error = none ∨ w.updates.headD none ≠ none ∨ w.updates.tail.headD none = none

/-- What an opening leaves in the table: the new row, or what was there. A row whose event was refused stays only where
    it could not be taken back. -/
def OpeningLeft (store : AuditStore) (v : World) (result : Except AuditError Segment) (w : World) : Prop :=
  match result with
  | .ok segment => segment.kind = .Temporary ∧ segment.state = .Open ∧ v.segment store segment.segment_id = none ∧
    (w.db store).audit_events.last_id ≠ none ∧
    ∀ other, w.segment store other = if other = segment.segment_id then some segment else v.segment store other
  | .error _ => LeavesNone v → ∀ other, w.segment store other = v.segment store other

/-- The part of an opening that writes: the row, its event, and the row taken back where the event was refused. -/
theorem write_opening_left {segment : Segment} (kind : segment.kind = .Temporary) (state : segment.state = .Open)
    (absent : w.segment store segment.segment_id = none) :
    EndsIn (do
      store.insert_segment segment
      match ← attempt (store.append crates (.new (← now_ms) "host" ACTION_SEGMENT_OPENED (segment_opened_detail segment))) with
      | .ok _ => return segment
      | .error error =>
        store.execute fun db => { db with segments := db.segments.delete segment.segment_id }
        fail error : Act Segment) w (OpeningLeft store w) := by
  rw [EndsIn, bind_run, insert_segment_absent absent]
  cases inserted : w.updates.headD none with
  | some error =>
    rw [AuditStore.execute_refused store inserted]
    exact fun _ _ => rfl
  | none =>
    rw [AuditStore.execute_granted store inserted]
    let written : World := { w with updates := w.updates.tail }.put store
      { w.db store with segments := (w.db store).segments.replace segment }
    have there (other : String) : written.segment store other =
        if other = segment.segment_id then some segment else w.segment store other := by
      rw [World.segment, World.db_put_self]
      exact Table.find_replace _ _ _
    have tick : now_ms written = (.ok (w.clock.headD 0), { written with clock := w.clock.tail }) := rfl
    simp only
    rw [bind_of_ok tick]
    generalize AuditEvent.new (w.clock.headD 0) "host" ACTION_SEGMENT_OPENED (segment_opened_detail segment) = event
    let ready : World := { written with clock := w.clock.tail }
    have rows := append_segment crates store event ready
    rw [bind_of_ok (attempt_run _ _)]
    cases outcome : w.append_error with
    | none =>
      have appended := AuditStore.append_granted crates store (show ready.append_error = none from outcome) event
      rw [appended] at rows ⊢
      refine ⟨kind, state, absent, ?_, fun other => (rows other).trans (there other)⟩
      show ((World.appended _ crates store event).db store).audit_events.last_id ≠ none
      rw [World.appended, World.db_put_self]
      exact last_id_append _ event
    | some error =>
      have appended := AuditStore.append_refused crates store (show ready.append_error = some error from outcome) event
      rw [appended]
      -- The event was refused: the row is taken back, if it can be.
      simp only
      cases deleted : w.updates.tail.headD none with
      | some refusal =>
        rw [bind_of_error (AuditStore.execute_refused store (show ready.append_spent.updates.headD none = _ from deleted) _)]
        intro granted
        rw [LeavesNone, outcome, inserted, deleted] at granted
        simp at granted
      | none =>
        have taken := AuditStore.execute_granted store (show ready.append_spent.updates.headD none = _ from deleted)
          fun db => { db with segments := db.segments.delete segment.segment_id }
        rw [bind_of_ok taken]
        intro _ other
        show (World.put _ store _).segment store other = _
        rw [World.segment, World.db_put_self, Table.find_delete]
        by_cases named : other = segment.segment_id
        · rw [if_pos named, named, absent]
        · rw [if_neg named]
          exact (there other).trans (if_neg named)

theorem open_segment_left (crates : Crates) (store : AuditStore) (owner : Option String) (w : World) :
    EndsIn (store.open_segment_inner crates .Temporary owner) w (OpeningLeft store w) := by
  have tick : now_ms w = (.ok (w.clock.headD 0), { w with clock := w.clock.tail }) := rfl
  rw [EndsIn, AuditStore.open_segment_inner, bind_of_ok tick]
  cases given : AuditStore.free_id (w.db store).segments (w.clock.headD 0) owner with
  | error error =>
    have run : store.free_segment_id (w.clock.headD 0) owner { w with clock := w.clock.tail } = (.error error, { w with clock := w.clock.tail }) := by
      rw [AuditStore.free_segment_id, bind_run, AuditStore.read, get_run]
      simp only [show ({ w with clock := w.clock.tail } : World).db store = w.db store from rfl, given, ofExcept_run]
    rw [bind_of_error run]
    exact fun _ _ => rfl
  | ok id =>
    have run : store.free_segment_id (w.clock.headD 0) owner { w with clock := w.clock.tail } = (.ok id, { w with clock := w.clock.tail }) := by
      rw [AuditStore.free_segment_id, bind_run, AuditStore.read, get_run]
      simp only [show ({ w with clock := w.clock.tail } : World).db store = w.db store from rfl, given, ofExcept_run]
    rw [bind_of_ok run]
    exact write_opening_left rfl rfl (free_id_absent given)

/-- A close whose row can be written, and whose event is taken, leaves the row closed and the others as they were. -/
theorem close_segment_left (crates : Crates) {segment_id : String} {row : Segment} (found : w.segment store segment_id = some row)
    (written : w.updates.headD none = none) (taken : w.append_error = none) :
    (∃ closed, (store.close_segment crates segment_id w).1 = .ok closed) ∧
      ∃ closed : Segment, closed.state = .Closed ∧ ∀ other, (store.close_segment crates segment_id w).2.segment store other =
        if other = segment_id then some closed else w.segment store other := by
  have looked : store.segment segment_id w = (.ok (some row), w) := by
    rw [World.segment] at found
    rw [AuditStore.segment, get_run, found]
  let ticked : World := { w with clock := w.clock.tail }
  have tick : now_ms w = (.ok (w.clock.headD 0), ticked) := rfl
  have mark := AuditStore.update_segment_granted store (w := ticked) written segment_id
    (fun s => { s with state := .Closed, closed_at_ms := some (w.clock.headD 0) }) fun _ => rfl
  rw [AuditStore.close_segment, bind_of_ok looked]
  simp only
  rw [bind_of_ok tick, AuditStore.set_segment_state, bind_of_ok mark]
  generalize marked : World.put _ store _ = closed
  have there (other : String) : closed.segment store other = if other = segment_id then
      some { row with state := .Closed, closed_at_ms := some (w.clock.headD 0) } else w.segment store other := by
    rw [← marked, World.segment, World.db_put_self, Table.find_update]
    split_ifs with named
    · rw [named, show (ticked.db store).segments.find segment_id = some row from found]
      rfl
    · rfl
  have answers : closed.append_error = none := by
    rw [← marked]
    exact taken
  have second : now_ms closed = (.ok (closed.clock.headD 0), { closed with clock := closed.clock.tail }) := rfl
  rw [bind_of_ok second, bind_of_ok (attempt_run _ _)]
  generalize AuditEvent.new (closed.clock.headD 0) "host" ACTION_SEGMENT_CLOSED _ = event
  have rows := append_segment crates store event { closed with clock := closed.clock.tail }
  have appended := AuditStore.append_granted crates store (w := { closed with clock := closed.clock.tail }) answers event
  rw [appended] at rows ⊢
  exact ⟨⟨_, rfl⟩, _, rfl, fun other => (rows other).trans (there other)⟩

end Table

end Riscdom.Audit

namespace Riscdom.Core
open Riscdom.Json Riscdom.Audit Riscdom.Net Riscdom.Machine Fallible.Act

/-! ### The ticker -/

/-- What a node that watches its centre needs. The frames it sends to its peers and to the server are left out. -/
structure CentreWatch where
  crates : Crates
  store : AuditStore
  agent_id : String
  me : String
  centre : String
  peers : List String

namespace CentreWatch
variable (watch : CentreWatch)

def record_host_event (action : String) (detail : Value) : Audit.Act Unit := do
  let event := (AuditEvent.new (← now_ms) "host" action detail).with_agent watch.agent_id
  let _ ← attempt (watch.store.append watch.crates event)
  return ()

/-- A segment opened, if it could be, and the id of its opening event. -/
def open_temporary_segment : Audit.Act (Option StandingSegment) := do
  match ← attempt (watch.store.open_segment_for watch.crates .Temporary watch.me) with
  | .error _ => return none
  | .ok segment =>
    let opened_id ← watch.store.last_id
    return opened_id.map fun opened_id => ⟨segment.segment_id, opened_id⟩

def declare_takeover (now : Int64) : Audit.Act (Option StandingSegment) := do
  match ← watch.open_temporary_segment with
  | none => return none
  | some standing =>
    watch.record_host_event "host.connection.takeover_declared" (json [("segment_id", .string standing.id),
      ("centre", .string watch.centre), ("by", .string watch.me), ("at_ms", .integer now.toInt)])
    return some standing

/-- The segment closed, if it can be, and a row that tells so. What is then delivered is left out. -/
def close_standing_segment (standing : StandingSegment) (now : Int64) : Audit.Act Unit := do
  match ← attempt (watch.store.close_segment watch.crates standing.id) with
  | .error _ => return ()
  | .ok _ =>
    if (← watch.store.last_id).isNone then return ()
    watch.record_host_event "host.connection.centre_returned" (json [("segment_id", .string standing.id),
      ("centre", .string watch.centre), ("at_ms", .integer now.toInt)])

end CentreWatch

/-- The ticker of a node: the machine, the segment held, and the files. -/
structure Ticker where
  machine : Suppression
  standing : Option StandingSegment
  world : World

/-- What one turn of the ticker finds: a takeover heard of since the last one, whether the centre answers, where that is
    known, the witnesses, and the time. -/
structure Tick where
  heard : Option Int64
  reachable : Option Bool
  witnesses : WitnessTable
  online : String → Bool
  now : Int64

namespace Ticker
variable (watch : CentreWatch) (ticker : Ticker)

/-- A takeover that was heard of makes the node stand down; one that had stood in tells so. -/
def hear (heard : Option Int64) : Ticker :=
  match heard with
  | none => ticker
  | some heard =>
    let world :=
      if ticker.machine.phase = .StandingIn then
        (watch.record_host_event "host.connection.stood_down"
          (json [("centre", .string watch.centre), ("at_ms", .integer heard.toInt)]) ticker.world).2
      else ticker.world
    { ticker with machine := ticker.machine.stand_down heard, world }

/-- What the machine makes of the centre's answer, and of the witnesses while it asks for them. -/
def watched (machine : Suppression) (tick : Tick) (reachable : Bool) : Suppression :=
  let machine := machine.observe tick.now reachable
  if machine.phase = .Confirming then (machine.confirm tick.now tick.witnesses watch.centre tick.online).2 else machine

/-- Whether the node stands in: first in line, and past its backoff. -/
def stands_in (machine : Suppression) (now : Int64) : Bool :=
  is_first_in_line watch.me watch.peers && (machine.maybe_stand_in now).1

def react_to_centre (tick : Tick) (reachable : Bool) : Ticker :=
  let returned : Ticker :=
    match reachable, ticker.machine.phase, ticker.standing with
    | true, .StandingIn, some standing =>
      { ticker with standing := none, world := (watch.close_standing_segment standing tick.now ticker.world).2 }
    | _, _, _ => ticker
  let machine := watched watch returned.machine tick reachable
  if stands_in watch machine tick.now then
    let (standing, world) := watch.declare_takeover tick.now returned.world
    { machine := (machine.maybe_stand_in tick.now).2, standing := standing.toOption.join, world }
  else { returned with machine }

def tick (turn : Tick) : Ticker :=
  let ticker := ticker.hear watch turn.heard
  match turn.reachable with
  | none => ticker
  | some reachable => ticker.react_to_centre watch turn reachable

def start (watch : CentreWatch) (now : Int64) (world : World) : Ticker := ⟨.new watch.me now, none, world⟩

end Ticker

/-! ### What a turn leaves in the table -/

section Rows
variable (watch : CentreWatch) {w : World}

/-- The row of a temporary segment stands open. -/
def OpenIn (store : AuditStore) (id : String) (w : World) : Prop :=
  ∃ row, w.segment store id = some row ∧ row.kind = .Temporary ∧ row.state = .Open

theorem record_host_event_left (action : String) (detail : Value) (segment_id : String) :
    (watch.record_host_event action detail w).2.segment watch.store segment_id = w.segment watch.store segment_id := by
  have tick : Audit.now_ms w = (.ok (w.clock.headD 0), { w with clock := w.clock.tail }) := rfl
  rw [CentreWatch.record_host_event, bind_of_ok tick, bind_of_ok (attempt_run _ _)]
  exact append_segment watch.crates watch.store _ _ segment_id

/-- After a close that the store takes, the row of the segment is closed, if there is one, and the others are as before. -/
theorem close_standing_left (standing : StandingSegment) (now : Int64) (written : w.updates.headD none = none)
    (taken : w.append_error = none) :
    ((watch.close_standing_segment standing now w).2.segment watch.store standing.id).map Segment.state =
        (w.segment watch.store standing.id).map (fun _ => .Closed) ∧
      ∀ other, other ≠ standing.id →
        (watch.close_standing_segment standing now w).2.segment watch.store other = w.segment watch.store other := by
  rw [CentreWatch.close_standing_segment, bind_of_ok (attempt_run _ _)]
  cases found : w.segment watch.store standing.id with
  | none =>
    have looked : watch.store.segment standing.id w = (.ok none, w) := by
      rw [World.segment] at found
      rw [AuditStore.segment, get_run, found]
    rw [AuditStore.close_segment, bind_of_ok looked]
    exact ⟨congrArg _ found, fun _ _ => rfl⟩
  | some row =>
    obtain ⟨⟨segment, ended⟩, closed, state, rows⟩ := close_segment_left watch.crates found written taken
    rw [ended]
    generalize (watch.store.close_segment watch.crates standing.id w).2 = after at rows
    have told (v : World) (same : ∀ other, v.segment watch.store other = after.segment watch.store other) :
        (v.segment watch.store standing.id).map Segment.state = (some row).map (fun _ => SegmentState.Closed) ∧
          ∀ other, other ≠ standing.id → v.segment watch.store other = w.segment watch.store other := by
      constructor
      · rw [same, rows, if_pos rfl, Option.map_some, state]
        rfl
      · intro other named
        rw [same, rows, if_neg named]
    simp only
    have newest : watch.store.last_id after = (.ok (after.db watch.store).audit_events.last_id, after) := rfl
    rw [bind_of_ok newest]
    split_ifs
    · exact told after fun _ => rfl
    · exact told _ fun other => record_host_event_left _ _ _ other

/-- What standing in leaves in the table: what was there, or also the row of the segment that is then held. -/
def TakeoverLeft (store : AuditStore) (v : World) (standing : Option StandingSegment) (w : World) : Prop :=
  match standing with
  | none => ∀ other, w.segment store other = v.segment store other
  | some held => OpenIn store held.id w ∧ v.segment store held.id = none ∧
    ∀ other, other ≠ held.id → w.segment store other = v.segment store other

theorem open_temporary_left (kept : LeavesNone w) :
    ∃ standing after, watch.open_temporary_segment w = (.ok standing, after) ∧ TakeoverLeft watch.store w standing after := by
  have left := open_segment_left watch.crates watch.store (some watch.me) w
  rw [CentreWatch.open_temporary_segment, AuditStore.open_segment_for, bind_of_ok (attempt_run _ _)]
  rw [EndsIn] at left
  generalize watch.store.open_segment_inner watch.crates .Temporary (some watch.me) w = opening at left ⊢
  obtain ⟨result, after⟩ := opening
  cases result with
  | error error => exact ⟨none, after, rfl, left kept⟩
  | ok segment =>
    obtain ⟨kind, state, absent, newest, rows⟩ := left
    obtain ⟨opened_id, last⟩ := Option.ne_none_iff_exists'.mp newest
    refine ⟨some ⟨segment.segment_id, opened_id⟩, after, ?_, ⟨segment, ?_, kind, state⟩, absent, ?_⟩
    · have read : watch.store.last_id after = (.ok (some opened_id), after) := by
        rw [AuditStore.last_id, get_run, last]
      simp only
      rw [bind_of_ok read]
      rfl
    · rw [rows, if_pos rfl]
    · intro other named
      rw [rows, if_neg named]

theorem declare_takeover_left (now : Int64) (kept : LeavesNone w) :
    ∃ standing after, watch.declare_takeover now w = (.ok standing, after) ∧ TakeoverLeft watch.store w standing after := by
  obtain ⟨standing, opened, run, left⟩ := open_temporary_left watch kept
  rw [CentreWatch.declare_takeover, bind_of_ok run]
  cases standing with
  | none => exact ⟨none, opened, rfl, left⟩
  | some held =>
    obtain ⟨⟨row, found, temporary⟩, absent, rows⟩ := left
    refine ⟨some held, _, rfl, ⟨row, ?_, temporary⟩, absent, fun other named => ?_⟩
    · exact (record_host_event_left _ _ _ held.id).trans found
    · exact (record_host_event_left _ _ _ other).trans (rows other named)

end Rows

/-! ### What a run of the ticker keeps -/

namespace Ticker
variable (watch : CentreWatch)

/-- A segment that was opened since the start, and stands open. -/
def Opened (start : World) (ticker : Ticker) (id : String) : Prop :=
  start.segment watch.store id = none ∧ OpenIn watch.store id ticker.world

/-- The open segment is the one the ticker holds, and it holds one only while it stands in. -/
structure Attended (start : World) (ticker : Ticker) : Prop where
  held : ∀ id, ticker.Opened watch start id → ∃ standing, ticker.standing = some standing ∧ standing.id = id
  stands : ticker.standing ≠ none → ticker.machine.phase = .StandingIn

/-- The store takes the close of the segment held when the centre is back, and an opening leaves no row without its
    event. -/
def Answered (ticker : Ticker) (turn : Tick) (reachable : Bool) : Prop :=
  (reachable = true → ticker.machine.phase = .StandingIn → ticker.standing ≠ none →
    ticker.world.updates.headD none = none ∧ ticker.world.append_error = none) ∧
  (stands_in watch (watched watch ticker.machine turn reachable) turn.now = true → LeavesNone ticker.world)

/-- No takeover is heard of while a segment is held, and the store answers what the turn then asks of it. -/
def Steady (ticker : Ticker) (turn : Tick) : Prop :=
  (turn.heard ≠ none → ticker.machine.phase = .StandingIn → ticker.standing = none) ∧
    ∀ reachable, turn.reachable = some reachable → Answered watch (ticker.hear watch turn.heard) turn reachable

variable {watch} {start : World} {ticker : Ticker} {turn : Tick}

theorem observe_standing (machine : Suppression) (now : Int64) (standing : machine.phase = .StandingIn) :
    machine.observe now false = machine := by
  rw [Suppression.observe, if_neg (by decide), standing]

/-- Only a node that stands in, and finds the centre still gone, stands in after that. -/
theorem watched_standing {machine : Suppression} (standing : machine.phase = .StandingIn) :
    watched watch machine turn false = machine := by
  rw [watched, observe_standing machine turn.now standing]
  simp [standing]

theorem watched_present (machine : Suppression) : (watched watch machine turn true).phase = .Candidate := by
  simp [watched, Suppression.observe]

theorem backing_off_of_stands_in {machine : Suppression} {now : Int64} (stands : stands_in watch machine now = true) :
    machine.phase = .BackingOff ∧ (machine.maybe_stand_in now).2.phase = .StandingIn := by
  rw [stands_in, Bool.and_eq_true] at stands
  have entered := stands.2
  rw [Suppression.maybe_stand_in] at entered ⊢
  split_ifs at entered ⊢ with early
  exact ⟨by simpa using (not_or.mp early).1, rfl⟩

theorem hear_attended (attended : Attended watch start ticker) (heard : Option Int64)
    (quiet : heard ≠ none → ticker.machine.phase = .StandingIn → ticker.standing = none) :
    Attended watch start (ticker.hear watch heard) := by
  cases heard with
  | none => exact attended
  | some moment =>
    have empty : ticker.standing = none := by
      by_contra held
      exact held (quiet (by simp) (attended.stands held))
    have rows (id : String) : (ticker.hear watch (some moment)).world.segment watch.store id =
        ticker.world.segment watch.store id := by
      simp only [hear]
      split_ifs
      · exact record_host_event_left _ _ _ id
      · rfl
    refine ⟨?_, fun held => absurd empty held⟩
    rintro id ⟨fresh, row, found, temporary⟩
    exact attended.held id ⟨fresh, row, (rows id).symm.trans found, temporary⟩

/-- The centre is back while a segment is held: the turn closes it. -/
theorem react_returned {standing : StandingSegment} (phase : ticker.machine.phase = .StandingIn)
    (held : ticker.standing = some standing) :
    ticker.react_to_centre watch turn true =
      { machine := watched watch ticker.machine turn true, standing := none,
        world := (watch.close_standing_segment standing turn.now ticker.world).2 } := by
  have idle : stands_in watch (watched watch ticker.machine turn true) turn.now = false := by
    by_contra stands
    have backing := (backing_off_of_stands_in (Bool.eq_true_of_not_eq_false stands)).1
    rw [watched_present] at backing
    cases backing
  simp only [react_to_centre, phase, held, idle]
  rfl

/-- Any other turn closes nothing, and may stand in. -/
theorem react_otherwise {reachable : Bool}
    (other : reachable = true → ticker.machine.phase = .StandingIn → ticker.standing = none) :
    ticker.react_to_centre watch turn reachable =
      if stands_in watch (watched watch ticker.machine turn reachable) turn.now then
        { machine := ((watched watch ticker.machine turn reachable).maybe_stand_in turn.now).2
          standing := (watch.declare_takeover turn.now ticker.world).1.toOption.join
          world := (watch.declare_takeover turn.now ticker.world).2 }
      else { ticker with machine := watched watch ticker.machine turn reachable } := by
  unfold react_to_centre
  split
  · next phase held =>
    rw [other rfl phase] at held
    cases held
  · rfl

theorem react_attended {reachable : Bool} (attended : Attended watch start ticker)
    (answered : Answered watch ticker turn reachable) :
    Attended watch start (ticker.react_to_centre watch turn reachable) := by
  by_cases back : reachable = true ∧ ticker.machine.phase = .StandingIn ∧ ticker.standing ≠ none
  · obtain ⟨rfl, phase, held⟩ := back
    obtain ⟨written, taken⟩ := answered.1 rfl phase held
    obtain ⟨standing, held⟩ := Option.ne_none_iff_exists'.mp held
    obtain ⟨closed, rows⟩ := close_standing_left watch standing turn.now written taken
    rw [react_returned phase held]
    refine ⟨?_, fun some => absurd rfl some⟩
    rintro id ⟨fresh, row, found, kind, state⟩
    by_cases own : id = standing.id
    · subst own
      rw [found] at closed
      cases before : ticker.world.segment watch.store standing.id with
      | none => simp [before] at closed
      | some old => simp [before, state] at closed
    · obtain ⟨other, same, named⟩ := attended.held id ⟨fresh, row, (rows id own).symm.trans found, kind, state⟩
      rw [held] at same
      cases same
      exact absurd named.symm own
  · have otherwise : reachable = true → ticker.machine.phase = .StandingIn → ticker.standing = none := by
      intro present phase
      by_contra held
      exact back ⟨present, phase, held⟩
    rw [react_otherwise otherwise]
    split_ifs with stands
    · obtain ⟨backing, entered⟩ := backing_off_of_stands_in stands
      have empty : ticker.standing = none := by
        by_contra held
        have phase := attended.stands held
        cases reachable with
        | true => exact held (otherwise rfl phase)
        | false =>
          rw [watched_standing phase, phase] at backing
          cases backing
      have unopened (id : String) : ¬ ticker.Opened watch start id := by
        intro opened
        obtain ⟨standing, held, -⟩ := attended.held id opened
        rw [empty] at held
        cases held
      obtain ⟨standing, after, run, left⟩ := declare_takeover_left watch turn.now (answered.2 stands)
      rw [run]
      refine ⟨?_, fun _ => entered⟩
      rintro id ⟨fresh, row, found, temporary⟩
      cases standing with
      | none => exact absurd ⟨fresh, row, (left id).symm.trans found, temporary⟩ (unopened id)
      | some held =>
        by_cases own : id = held.id
        · exact ⟨held, rfl, own.symm⟩
        · exact absurd ⟨fresh, row, (left.2.2 id own).symm.trans found, temporary⟩ (unopened id)
    · refine ⟨attended.held, fun held => ?_⟩
      have phase := attended.stands held
      cases reachable with
      | true => exact absurd (otherwise rfl phase) held
      | false =>
        rw [watched_standing phase]
        exact phase

theorem tick_attended (attended : Attended watch start ticker) (steady : Steady watch ticker turn) :
    Attended watch start (ticker.tick watch turn) := by
  have heard := hear_attended attended turn.heard steady.1
  rw [tick]
  cases answer : turn.reachable with
  | none => exact heard
  | some reachable => exact react_attended heard (steady.2 reachable answer)

/-- A turn that leaves the stand-in closes the segment that was open. -/
theorem tick_closes (attended : Attended watch start ticker) (steady : Steady watch ticker turn) {id : String}
    (opened : ticker.Opened watch start id) (left : (ticker.tick watch turn).machine.phase ≠ .StandingIn) :
    ∃ row, (ticker.tick watch turn).world.segment watch.store id = some row ∧ row.state = .Closed := by
  obtain ⟨standing, held, rfl⟩ := attended.held id opened
  have phase : ticker.machine.phase = .StandingIn := attended.stands (by simp [held])
  have unheard : turn.heard = none := by
    by_contra heard
    rw [steady.1 heard phase] at held
    cases held
  rw [tick, unheard, show ticker.hear watch none = ticker from rfl] at left ⊢
  cases answer : turn.reachable with
  | none =>
    rw [answer] at left
    exact absurd phase left
  | some reachable =>
    rw [answer] at left
    simp only at left ⊢
    have answered := steady.2 reachable answer
    rw [unheard] at answered
    cases reachable with
    | false =>
      -- The centre is still gone, so the machine stays where it is.
      rw [react_otherwise (by simp), watched_standing phase] at left
      split_ifs at left with stands
      · rw [(backing_off_of_stands_in stands).2] at left
        exact absurd rfl left
      · exact absurd phase left
    | true =>
      obtain ⟨written, taken⟩ := answered.1 rfl phase (by simp [show (ticker.hear watch none).standing = _ from held])
      rw [react_returned phase held]
      obtain ⟨closed, -⟩ := close_standing_left watch standing turn.now written taken
      obtain ⟨-, row, found, -⟩ := opened
      rw [show (ticker.hear watch none).world = ticker.world from rfl, found] at closed
      obtain ⟨after, there, state⟩ := Option.map_eq_some_iff.mp closed
      exact ⟨after, there, state⟩

/-- While no takeover is heard of with a segment held, and the store answers, at most one segment opened since the start
    stands open, only while the node stands in, and it is closed when that ends. -/
theorem stand_in_attended (watch : CentreWatch) (now : Int64) (start : World) (turns : List Tick)
    (steady : Allowed (tick watch) (Steady watch) (.start watch now start) turns) :
    (∀ first second, (run (tick watch) (.start watch now start) turns).Opened watch start first →
      (run (tick watch) (.start watch now start) turns).Opened watch start second → first = second) ∧
    (∀ id, (run (tick watch) (.start watch now start) turns).Opened watch start id →
      (run (tick watch) (.start watch now start) turns).machine.phase = .StandingIn) ∧
    ∀ earlier turn later, turns = earlier ++ turn :: later →
      ∀ id, (run (tick watch) (.start watch now start) earlier).Opened watch start id →
        (run (tick watch) (.start watch now start) (earlier ++ [turn])).machine.phase ≠ .StandingIn →
          ∃ row, (run (tick watch) (.start watch now start) (earlier ++ [turn])).world.segment watch.store id = some row ∧
            row.state = .Closed := by
  have begun : Attended watch start (.start watch now start) := by
    refine ⟨?_, fun held => absurd rfl held⟩
    rintro id ⟨fresh, row, found, -⟩
    rw [show (Ticker.start watch now start).world = start from rfl, fresh] at found
    cases found
  have reached := run_keeps (fun _ _ attended steady => tick_attended attended steady) begun steady
  refine ⟨?_, ?_, ?_⟩
  · intro first second one other
    obtain ⟨standing, held, rfl⟩ := reached.held first one
    obtain ⟨same, holds, rfl⟩ := reached.held second other
    rw [held] at holds
    cases holds
    rfl
  · intro id opened
    obtain ⟨standing, held, -⟩ := reached.held id opened
    exact reached.stands (by simp [held])
  · rintro earlier turn later rfl id opened left
    obtain ⟨before, first, -⟩ := (allowed_append _ _ _).mp steady
    rw [run_append, run_cons, run_nil] at left ⊢
    exact tick_closes (run_keeps (fun _ _ attended steady => tick_attended attended steady) begun before) first opened left

/-! ### A takeover heard of while standing in -/

/-- A node that is alone in line. -/
def lone_watch : CentreWatch where
  crates := provisional_crates
  store := ⟨["data", "audit.db"]⟩
  agent_id := "agent-1"
  me := "dev-a"
  centre := "centre"
  peers := []

/-- A turn that finds the centre gone, with one witness who says so. -/
def gone (now : Int64) : Tick := ⟨none, some false, Suppression.lost_centre, fun _ => true, now⟩

/-- Two misses a minute apart, the second confirmed, and the turn after the backoff. -/
def stood_in : List Tick := [gone 1700000000000, gone 1700000060000, gone 1700000090000]

/-- The machine before the last of these turns. -/
def backed_off : Suppression :=
  watched lone_watch (watched lone_watch (.new "dev-a" 1700000000000) (gone 1700000000000) false) (gone 1700000060000) false

theorem backed_off_run :
    run (tick lone_watch) (.start lone_watch 1700000000000 blank_world) [gone 1700000000000, gone 1700000060000] =
      ⟨backed_off, none, blank_world⟩ := by
  have early : stands_in lone_watch (watched lone_watch (.new "dev-a" 1700000000000) (gone 1700000000000) false)
      1700000000000 = false := by decide
  have late : stands_in lone_watch backed_off 1700000060000 = false := by decide
  have idle : Ticker.react_to_centre lone_watch ⟨.new "dev-a" 1700000000000, none, blank_world⟩ (gone 1700000000000) false =
      ⟨watched lone_watch (.new "dev-a" 1700000000000) (gone 1700000000000) false, none, blank_world⟩ :=
    (react_otherwise (by simp)).trans (if_neg (ne_true_of_eq_false early))
  have confirmed : Ticker.react_to_centre lone_watch
      ⟨watched lone_watch (.new "dev-a" 1700000000000) (gone 1700000000000) false, none, blank_world⟩ (gone 1700000060000)
      false = ⟨backed_off, none, blank_world⟩ :=
    (react_otherwise (by simp)).trans (if_neg (ne_true_of_eq_false late))
  rw [run_cons, run_cons, run_nil]
  exact (congrArg (tick lone_watch · (gone 1700000060000)) idle).trans confirmed

/-- The turn after the backoff stands in, and the segment it opens is held. -/
theorem stood_in_run : run (tick lone_watch) (.start lone_watch 1700000000000 blank_world) stood_in =
    { machine := ((watched lone_watch backed_off (gone 1700000090000) false).maybe_stand_in 1700000090000).2
      standing := (lone_watch.declare_takeover 1700000090000 blank_world).1.toOption.join
      world := (lone_watch.declare_takeover 1700000090000 blank_world).2 } := by
  have stands : stands_in lone_watch (watched lone_watch backed_off (gone 1700000090000) false) 1700000090000 = true := by decide
  rw [stood_in, show [gone 1700000000000, gone 1700000060000, gone 1700000090000] =
    [gone 1700000000000, gone 1700000060000] ++ [gone 1700000090000] from rfl, run_append, backed_off_run, run_cons, run_nil]
  have stood : Ticker.react_to_centre lone_watch ⟨backed_off, none, blank_world⟩ (gone 1700000090000) false = _ :=
    (react_otherwise (by simp)).trans (if_pos stands)
  exact stood

/-- The centre is back after the stand-in, and the store takes what it is given. -/
def came_back : List Tick := stood_in ++ [{ gone 1700000091000 with reachable := some true }]

theorem came_back_attended : ¬ ∃ id,
    (run (tick lone_watch) (.start lone_watch 1700000000000 blank_world) came_back).Opened lone_watch blank_world id ∧
    (run (tick lone_watch) (.start lone_watch 1700000000000 blank_world) came_back).machine.phase ≠ .StandingIn := by
  have patient (ticker : Ticker) (now : Int64) (free : ticker.world.append_error = none) :
      Steady lone_watch ticker (gone now) := by
    refine ⟨fun heard => absurd rfl heard, fun reachable known => ?_⟩
    cases known
    exact ⟨nofun, fun _ => .inl free⟩
  rintro ⟨id, opened, away⟩
  refine away ((stand_in_attended lone_watch 1700000000000 blank_world came_back ?_).2.1 id opened)
  rw [came_back, allowed_append, stood_in_run]
  refine ⟨?_, ⟨fun heard => absurd rfl heard, fun _ _ => .intro (fun _ _ _ => ⟨rfl, rfl⟩) fun _ => .inl rfl⟩, trivial⟩
  rw [stood_in, show [gone 1700000000000, gone 1700000060000, gone 1700000090000] =
    [gone 1700000000000, gone 1700000060000] ++ [gone 1700000090000] from rfl, allowed_append, backed_off_run]
  exact ⟨⟨patient _ _ rfl, patient _ _ rfl, trivial⟩, patient _ _ rfl, trivial⟩

theorem stood_in_opened : ∃ id, (run (tick lone_watch) (.start lone_watch 1700000000000 blank_world) stood_in).Opened
    lone_watch blank_world id := by
  have opens : ∃ held, (lone_watch.declare_takeover 1700000090000 blank_world).1 = .ok (some held) := ⟨_, rfl⟩
  obtain ⟨held, opens⟩ := opens
  obtain ⟨standing, after, declared, left⟩ := @declare_takeover_left lone_watch blank_world 1700000090000 (.inl rfl)
  rw [declared] at opens
  cases opens
  refine ⟨held.id, rfl, ?_⟩
  rw [stood_in_run, declared]
  exact left.1

/-- Once more, and a takeover is heard of: the node is a candidate again, and its segment stands open. -/
theorem heard_leaves_open : ∃ id,
    (run (tick lone_watch) (.start lone_watch 1700000000000 blank_world)
      (stood_in ++ [{ gone 1700000091000 with heard := some 1700000091000, reachable := none }])).Opened lone_watch blank_world id ∧
    (run (tick lone_watch) (.start lone_watch 1700000000000 blank_world)
      (stood_in ++ [{ gone 1700000091000 with heard := some 1700000091000, reachable := none }])).machine.phase ≠ .StandingIn := by
  obtain ⟨id, fresh, row, found, temporary⟩ := stood_in_opened
  rw [run_append, run_cons, run_nil]
  generalize run (tick lone_watch) (.start lone_watch 1700000000000 blank_world) stood_in = ticker at found
  refine ⟨id, ⟨fresh, row, ?_, temporary⟩, ?_⟩
  · simp only [tick, hear]
    split_ifs
    · exact (record_host_event_left _ _ _ id).trans found
    · exact found
  · simp [tick, hear, Suppression.stand_down]

end Ticker

end Riscdom.Core
