import Mathlib.Data.List.Sort
import Riscdom.KeyedTable
import Riscdom.Machine
import Riscdom.Sessions
import Riscdom.Text

/-!
Whose a session is. Every session names the executor that made it; one from before
there were names is the node's own. The list and the clearing ask the database for
the sessions of an executor, the other operations look at the row themselves.
-/
namespace Riscdom.Sessions
open KeyedTable Json Fallible.Act Machine

/-! ### The database -/

structure SessionRow where
  id : String
  title : String
  created_at_ms : Int
  updated_at_ms : Int
  executor_id : Option String
deriving DecidableEq

/-- A session as the list shows it. -/
structure SessionMeta where
  id : String
  title : String
  created_at_ms : Int
  updated_at_ms : Int
  message_count : Nat
  executor_id : Option String
deriving DecidableEq

/-- The two tables, what the clock and the minting of ids will give, and how the statements to come are answered: an error
    or, where the list is spent, success. -/
structure SessionDb where
  sessions : Table SessionRow.id
  messages : List SessionMessage
  clock : List Int
  ids : List String
  answers : List (Option String)

abbrev DbAct (α : Type) : Type := Fallible.Act SessionDb String α

namespace SessionDb

def messages_of (db : SessionDb) (session_id : String) : List SessionMessage :=
  db.messages.filter fun row => row.session_id == session_id

def row_meta (db : SessionDb) (row : SessionRow) : SessionMeta :=
  ⟨row.id, row.title, row.created_at_ms, row.updated_at_ms, (db.messages_of row.id).length, row.executor_id⟩

def spent (db : SessionDb) : SessionDb := { db with answers := db.answers.tail }

/-- One statement, which is answered before it does anything. -/
def statement {α : Type} (effect : SessionDb → Except String α × SessionDb) : DbAct α := fun db =>
  match db.answers.headD none with
  | some message => (.error message, db.spent)
  | none => effect db.spent

def now_ms : DbAct Int := fun db => (.ok (db.clock.headD 0), { db with clock := db.clock.tail })
def new_session_id : DbAct String := fun db => (.ok (db.ids.headD ""), { db with ids := db.ids.tail })

/-- The condition of the queries that are about one executor. -/
def selects (executor : String) (include_unnamed : Bool) (row : SessionRow) : Bool :=
  row.executor_id == some executor || (include_unnamed && row.executor_id == none)

/-- A limit as the database takes it: one that does not fit is none. -/
def limited {α : Type} (limit : Nat) (rows : List α) : List α := if limit < 2 ^ 63 then rows.take limit else rows

/-- A row entered under an id that is free. -/
def insert (row : SessionRow) (db : SessionDb) : Except String String × SessionDb :=
  if (db.sessions.find row.id).isSome then (.error "UNIQUE constraint failed: sessions.id", db)
  else (.ok row.id, { db with sessions := db.sessions.replace row })

def create_session (title executor_id : String) : DbAct String := do
  let id ← new_session_id
  let now ← now_ms
  statement (insert ⟨id, title, now, now, some executor_id⟩)

def list_sessions (limit : Nat) (executor : String) (include_unnamed : Bool) : DbAct (List SessionMeta) :=
  statement fun db =>
    let rows := (db.sessions.rows.filter (selects executor include_unnamed)).mergeSort
      fun a b => b.updated_at_ms ≤ a.updated_at_ms
    (.ok ((limited limit rows).map db.row_meta), db)

/-- Any session, by its id. -/
def session (id : String) : DbAct (Option SessionMeta) :=
  statement fun db => (.ok ((db.sessions.find id).map db.row_meta), db)

def rename_session (id title : String) : DbAct Unit := do
  let now ← now_ms
  statement fun db => (.ok (), { db with
    sessions := db.sessions.update id (fun row => { row with title, updated_at_ms := now }) fun _ => rfl })

/-- The messages of a deleted session go with it. -/
def delete_session (id : String) : DbAct Unit :=
  statement fun db => (.ok (), { db with
    sessions := db.sessions.delete id
    messages := db.messages.filter fun row => row.session_id != id })

def load_messages (id : String) (limit : Nat) : DbAct (List SessionMessage) :=
  statement fun db => (.ok (limited limit (db.messages_of id).reverse).reverse, db)

def clear_all (executor : String) (include_unnamed : Bool) : DbAct Unit :=
  statement fun db =>
    let gone := (db.sessions.rows.filter (selects executor include_unnamed)).map SessionRow.id
    (.ok (), { db with
      sessions :=
        { rows := db.sessions.rows.filter fun row => !selects executor include_unnamed row
          distinct := (db.sessions.rows.filter_sublist.map SessionRow.id).nodup db.sessions.distinct }
      messages := db.messages.filter fun row => row.session_id ∉ gone })

end SessionDb

/-! ### The node -/

/-- The node's name, its database, the session that each executor is at, and the events it told of. -/
structure SessionDesk where
  device : String
  db : SessionDb
  current_session_id : String → Option String
  events : List (String × Value)

abbrev DeskAct (α : Type) : Type := Fallible.Act SessionDesk HostError α

/-- What the database does, its error as text. -/
def stored {α : Type} (x : DbAct α) : DeskAct α := fun s =>
  ((x s.db).1.mapError HostError.Other, { s with db := (x s.db).2 })

namespace SessionDesk

def emit_host (action : String) (detail : Value) : DeskAct Unit :=
  modify fun s => { s with events := s.events ++ [(action, detail)] }

def set_current (executor : String) (id : Option String) : DeskAct Unit :=
  modify fun s => { s with current_session_id := Function.update s.current_session_id executor id }

/-- The node's own executor answers for the rows that name none. -/
def owns_unnamed (s : SessionDesk) (executor : String) : Bool := executor == s.device

def session_event (session_id executor : String) : Value :=
  json [("session_id", .string session_id), ("executor", .string executor)]

def create_session (title executor : String) : DeskAct String := do
  let id ← stored (SessionDb.create_session title executor)
  set_current executor (some id)
  emit_host "host.session.create" (session_event id executor)
  return id

def list_sessions (limit : Nat) (executor : String) : DeskAct (List SessionMeta) := do
  let unnamed ← get fun s => s.owns_unnamed executor
  stored (SessionDb.list_sessions limit executor unnamed)

def session_belongs (session_id executor : String) : DeskAct Bool := do
  let owned ← stored (SessionDb.session session_id)
  let unnamed ← get fun s => s.owns_unnamed executor
  return match owned with
    | some found =>
      match found.executor_id with
      | some owner => owner == executor
      | none => unnamed
    | none => false

def open_session (session_id executor : String) : DeskAct (SessionMeta × List SessionMessage) := do
  let found ← stored (SessionDb.session session_id)
  let unnamed ← get fun s => s.owns_unnamed executor
  let own (found : SessionMeta) : Bool :=
    match found.executor_id with
    | some owner => owner == executor
    | none => unnamed
  match found.filter own with
  | none => fail (.Other "session not found")
  | some found =>
    let messages ← stored (SessionDb.load_messages session_id HISTORY_LIMIT)
    set_current executor (some session_id)
    emit_host "host.session.open" (session_event session_id executor)
    return (found, messages)

def rename_session (session_id title executor : String) : DeskAct Unit := do
  if ← session_belongs session_id executor then
    stored (SessionDb.rename_session session_id title)
    emit_host "host.session.rename" (session_event session_id executor)

def delete_session (session_id executor : String) : DeskAct Unit := do
  if ← session_belongs session_id executor then
    stored (SessionDb.delete_session session_id)
    let current ← get fun s => s.current_session_id executor
    if current = some session_id then set_current executor none
    emit_host "host.session.delete" (session_event session_id executor)

def clear_all_sessions (executor : String) : DeskAct Unit := do
  let unnamed ← get fun s => s.owns_unnamed executor
  stored (SessionDb.clear_all executor unnamed)
  set_current executor none
  emit_host "host.session.delete" (json [("all", .bool true), ("executor", .string executor)])

/-- The first sixty characters of what the user said. -/
def title_from (user_input : String) : String :=
  let title := String.ofList ((Text.trim user_input).toList.take 60)
  if title = "" then "新会话" else title

/-- The session an executor is at, where it still is one of its own; otherwise a new one. -/
def ensure_session (user_input executor : String) : DeskAct String := do
  let current ← get fun s => s.current_session_id executor
  match current with
  | none => create_session (title_from user_input) executor
  | some id =>
    if ← session_belongs id executor then return id
    else do
      set_current executor none
      create_session (title_from user_input) executor

end SessionDesk

inductive SessionOp
  | Create (title executor : String)
  | List (limit : Nat) (executor : String)
  | Open (session_id executor : String)
  | Rename (session_id title executor : String)
  | Delete (session_id executor : String)
  | Clear (executor : String)
  | Ensure (user_input executor : String)

/-- What an operation answers with: the id of a session, sessions, a session with its messages, or nothing. -/
inductive SessionAnswer
  | Session (id : String)
  | Listed (found : List SessionMeta)
  | Detail (found : SessionMeta) (messages : List SessionMessage)
  | Done

namespace SessionOp

def executor : SessionOp → String
  | Create _ executor => executor
  | List _ executor => executor
  | Open _ executor => executor
  | Rename _ _ executor => executor
  | Delete _ executor => executor
  | Clear executor => executor
  | Ensure _ executor => executor

def act : SessionOp → DeskAct SessionAnswer
  | Create title executor => return .Session (← SessionDesk.create_session title executor)
  | List limit executor => return .Listed (← SessionDesk.list_sessions limit executor)
  | Open session_id executor => do
    let (found, messages) ← SessionDesk.open_session session_id executor
    return .Detail found messages
  | Rename session_id title executor => do SessionDesk.rename_session session_id title executor; return .Done
  | Delete session_id executor => do SessionDesk.delete_session session_id executor; return .Done
  | Clear executor => do SessionDesk.clear_all_sessions executor; return .Done
  | Ensure user_input executor => return .Session (← SessionDesk.ensure_session user_input executor)

def step (s : SessionDesk) (op : SessionOp) : SessionDesk := (op.act s).2

end SessionOp

/-! ### Owners -/

/-- The executor that a session belongs to: a session that names none is the node's own. -/
def SessionRow.owner (device : String) (row : SessionRow) : String := row.executor_id.getD device

/-- The database's condition is the question of the owner. -/
theorem selects_iff {device executor : String} {row : SessionRow} :
    SessionDb.selects executor (executor == device) row = true ↔ row.owner device = executor := by
  unfold SessionDb.selects SessionRow.owner
  cases row.executor_id with
  | some owner => simp
  | none => simpa using eq_comm

/-- So is the test of a row that was looked up. -/
theorem belongs_iff {device executor : String} {db : SessionDb} {row : SessionRow} :
    (match (db.row_meta row).executor_id with
      | some owner => owner == executor
      | none => executor == device) = true ↔ row.owner device = executor := by
  unfold SessionDb.row_meta SessionRow.owner
  cases row.executor_id with
  | some owner => simp
  | none => simpa using eq_comm

/-- The sessions of the other executors stay as they are: their rows, their messages, and where the executors are at. -/
structure Spares (executor : String) (s t : SessionDesk) : Prop where
  device : t.device = s.device
  rows : ∀ row : SessionRow, row.owner s.device ≠ executor → (row ∈ t.db.sessions.rows ↔ row ∈ s.db.sessions.rows)
  messages : ∀ row ∈ s.db.sessions.rows, row.owner s.device ≠ executor → t.db.messages_of row.id = s.db.messages_of row.id
  current : ∀ other, other ≠ executor → t.current_session_id other = s.current_session_id other

/-- Nothing of the sessions changed. -/
structure Still (s t : SessionDesk) : Prop where
  device : t.device = s.device
  sessions : t.db.sessions = s.db.sessions
  messages : t.db.messages = s.db.messages
  current : t.current_session_id = s.current_session_id

theorem Still.refl (s : SessionDesk) : Still s s := ⟨rfl, rfl, rfl, rfl⟩
theorem still_told (s : SessionDesk) (events : List (String × Value)) : Still s { s with events } := ⟨rfl, rfl, rfl, rfl⟩

theorem Still.spares {s t : SessionDesk} (still : Still s t) (executor : String) : Spares executor s t where
  device := still.device
  rows row _ := by rw [still.sessions]
  messages row _ _ := by rw [SessionDb.messages_of, SessionDb.messages_of, still.messages]
  current other _ := by rw [still.current]

theorem Spares.trans {executor : String} {r s t : SessionDesk} (first : Spares executor r s) (second : Spares executor s t) :
    Spares executor r t where
  device := second.device.trans first.device
  rows row other := by
    have still_other : row.owner s.device ≠ executor := first.device ▸ other
    exact (second.rows row still_other).trans (first.rows row other)
  messages row inside other := by
    have still_other : row.owner s.device ≠ executor := first.device ▸ other
    exact (second.messages row ((first.rows row other).mpr inside) still_other).trans (first.messages row inside other)
  current other differs := (second.current other differs).trans (first.current other differs)

/-- A session of an executor. -/
def Owned (executor : String) (s : SessionDesk) (id : String) : Prop :=
  ∃ row ∈ s.db.sessions.rows, row.id = id ∧ row.owner s.device = executor

/-- An answer shows sessions of one executor alone. -/
def SessionAnswer.Of (executor : String) (t : SessionDesk) : SessionAnswer → Prop
  | .Session id => Owned executor t id
  | .Listed found => ∀ shown ∈ found, ∃ row ∈ t.db.sessions.rows, row.owner t.device = executor ∧ shown = t.db.row_meta row
  | .Detail found messages => ∃ row ∈ t.db.sessions.rows, row.owner t.device = executor ∧ found = t.db.row_meta row ∧
      ∀ message ∈ messages, message ∈ t.db.messages_of row.id
  | .Done => True

/-- The sessions that an answer shows, by their ids. -/
def SessionAnswer.ids : SessionAnswer → List String
  | .Session id => [id]
  | .Listed found => found.map SessionMeta.id
  | .Detail found _ => [found.id]
  | .Done => []

theorem SessionAnswer.Of.owned {executor : String} {t : SessionDesk} {answer : SessionAnswer} (own : answer.Of executor t)
    {id : String} (shown : id ∈ answer.ids) : Owned executor t id := by
  cases answer with
  | Session other =>
    obtain rfl := List.mem_singleton.mp shown
    exact own
  | Listed found =>
    obtain ⟨entry, inside, rfl⟩ := List.mem_map.mp shown
    obtain ⟨row, there, owner, rfl⟩ := own entry inside
    exact ⟨row, there, rfl, owner⟩
  | Detail found messages =>
    obtain rfl := List.mem_singleton.mp shown
    obtain ⟨row, there, owner, rfl, _⟩ := own
    exact ⟨row, there, rfl, owner⟩
  | Done => cases shown

/-- What an operation of an executor comes to: the others are spared, its own place is where it was, nowhere, or at a
    session of its own, and what it answers with is its own. -/
structure Isolated (executor : String) (s : SessionDesk) (result : Except HostError SessionAnswer) (t : SessionDesk) : Prop where
  spares : Spares executor s t
  place : t.current_session_id executor = s.current_session_id executor ∨ t.current_session_id executor = none ∨
    ∃ id, t.current_session_id executor = some id ∧ Owned executor t id
  answered : ∀ answer, result = .ok answer → answer.Of executor t

section Ends
variable {s : SessionDesk} {executor : String}

/-- A statement is refused, and everything stays, or has its effect. -/
theorem statement_ends {α : Type} {effect : SessionDb → Except String α × SessionDb}
    {post : Except HostError α → SessionDesk → Prop}
    (refused : ∀ message, post (.error (.Other message)) { s with db := s.db.spent })
    (done : post ((effect s.db.spent).1.mapError .Other) { s with db := (effect s.db.spent).2 }) :
    EndsIn (stored (SessionDb.statement effect)) s post := by
  unfold EndsIn stored SessionDb.statement
  cases s.db.answers.headD none with
  | some message => exact refused message
  | none => exact done

/-- A session looked up. -/
theorem session_ends (id : String) : EndsIn (stored (SessionDb.session id)) s fun result t => Still s t ∧
    ∀ found, result = .ok found → found = (t.db.sessions.find id).map t.db.row_meta := by
  refine statement_ends (fun message => ⟨⟨rfl, rfl, rfl, rfl⟩, nofun⟩) ⟨⟨rfl, rfl, rfl, rfl⟩, ?_⟩
  rintro found ⟨⟩
  rfl

/-- The question whether a session belongs to an executor. -/
theorem session_belongs_ends (id : String) : EndsIn (SessionDesk.session_belongs id executor) s fun result t =>
    Still s t ∧ (result = .ok true → Owned executor t id) := by
  refine ends_bind _ (session_ends id) (fun _ t facts => ⟨facts.1, nofun⟩) ?_
  rintro found t ⟨still, looked⟩
  refine ⟨still, fun belongs => ?_⟩
  have same := looked found rfl
  have yes := Except.ok.inj belongs
  rw [same] at yes
  cases there : t.db.sessions.find id with
  | none =>
    rw [there] at yes
    cases yes
  | some row =>
    rw [there] at yes
    obtain ⟨inside, named⟩ := Table.find_eq_some.mp there
    exact ⟨row, inside, named, belongs_iff.mp yes⟩

/-- Where the place of the executor alone changed, and the events. -/
theorem spares_current (id : Option String) (events : List (String × Value)) :
    Spares executor s
      { s with current_session_id := Function.update s.current_session_id executor id, events } where
  device := rfl
  rows _ _ := Iff.rfl
  messages _ _ _ := rfl
  current _ differs := Function.update_of_ne differs _ _

/-- A row put behind the others under an id that was free. -/
theorem mem_replace_new {table : Table SessionRow.id} {new : SessionRow} (free : table.find new.id = none) (row : SessionRow) :
    row ∈ (table.replace new).rows ↔ row ∈ table.rows ∨ row = new := by
  have absent := Table.find_eq_none.mp free
  simp only [Table.replace, Table.delete, List.mem_append, List.mem_filter, decide_eq_true_eq, List.mem_singleton]
  refine or_congr ⟨And.left, fun inside => ⟨inside, absent row inside⟩⟩ Iff.rfl

/-- A new row is the executor's. -/
theorem insert_ends (title : String) : EndsIn (stored (SessionDb.create_session title executor)) s fun result t =>
    Spares executor s t ∧ t.current_session_id = s.current_session_id ∧ ∀ id, result = .ok id → Owned executor t id := by
  let new : SessionRow := ⟨s.db.ids.headD "", title, s.db.clock.headD 0, s.db.clock.headD 0, some executor⟩
  let minted : SessionDesk := { s with db := { s.db with ids := s.db.ids.tail, clock := s.db.clock.tail } }
  change EndsIn (stored (SessionDb.statement (SessionDb.insert new))) minted fun result t =>
    Spares executor s t ∧ t.current_session_id = s.current_session_id ∧ ∀ id, result = .ok id → Owned executor t id
  have quiet : Still s { minted with db := minted.db.spent } := ⟨rfl, rfl, rfl, rfl⟩
  refine statement_ends ?_ ?_
  · exact fun message => ⟨quiet.spares executor, rfl, by rintro _ ⟨⟩⟩
  · unfold SessionDb.insert
    split_ifs with taken
    · exact ⟨quiet.spares executor, rfl, by rintro _ ⟨⟩⟩
    · have free : s.db.sessions.find new.id = none := Option.not_isSome_iff_eq_none.mp taken
      refine ⟨⟨rfl, fun row other => ?_, fun _ _ _ => rfl, fun _ _ => rfl⟩, rfl, ?_⟩
      · refine (mem_replace_new free row).trans (or_iff_left ?_)
        rintro rfl
        exact other rfl
      · rintro id ⟨⟩
        exact ⟨new, (mem_replace_new free new).mpr (.inr rfl), rfl, rfl⟩

/-- A new session is the executor's, and it is at it. -/
theorem create_session_ends (title : String) : EndsIn (SessionDesk.create_session title executor) s fun result t =>
    Spares executor s t ∧ (t.current_session_id executor = s.current_session_id executor ∨
        ∃ id, t.current_session_id executor = some id ∧ Owned executor t id) ∧
      ∀ id, result = .ok id → t.current_session_id executor = some id ∧ Owned executor t id := by
  refine ends_bind _ (insert_ends title) (fun _ t facts => ⟨facts.1, .inl (congrFun facts.2.1 executor), nofun⟩) ?_
  rintro id t ⟨spares, _, owned⟩
  have at_it : Function.update t.current_session_id executor (some id) executor = some id := Function.update_self ..
  have moved : Spares executor s
      { t with
        current_session_id := Function.update t.current_session_id executor (some id)
        events := t.events ++ [("host.session.create", SessionDesk.session_event id executor)] } :=
    spares.trans (spares_current (some id) _)
  refine ⟨moved, .inr ⟨id, at_it, owned id rfl⟩, ?_⟩
  rintro _ ⟨⟩
  exact ⟨at_it, owned id rfl⟩

/-- A session that is still there, or a new one, is the executor's, and it is at it. -/
theorem ensure_session_ends (user_input : String) :
    EndsIn (SessionDesk.ensure_session user_input executor) s fun result t =>
      Spares executor s t ∧ (t.current_session_id executor = s.current_session_id executor ∨
          t.current_session_id executor = none ∨ ∃ id, t.current_session_id executor = some id ∧ Owned executor t id) ∧
        ∀ id, result = .ok id → t.current_session_id executor = some id ∧ Owned executor t id := by
  have created (r : SessionDesk) (spares : Spares executor s r) (place : r.current_session_id executor = none) :
      EndsIn (SessionDesk.create_session (SessionDesk.title_from user_input) executor) r fun result t =>
        Spares executor s t ∧ (t.current_session_id executor = s.current_session_id executor ∨
          t.current_session_id executor = none ∨ ∃ id, t.current_session_id executor = some id ∧ Owned executor t id) ∧
        ∀ id, result = .ok id → t.current_session_id executor = some id ∧ Owned executor t id := by
    refine ends_mono (create_session_ends (SessionDesk.title_from user_input)) ?_
    rintro result t ⟨later, at_it, owned⟩
    refine ⟨spares.trans later, .inr ?_, owned⟩
    rcases at_it with same | new
    · exact .inl (same.trans place)
    · exact .inr new
  refine ends_bind (fun result t => t = s ∧ result = .ok (s.current_session_id executor)) ⟨rfl, rfl⟩ nofun ?_
  rintro current t ⟨rfl, same⟩
  have place := (Except.ok.inj same).symm
  cases current with
  | none => exact created t (Still.spares (.refl t) executor) place
  | some id =>
    refine ends_bind _ (session_belongs_ends id) (fun _ r facts => ?_) ?_
    · exact ⟨facts.1.spares executor, .inl (congrFun facts.1.current executor), nofun⟩
    · rintro own r ⟨still, belongs⟩
      cases own with
      | true =>
        have at_it : r.current_session_id executor = some id := (congrFun still.current executor).trans place
        refine ⟨still.spares executor, .inl (congrFun still.current executor), ?_⟩
        rintro _ ⟨⟩
        exact ⟨at_it, belongs rfl⟩
      | false =>
        have left : Spares executor t
            { r with current_session_id := Function.update r.current_session_id executor none, events := r.events } :=
          (still.spares executor).trans (spares_current none r.events)
        have last := created _ left (Function.update_self ..)
        exact last

/-- The rows that a list shows. -/
theorem list_sessions_ends (limit : Nat) : EndsIn (SessionDesk.list_sessions limit executor) s fun result t =>
    Still s t ∧ ∀ found, result = .ok found → SessionAnswer.Of executor t (.Listed found) := by
  refine ends_bind (fun result t => t = s ∧ result = .ok (executor == s.device)) ⟨rfl, rfl⟩ nofun ?_
  rintro unnamed r ⟨rfl, same⟩
  obtain rfl := Except.ok.inj same
  refine statement_ends (fun message => ⟨⟨rfl, rfl, rfl, rfl⟩, nofun⟩) ⟨⟨rfl, rfl, rfl, rfl⟩, ?_⟩
  rintro found ⟨⟩ shown inside
  obtain ⟨row, listed, rfl⟩ := List.mem_map.mp inside
  have sorted : row ∈ (r.db.sessions.rows.filter (SessionDb.selects executor (executor == r.device))).mergeSort
      fun a b => b.updated_at_ms ≤ a.updated_at_ms := by
    unfold SessionDb.limited at listed
    split_ifs at listed
    · exact List.mem_of_mem_take listed
    · exact listed
  obtain ⟨there, selected⟩ := List.mem_filter.mp (List.mem_mergeSort.mp sorted)
  exact ⟨row, there, selects_iff.mp selected, rfl⟩

/-- A session that is opened is the executor's, and it is at it. -/
theorem open_session_ends (id : String) : EndsIn (SessionDesk.open_session id executor) s fun result t =>
    Spares executor s t ∧ (t.current_session_id executor = s.current_session_id executor ∨
        ∃ id, t.current_session_id executor = some id ∧ Owned executor t id) ∧
      ∀ shown, result = .ok shown → SessionAnswer.Of executor t (.Detail shown.1 shown.2) := by
  have nothing {α : Type} {t : SessionDesk} (still : Still s t) (result : Except HostError α)
      (refused : ∀ a, result ≠ .ok a) (P : α → Prop) : Spares executor s t ∧
        (t.current_session_id executor = s.current_session_id executor ∨
          ∃ id, t.current_session_id executor = some id ∧ Owned executor t id) ∧ ∀ shown, result = .ok shown → P shown :=
    ⟨still.spares executor, .inl (congrFun still.current executor), fun shown same => absurd same (refused shown)⟩
  refine ends_bind _ (session_ends id) (fun _ t facts => nothing facts.1 _ nofun _) ?_
  rintro found t ⟨still, looked⟩
  obtain rfl := looked found rfl
  refine ends_bind (fun result r => r = t ∧ result = .ok (executor == t.device)) ⟨rfl, rfl⟩ nofun ?_
  rintro unnamed r ⟨rfl, same⟩
  obtain rfl := Except.ok.inj same
  cases there : r.db.sessions.find id with
  | none => exact nothing still _ nofun _
  | some row =>
    obtain ⟨inside, named⟩ := Table.find_eq_some.mp there
    simp only [Option.map_some, Option.filter_some]
    by_cases own : row.owner r.device = executor
    · rw [if_pos (belongs_iff.mpr own)]
      have loaded : EndsIn (stored (SessionDb.load_messages id HISTORY_LIMIT)) r fun result u => Still r u ∧
          ∀ messages, result = .ok messages → ∀ message ∈ messages, message ∈ r.db.messages_of id := by
        refine statement_ends (fun message => ⟨⟨rfl, rfl, rfl, rfl⟩, nofun⟩) ⟨⟨rfl, rfl, rfl, rfl⟩, ?_⟩
        rintro messages ⟨⟩ message held
        unfold SessionDb.limited at held
        split_ifs at held
        · exact List.mem_reverse.mp (List.mem_of_mem_take (List.mem_reverse.mp held))
        · exact List.mem_reverse.mp (List.mem_reverse.mp held)
      refine ends_bind _ loaded (fun _ u facts => ?_) ?_
      · exact nothing ⟨facts.1.device.trans still.device, facts.1.sessions.trans still.sessions,
          facts.1.messages.trans still.messages, facts.1.current.trans still.current⟩ _ nofun _
      · rintro messages u ⟨later, listed⟩
        have there : row ∈ u.db.sessions.rows := later.sessions ▸ inside
        have owner : row.owner u.device = executor := later.device ▸ own
        have at_it : Function.update u.current_session_id executor (some id) executor = some id := Function.update_self ..
        have moved : Spares executor s
            { u with
              current_session_id := Function.update u.current_session_id executor (some id)
              events := u.events ++ [("host.session.open", SessionDesk.session_event id executor)] } :=
          (still.spares executor).trans ((later.spares executor).trans (spares_current (some id) _))
        refine ⟨moved, .inr ⟨id, at_it, row, there, named, owner⟩, ?_⟩
        rintro _ ⟨⟩
        have same_messages (key : String) : u.db.messages_of key = r.db.messages_of key := by
          rw [SessionDb.messages_of, SessionDb.messages_of, later.messages]
        refine ⟨row, there, owner, ?_, fun message held => ?_⟩
        · show r.db.row_meta row = u.db.row_meta row
          rw [SessionDb.row_meta, SessionDb.row_meta, same_messages]
        · show message ∈ u.db.messages_of row.id
          rw [same_messages, named]
          exact listed messages rfl message held
    · rw [if_neg (mt belongs_iff.mp own)]
      exact nothing still _ nofun _

/-- A row of the executor's own rewritten. -/
theorem rename_row_ends (id title : String) (owned : Owned executor s id) :
    EndsIn (stored (SessionDb.rename_session id title)) s fun _ t =>
      Spares executor s t ∧ t.current_session_id = s.current_session_id := by
  obtain ⟨own, inside, named, owner⟩ := owned
  let timed : SessionDesk := { s with db := { s.db with clock := s.db.clock.tail } }
  let rewrite (row : SessionRow) : SessionRow := { row with title, updated_at_ms := s.db.clock.headD 0 }
  have quiet : Still s { timed with db := timed.db.spent } := ⟨rfl, rfl, rfl, rfl⟩
  have ends : EndsIn (stored (SessionDb.statement fun db => (.ok (), { db with
      sessions := db.sessions.update id rewrite fun _ => rfl }))) timed fun (_ : Except HostError Unit) t =>
      Spares executor s t ∧ t.current_session_id = s.current_session_id := by
    refine statement_ends (fun message => ⟨quiet.spares executor, rfl⟩) ⟨⟨rfl, ?_, fun _ _ _ => rfl, fun _ _ => rfl⟩, rfl⟩
    intro row other
    have apart (key : SessionRow) (there : key ∈ s.db.sessions.rows) (same : key.id = id) : key = own :=
      List.inj_on_of_nodup_map s.db.sessions.distinct there inside (same.trans named.symm)
    constructor
    · intro written
      obtain ⟨old, there, rfl⟩ := List.mem_map.mp written
      by_cases here : old.id = id
      · rw [if_pos here] at other
        exact absurd (apart old there here ▸ owner) other
      · rw [if_neg here]
        exact there
    · intro there
      refine List.mem_map.mpr ⟨row, there, if_neg fun here => other ?_⟩
      exact apart row there here ▸ owner
  exact ends

/-- A row of the executor's own deleted, and its messages with it. -/
theorem delete_row_ends (id : String) (owned : Owned executor s id) :
    EndsIn (stored (SessionDb.delete_session id)) s fun _ t =>
      Spares executor s t ∧ t.current_session_id = s.current_session_id := by
  obtain ⟨own, inside, named, owner⟩ := owned
  have quiet : Still s { s with db := s.db.spent } := ⟨rfl, rfl, rfl, rfl⟩
  have apart (row : SessionRow) (there : row ∈ s.db.sessions.rows) (other : row.owner s.device ≠ executor) : row.id ≠ id := by
    intro same
    rw [List.inj_on_of_nodup_map s.db.sessions.distinct there inside (same.trans named.symm)] at other
    exact other owner
  refine statement_ends (fun message => ⟨quiet.spares executor, rfl⟩) ⟨⟨rfl, ?_, ?_, fun _ _ => rfl⟩, rfl⟩
  · intro row other
    refine List.mem_filter.trans ⟨And.left, fun there => ⟨there, ?_⟩⟩
    simpa using apart row there other
  · intro row there other
    have kept : ∀ message ∈ s.db.messages, message.session_id == row.id → message.session_id != id := by
      intro message _ of_row
      rw [beq_iff_eq.mp of_row]
      simpa using apart row there other
    simp only [SessionDb.messages_of, SessionDb.spent, List.filter_filter]
    refine List.filter_congr fun message held => ?_
    cases of_row : message.session_id == row.id with
    | true => simp [kept message held of_row]
    | false => rfl

/-- The rows of an executor cleared, and their messages with them. -/
theorem clear_rows_ends :
    EndsIn (stored (SessionDb.clear_all executor (executor == s.device))) s fun _ t =>
      Spares executor s t ∧ t.current_session_id = s.current_session_id := by
  have quiet : Still s { s with db := s.db.spent } := ⟨rfl, rfl, rfl, rfl⟩
  refine statement_ends (fun message => ⟨quiet.spares executor, rfl⟩) ⟨⟨rfl, ?_, ?_, fun _ _ => rfl⟩, rfl⟩
  · intro row other
    refine List.mem_filter.trans ⟨And.left, fun there => ⟨there, ?_⟩⟩
    simpa using mt selects_iff.mp other
  · intro row there other
    simp only [SessionDb.messages_of, SessionDb.spent, List.filter_filter]
    refine List.filter_congr fun message _ => ?_
    cases of_row : message.session_id == row.id with
    | false => rfl
    | true =>
      rw [Bool.true_and, beq_iff_eq.mp of_row]
      refine decide_eq_true fun gone => ?_
      obtain ⟨cleared, selected, same⟩ := List.mem_map.mp gone
      obtain ⟨held, chosen⟩ := List.mem_filter.mp selected
      rw [List.inj_on_of_nodup_map s.db.sessions.distinct held there same] at chosen
      exact other (selects_iff.mp chosen)

/-! ### One operation -/

theorem rename_session_ends (id title : String) : EndsIn (SessionDesk.rename_session id title executor) s fun _ t =>
    Spares executor s t ∧ t.current_session_id executor = s.current_session_id executor := by
  refine ends_bind _ (session_belongs_ends id)
    (fun _ t facts => ⟨facts.1.spares executor, congrFun facts.1.current executor⟩) ?_
  rintro own t ⟨still, belongs⟩
  cases own with
  | false => exact ⟨still.spares executor, congrFun still.current executor⟩
  | true =>
    have renamed := rename_row_ends id title (belongs rfl)
    refine ends_bind (fun _ r => Spares executor s r ∧ r.current_session_id executor = s.current_session_id executor) ?_
      (fun _ _ facts => facts) fun _ r facts => ⟨facts.1.trans ((still_told r _).spares executor), facts.2⟩
    refine ends_mono renamed fun _ r facts => ⟨(still.spares executor).trans facts.1, ?_⟩
    rw [facts.2, still.current]

theorem delete_session_ends (id : String) : EndsIn (SessionDesk.delete_session id executor) s fun _ t =>
    Spares executor s t ∧ (t.current_session_id executor = s.current_session_id executor ∨
      t.current_session_id executor = none) := by
  refine ends_bind _ (session_belongs_ends id)
    (fun _ t facts => ⟨facts.1.spares executor, .inl (congrFun facts.1.current executor)⟩) ?_
  rintro own t ⟨still, belongs⟩
  cases own with
  | false => exact ⟨still.spares executor, .inl (congrFun still.current executor)⟩
  | true =>
    have deleted := delete_row_ends id (belongs rfl)
    refine ends_bind (fun _ r => Spares executor s r ∧ r.current_session_id executor = s.current_session_id executor) ?_
      (fun _ _ facts => ⟨facts.1, .inl facts.2⟩) ?_
    · refine ends_mono deleted fun _ r facts => ⟨(still.spares executor).trans facts.1, ?_⟩
      rw [facts.2, still.current]
    · rintro _ r ⟨spares, place⟩
      refine ends_bind (fun result u => u = r ∧ result = .ok (r.current_session_id executor)) ⟨rfl, rfl⟩ nofun ?_
      rintro current u ⟨rfl, same⟩
      have here := Except.ok.inj same
      by_cases at_it : current = some id
      · rw [if_pos at_it]
        exact ⟨spares.trans (spares_current none _), .inr (Function.update_self ..)⟩
      · rw [if_neg at_it]
        exact ⟨spares.trans ((still_told u _).spares executor), .inl place⟩

theorem clear_all_sessions_ends : EndsIn (SessionDesk.clear_all_sessions executor) s fun _ t =>
    Spares executor s t ∧ (t.current_session_id executor = s.current_session_id executor ∨
      t.current_session_id executor = none) := by
  refine ends_bind (fun result t => t = s ∧ result = .ok (executor == s.device)) ⟨rfl, rfl⟩ nofun ?_
  rintro unnamed r ⟨rfl, same⟩
  obtain rfl := Except.ok.inj same
  refine ends_bind _ (@clear_rows_ends r executor) (fun _ _ facts => ⟨facts.1, .inl (congrFun facts.2 executor)⟩) ?_
  rintro _ t ⟨spares, _⟩
  exact ⟨spares.trans (spares_current none _), .inr (Function.update_self ..)⟩

end Ends

/-- Every operation of an executor spares the others. -/
theorem SessionOp.isolated (s : SessionDesk) (op : SessionOp) : EndsIn op.act s (Isolated op.executor s) := by
  cases op with
  | Create title executor =>
    refine ends_bind _ (create_session_ends title) (fun _ t facts => ⟨facts.1, facts.2.1.imp_right .inr, nofun⟩) ?_
    rintro id t ⟨spares, place, owned⟩
    refine ⟨spares, place.imp_right .inr, ?_⟩
    rintro _ ⟨⟩
    exact (owned id rfl).2
  | List limit executor =>
    refine ends_bind _ (list_sessions_ends limit) (fun _ t facts => ⟨facts.1.spares executor, ?_, nofun⟩) ?_
    · exact .inl (congrFun facts.1.current executor)
    · rintro found t ⟨still, listed⟩
      refine ⟨still.spares executor, .inl (congrFun still.current executor), ?_⟩
      rintro _ ⟨⟩
      exact listed found rfl
  | Open id executor =>
    refine ends_bind _ (open_session_ends id) (fun _ t facts => ⟨facts.1, facts.2.1.imp_right .inr, nofun⟩) ?_
    rintro ⟨found, messages⟩ t ⟨spares, place, shown⟩
    refine ⟨spares, place.imp_right .inr, ?_⟩
    rintro _ ⟨⟩
    exact shown _ rfl
  | Rename id title executor =>
    refine ends_bind _ (rename_session_ends id title) (fun _ t facts => ⟨facts.1, .inl facts.2, nofun⟩) ?_
    rintro _ t ⟨spares, place⟩
    refine ⟨spares, .inl place, ?_⟩
    rintro _ ⟨⟩
    trivial
  | Delete id executor =>
    refine ends_bind _ (delete_session_ends id) (fun _ t facts => ⟨facts.1, facts.2.imp_right .inl, nofun⟩) ?_
    rintro _ t ⟨spares, place⟩
    refine ⟨spares, place.imp_right .inl, ?_⟩
    rintro _ ⟨⟩
    trivial
  | Clear executor =>
    refine ends_bind _ clear_all_sessions_ends (fun _ t facts => ⟨facts.1, facts.2.imp_right .inl, nofun⟩) ?_
    rintro _ t ⟨spares, place⟩
    refine ⟨spares, place.imp_right .inl, ?_⟩
    rintro _ ⟨⟩
    trivial
  | Ensure user_input executor =>
    refine ends_bind _ (ensure_session_ends user_input) (fun _ t facts => ⟨facts.1, facts.2.1, nofun⟩) ?_
    rintro id t ⟨spares, place, owned⟩
    refine ⟨spares, place, ?_⟩
    rintro _ ⟨⟩
    exact (owned id rfl).2

/-- A run of operations of other executors spares an executor: its rows, their messages, and its place. -/
theorem run_spared {executor : String} (s : SessionDesk) (ops : List SessionOp) (others : ∀ op ∈ ops, op.executor ≠ executor) :
    let t := run SessionOp.step s ops
    t.device = s.device ∧ t.current_session_id executor = s.current_session_id executor ∧
      ∀ row : SessionRow, row.owner s.device = executor → (row ∈ t.db.sessions.rows ↔ row ∈ s.db.sessions.rows) ∧
        (row ∈ s.db.sessions.rows → t.db.messages_of row.id = s.db.messages_of row.id) := by
  induction ops generalizing s with
  | nil => exact ⟨rfl, rfl, fun _ _ => ⟨Iff.rfl, fun _ => rfl⟩⟩
  | cons op ops ih =>
    have spares : Spares op.executor s (SessionOp.step s op) := (SessionOp.isolated s op).spares
    have other : executor ≠ op.executor := (others op List.mem_cons_self).symm
    obtain ⟨device, place, rows⟩ := ih (SessionOp.step s op) fun later inside => others later (List.mem_cons_of_mem _ inside)
    refine ⟨device.trans spares.device, place.trans (spares.current executor other), fun row owner => ?_⟩
    have apart : row.owner s.device ≠ op.executor := owner ▸ other
    obtain ⟨kept, messages⟩ := rows row (spares.device ▸ owner)
    refine ⟨kept.trans (spares.rows row apart), fun inside => ?_⟩
    exact (messages ((spares.rows row apart).mpr inside)).trans (spares.messages row inside apart)

/-- A session of another executor is still there after an operation, and was not shown. -/
theorem Isolated.unseen {executor : String} {s t : SessionDesk} {result : Except HostError SessionAnswer}
    (isolated : Isolated executor s result t) {row : SessionRow} (inside : row ∈ s.db.sessions.rows)
    (other : row.owner s.device ≠ executor) :
    row ∈ t.db.sessions.rows ∧ ∀ answer, result = .ok answer → row.id ∉ answer.ids := by
  have there := (isolated.spares.rows row other).mpr inside
  refine ⟨there, fun answer answered shown => ?_⟩
  obtain ⟨own, held, named, owner⟩ := (isolated.answered answer answered).owned shown
  rw [List.inj_on_of_nodup_map t.db.sessions.distinct held there named, isolated.spares.device] at owner
  exact other owner

/-- In every run of operations, each one answers with sessions of its own executor alone, changes no other's, and puts its
    executor at a session of its own if at any; one that names no executor is the node's own; and where a session is
    ensured, its executor is at it, and it is there and its own. What other executors do leaves an executor as it was. -/
theorem sessions_isolated (s : SessionDesk) (before : List SessionOp) (op : SessionOp) :
    let u := run SessionOp.step s before
    Isolated op.executor u (op.act u).1 (SessionOp.step u op) ∧
    (∀ row ∈ u.db.sessions.rows, row.owner u.device ≠ op.executor → row ∈ (SessionOp.step u op).db.sessions.rows ∧
      ∀ answer, (op.act u).1 = .ok answer → row.id ∉ answer.ids) ∧
    (∀ user_input executor id, op = .Ensure user_input executor → (op.act u).1 = .ok (.Session id) →
      (SessionOp.step u op).current_session_id executor = some id ∧ Owned executor (SessionOp.step u op) id) ∧
    ∀ executor, (∀ earlier ∈ before, earlier.executor ≠ executor) →
      u.current_session_id executor = s.current_session_id executor ∧
      ∀ row : SessionRow, row.owner s.device = executor → (row ∈ u.db.sessions.rows ↔ row ∈ s.db.sessions.rows) ∧
        (row ∈ s.db.sessions.rows → u.db.messages_of row.id = s.db.messages_of row.id) := by
  intro u
  have isolated : Isolated op.executor u (op.act u).1 (SessionOp.step u op) := SessionOp.isolated u op
  refine ⟨isolated, fun row inside other => isolated.unseen inside other, ?_, fun executor others => (run_spared s before others).2⟩
  rintro user_input executor id rfl answered
  have ends := @ensure_session_ends u executor user_input
  have ensured : EndsIn (SessionOp.act (.Ensure user_input executor)) u fun result t =>
      ∀ id, result = .ok (.Session id) → t.current_session_id executor = some id ∧ Owned executor t id := by
    refine ends_bind _ ends (fun _ t _ => nofun) ?_
    rintro id t ⟨_, _, owned⟩
    rintro _ ⟨⟩
    exact owned id rfl
  exact ensured id answered

end Riscdom.Sessions
