import Mathlib.Data.Int.Interval
import Riscdom.RunExport

/-!
The listing of events as a query: its text and its positional arguments grow in
step, each clause takes its own arguments when the query runs, and what is left
for the limit is the limit. A reader pages through the events of a filter with
the id of the last one it got.
-/
namespace Riscdom.Audit

/-! ### The query -/

inductive Arg
  | Text (text : String)
  | Integer (n : Int)
deriving DecidableEq

inductive Clause
  | Actor
  | ActionPrefix
  | FromMs
  | ToMs
  | FromId
  | ToId

namespace Clause

def text : Clause → String
  | .Actor => "actor = ?"
  | .ActionPrefix => "substr(action, 1, ?) = ?"
  | .FromMs => "timestamp_ms >= ?"
  | .ToMs => "timestamp_ms <= ?"
  | .FromId => "id >= ?"
  | .ToId => "id <= ?"

/-- How many arguments a clause takes. -/
def places : Clause → Nat
  | .ActionPrefix => 2
  | _ => 1

/-- The first characters of a text, which holds no NUL: SQLite counts none behind one. -/
def substr (text : String) (n : Int) : String := .ofList (text.toList.take n.toNat)

/-- What the clause says of a row with the arguments at its places, and the arguments after them. -/
def eval (row : RawRow) : Clause → List Arg → Option (Bool × List Arg)
  | .Actor, .Text actor :: rest => some (row.actor == actor, rest)
  | .ActionPrefix, .Integer n :: .Text start :: rest => some (substr row.action n == start, rest)
  | .FromMs, .Integer n :: rest => some (decide (n ≤ row.timestamp_ms), rest)
  | .ToMs, .Integer n :: rest => some (decide (row.timestamp_ms ≤ n), rest)
  | .FromId, .Integer n :: rest => some (decide (n ≤ row.id), rest)
  | .ToId, .Integer n :: rest => some (decide (row.id ≤ n), rest)
  | _, _ => none

/-- All clauses, one after another. -/
def eval_all (row : RawRow) : List Clause → List Arg → Option (Bool × List Arg)
  | [], args => some (true, args)
  | clause :: rest, args => do
    let (one, args) ← clause.eval row args
    let (others, args) ← eval_all row rest args
    return (one && others, args)

end Clause

structure Query where
  clauses : List Clause
  args : List Arg
  descending : Bool

namespace Query

def push (q : Query) (clause : Clause) (args : List Arg) : Query :=
  { q with clauses := q.clauses ++ [clause], args := q.args ++ args }

/-- A bound the filter has or has not. -/
def bound {α : Type} (q : Query) (value : Option α) (clause : Clause) (args : α → List Arg) : Query :=
  match value with
  | some value => q.push clause (args value)
  | none => q

def SELECT_COLUMNS : String := "id, timestamp_ms, actor, action, detail_json, prev_hash, hash, agent_id"

def sql (q : Query) : String :=
  "SELECT " ++ SELECT_COLUMNS ++ " FROM audit_events" ++
    (if q.clauses.isEmpty then "" else " WHERE " ++ " AND ".intercalate (q.clauses.map Clause.text)) ++
    (if q.descending then " ORDER BY id DESC LIMIT ?" else " ORDER BY id ASC LIMIT ?")

end Query

def EventFilter.query (filter : EventFilter) : Query :=
  Query.mk [] [] filter.descending
    |>.bound filter.actor .Actor (fun actor => [.Text actor])
    |>.bound filter.action_prefix .ActionPrefix (fun start => [.Integer start.length, .Text start])
    |>.bound filter.from_ms .FromMs (fun n => [.Integer n])
    |>.bound filter.to_ms .ToMs (fun n => [.Integer n])
    |>.bound filter.from_id .FromId (fun n => [.Integer n])
    |>.bound filter.to_id .ToId (fun n => [.Integer n])

namespace EventTable
variable (crates : Crates) (table : EventTable)

/-- The rows a query selects, by id: those of which every clause holds, so many as the argument after the clauses' allows. -/
def select (q : Query) : List RawRow :=
  let selected := table.rows.filter fun row => (Clause.eval_all row q.clauses q.args).any fun read => read.1
  let ordered := if q.descending then selected.reverse else selected
  match q.args.drop (q.clauses.map Clause.places).sum with
  | [.Integer limit] => if limit < 0 then ordered else ordered.take limit.toNat
  | _ => []

/-- The limit as a signed number is the last argument. -/
def query_list (filter : EventFilter) (limit : UInt64) : Except AuditError (List StoredEvent) :=
  let q := filter.query
  (table.select { q with args := q.args ++ [.Integer limit.toInt64.toInt] }).mapM (RawRow.into_stored crates)

end EventTable

/-! ### What a filter asks for -/

namespace EventFilter

/-- Every bound that the filter has holds of the row, the prefix taken by characters. -/
structure Matches (filter : EventFilter) (row : RawRow) : Prop where
  actor : ∀ actor, filter.actor = some actor → row.actor = actor
  action_prefix : ∀ start, filter.action_prefix = some start → start.toList <+: row.action.toList
  from_ms : ∀ n, filter.from_ms = some n → n ≤ row.timestamp_ms
  to_ms : ∀ n, filter.to_ms = some n → row.timestamp_ms ≤ n
  from_id : ∀ n, filter.from_id = some n → n ≤ row.id
  to_id : ∀ n, filter.to_id = some n → row.id ≤ n

theorem all_iff {α : Type} (bound : Option α) (p : α → Bool) : bound.all p = true ↔ ∀ value, bound = some value → p value := by
  cases bound with
  | none => simp
  | some value => simp

theorem selects_iff (filter : EventFilter) (row : RawRow) : filter.selects row = true ↔ filter.Matches row := by
  have starts (start : String) :
      (row.action.toList.take start.length == start.toList) = true ↔ start.toList <+: row.action.toList := by
    rw [beq_iff_eq, List.prefix_iff_eq_take, String.length_toList]
    exact eq_comm
  simp only [selects, Bool.and_eq_true, all_iff, starts, beq_iff_eq, decide_eq_true_eq]
  constructor
  · rintro ⟨⟨⟨⟨⟨actor, action_prefix⟩, from_ms⟩, to_ms⟩, from_id⟩, to_id⟩
    exact ⟨actor, action_prefix, from_ms, to_ms, from_id, to_id⟩
  · rintro ⟨actor, action_prefix, from_ms, to_ms, from_id, to_id⟩
    exact ⟨⟨⟨⟨⟨actor, action_prefix⟩, from_ms⟩, to_ms⟩, from_id⟩, to_id⟩

instance (filter : EventFilter) (row : RawRow) : Decidable (filter.Matches row) :=
  decidable_of_iff (filter.selects row = true) (filter.selects_iff row)

/-- One row stands before another in the order the filter asks for. -/
def Before (filter : EventFilter) (r s : RawRow) : Prop := if filter.descending then s.id < r.id else r.id < s.id

instance (filter : EventFilter) (r s : RawRow) : Decidable (filter.Before r s) := by
  unfold Before
  infer_instance

/-- The same filter for what comes after the event at an id. -/
def past (filter : EventFilter) (id : Int) : EventFilter :=
  if filter.descending then { filter with to_id := some (id - 1) } else { filter with from_id := some (id + 1) }

end EventFilter

/-! ### The query runs as the filter asks -/

namespace Query

/-- With whatever arguments follow, the clauses say this of a row and leave those. -/
structure Tells (q : Query) (p : RawRow → Bool) : Prop where
  places : (q.clauses.map Clause.places).sum = q.args.length
  read : ∀ row more, Clause.eval_all row q.clauses (q.args ++ more) = some (p row, more)

theorem eval_all_append (row : RawRow) (first second : List Clause) (args : List Arg) :
    Clause.eval_all row (first ++ second) args = do
      let (one, args) ← Clause.eval_all row first args
      let (others, args) ← Clause.eval_all row second args
      return (one && others, args) := by
  induction first generalizing args with
  | nil =>
    rw [List.nil_append]
    cases read : Clause.eval_all row second args <;> simp [Clause.eval_all, read]
  | cons clause rest ih =>
    rw [List.cons_append, Clause.eval_all, Clause.eval_all]
    cases clause.eval row args with
    | none => rfl
    | some read =>
      simp only [Option.bind_eq_bind, Option.bind_some, ih]
      cases Clause.eval_all row rest read.2 with
      | none => rfl
      | some later =>
        simp only [Option.bind_some, Option.pure_def]
        cases Clause.eval_all row second later.2 with
        | none => rfl
        | some last => simp [Bool.and_assoc]

theorem Tells.bound {q : Query} {p : RawRow → Bool} {α : Type} (tells : q.Tells p) (value : Option α) (clause : Clause)
    (args : α → List Arg) (test : α → RawRow → Bool) (length : ∀ a, (args a).length = clause.places)
    (tested : ∀ a row more, clause.eval row (args a ++ more) = some (test a row, more)) :
    (q.bound value clause args).Tells fun row => p row && value.all (test · row) := by
  cases value with
  | none => simpa [Query.bound] using tells
  | some a =>
    refine ⟨?_, fun row more => ?_⟩
    · simp [Query.bound, push, tells.places, length]
    · simp only [Query.bound, push, List.append_assoc]
      rw [eval_all_append, tells.read row]
      simp [Clause.eval_all, tested]

theorem count_text (clause : Clause) : clause.text.toList.count '?' = clause.places := by
  cases clause <;> decide

theorem count_clauses (clauses : List Clause) :
    (" AND ".intercalate (clauses.map Clause.text)).toList.count '?' = (clauses.map Clause.places).sum := by
  rw [String.toList_intercalate]
  induction clauses with
  | nil => rfl
  | cons clause rest ih =>
    cases rest with
    | nil => simp [List.intercalate_singleton, count_text]
    | cons next rest =>
      simp only [List.map_cons, List.intercalate_cons_cons, List.count_append, count_text, List.sum_cons] at ih ⊢
      rw [ih, show (" AND ".toList).count '?' = 0 by decide, Nat.add_zero]

/-- The text has a place for each argument of its clauses, and one for the limit. -/
theorem count_sql (q : Query) : q.sql.toList.count '?' = (q.clauses.map Clause.places).sum + 1 := by
  have before : ("SELECT " ++ SELECT_COLUMNS ++ " FROM audit_events").toList.count '?' = 0 := by decide
  have order : (if q.descending then " ORDER BY id DESC LIMIT ?" else " ORDER BY id ASC LIMIT ?").toList.count '?' = 1 := by
    cases q.descending <;> decide
  rw [sql, String.toList_append, String.toList_append, List.count_append, List.count_append, before, order]
  cases empty : q.clauses with
  | nil => simp
  | cons clause rest =>
    rw [← empty, if_neg (by simp [empty]), String.toList_append, List.count_append, count_clauses]
    simp

end Query

theorem query_tells (filter : EventFilter) : filter.query.Tells filter.selects := by
  have empty : (Query.mk [] [] filter.descending).Tells fun _ => true := ⟨rfl, fun row more => rfl⟩
  have all := empty
    |>.bound filter.actor .Actor (fun actor => [.Text actor]) (fun actor row => row.actor == actor) (fun _ => rfl) (fun _ _ _ => rfl)
    |>.bound filter.action_prefix .ActionPrefix (fun start => [.Integer start.length, .Text start])
      (fun start row => Clause.substr row.action start.length == start) (fun _ => rfl) (fun _ _ _ => rfl)
    |>.bound filter.from_ms .FromMs (fun n => [.Integer n]) (fun n row => decide (n ≤ row.timestamp_ms)) (fun _ => rfl) (fun _ _ _ => rfl)
    |>.bound filter.to_ms .ToMs (fun n => [.Integer n]) (fun n row => decide (row.timestamp_ms ≤ n)) (fun _ => rfl) (fun _ _ _ => rfl)
    |>.bound filter.from_id .FromId (fun n => [.Integer n]) (fun n row => decide (n ≤ row.id)) (fun _ => rfl) (fun _ _ _ => rfl)
    |>.bound filter.to_id .ToId (fun n => [.Integer n]) (fun n row => decide (row.id ≤ n)) (fun _ => rfl) (fun _ _ _ => rfl)
  have substr (action start : String) : (Clause.substr action start.length == start) = (action.toList.take start.length == start.toList) := by
    rw [Bool.eq_iff_iff, beq_iff_eq, beq_iff_eq, Clause.substr, Int.toNat_natCast]
    constructor
    · intro same
      exact String.toList_ofList.symm.trans (congrArg String.toList same)
    · intro same
      rw [same, String.ofList_toList]
  have same : (fun row => true && filter.actor.all (fun actor => row.actor == actor) &&
      filter.action_prefix.all (fun start => Clause.substr row.action start.length == start) &&
      filter.from_ms.all (fun n => decide (n ≤ row.timestamp_ms)) && filter.to_ms.all (fun n => decide (row.timestamp_ms ≤ n)) &&
      filter.from_id.all (fun n => decide (n ≤ row.id)) && filter.to_id.all (fun n => decide (row.id ≤ n))) = filter.selects := by
    funext row
    simp only [EventFilter.selects, substr, Bool.true_and]
  rw [← same]
  exact all

namespace EventTable
variable (crates : Crates) (table : EventTable) (filter : EventFilter) (limit : UInt64)

/-- The query lists what the filter selects, with the arguments in the places of their clauses. -/
theorem query_list_eq : table.query_list crates filter limit = table.list crates filter limit := by
  obtain ⟨places, read⟩ := query_tells filter
  have selected : (fun row => (Clause.eval_all row filter.query.clauses (filter.query.args ++ [.Integer limit.toInt64.toInt])).any
      fun read => read.1) = filter.selects := by
    funext row
    rw [read]
    rfl
  have left : (filter.query.args ++ [Arg.Integer limit.toInt64.toInt]).drop (filter.query.clauses.map Clause.places).sum =
      [.Integer limit.toInt64.toInt] := by
    rw [places, List.drop_left]
  have direction : filter.query.descending = filter.descending := by
    simp only [EventFilter.query, Query.bound, Query.push]
    split <;> split <;> split <;> split <;> split <;> split <;> rfl
  have negative : limit.toInt64.toInt < 0 ↔ limit.toInt64 < 0 := by
    rw [Int64.lt_iff_toInt_lt, Int64.toInt_zero]
  simp only [query_list, select, selected, left, direction, list, limited_to, negative]

/-! ### The rows a filter asks for -/

/-- The database gives out ids from 1 on, of 64 bits. -/
def SqliteIds : Prop := ∀ row ∈ table.rows, 0 < row.id ∧ row.id < 2 ^ 63

/-- The rows that match, in the order the filter asks for. -/
def asked : List RawRow :=
  let found := table.rows.filter fun row => filter.Matches row
  if filter.descending then found.reverse else found

variable {table}

theorem length_rows (ids : table.SqliteIds) : table.rows.length < 2 ^ 63 := by
  have distinct : (table.rows.map RawRow.id).Nodup := by
    rw [List.Nodup, List.pairwise_map]
    exact table.ordered.imp fun below => Int.ne_of_lt below
  have inside : (table.rows.map RawRow.id).toFinset ⊆ Finset.Ioo 0 (2 ^ 63) := by
    intro id there
    obtain ⟨row, within, rfl⟩ := List.mem_map.mp (List.mem_toFinset.mp there)
    exact Finset.mem_Ioo.mpr (ids row within)
  have few := Finset.card_le_card inside
  rw [List.toFinset_card_of_nodup distinct, Int.card_Ioo, List.length_map] at few
  omega

theorem limited_to_take {rows : List RawRow} (few : rows.length < 2 ^ 63) : limited_to limit.toInt64 rows = rows.take limit.toNat := by
  have signed : limit.toInt64.toInt = if 2 * limit.toNat < 2 ^ 64 then (limit.toNat : Int) else limit.toNat - 2 ^ 64 :=
    BitVec.toInt_eq_toNat_cond limit.toBitVec
  have below := limit.toNat_lt
  have negative : limit.toInt64 < 0 ↔ limit.toInt64.toInt < 0 := by
    rw [Int64.lt_iff_toInt_lt, Int64.toInt_zero]
  rw [limited_to]
  by_cases small : 2 * limit.toNat < 2 ^ 64
  · rw [if_pos small] at signed
    rw [if_neg (by rw [negative]; omega), signed, Int.toNat_natCast]
  · rw [if_neg small] at signed
    rw [if_pos (by rw [negative]; omega), List.take_of_length_le (by omega)]

theorem query_list_asked (ids : table.SqliteIds) :
    table.query_list crates filter limit = ((table.asked filter).take limit.toNat).mapM (RawRow.into_stored crates) := by
  have same : (table.rows.filter fun row => filter.Matches row) = table.rows.filter filter.selects := by
    refine List.filter_congr fun row _ => ?_
    rw [Bool.eq_iff_iff, decide_eq_true_iff, filter.selects_iff]
  have few : (table.asked filter).length < 2 ^ 63 := by
    have found := List.length_filter_le (fun row => decide (filter.Matches row)) table.rows
    have all := length_rows ids
    simp only [asked]
    split_ifs
    · rw [List.length_reverse]
      omega
    · omega
  rw [query_list_eq, list, ← limited_to_take limit few, asked, same]

theorem before_asymm {r s : RawRow} (before : filter.Before r s) : ¬ filter.Before s r := by
  unfold EventFilter.Before at *
  split_ifs at * <;> omega

theorem mem_asked (row : RawRow) : row ∈ table.asked filter ↔ row ∈ table.rows ∧ filter.Matches row := by
  rw [asked]
  split_ifs <;> simp

theorem asked_sorted : (table.asked filter).Pairwise filter.Before := by
  have found : (table.rows.filter fun row => filter.Matches row).Pairwise fun r s => r.id < s.id := table.ordered.filter _
  rw [asked]
  split_ifs with descending
  · rw [List.pairwise_reverse]
    exact found.imp fun below => by simpa [EventFilter.Before, descending] using below
  · exact found.imp fun below => by simpa [EventFilter.Before, descending] using below

/-! ### Pages -/

variable (table) in
/-- A reader that asks so many times, each time for what comes after the last event it got. -/
def walk : Nat → EventFilter → Except AuditError (List StoredEvent)
  | 0, _ => .ok []
  | requests + 1, filter => do
    let page ← table.query_list crates filter limit
    match page.getLast? with
    | none => return []
    | some last => return page ++ (← walk requests (filter.past last.id))

variable {filter}

/-- A cursor within the bounds cuts off what does not come after it. -/
theorem past_matches {last : RawRow} (matching : filter.Matches last) (row : RawRow) :
    (filter.past last.id).Matches row ↔ filter.Matches row ∧ filter.Before last row := by
  unfold EventFilter.past EventFilter.Before
  split_ifs with descending
  · constructor
    · intro ⟨actor, action_prefix, from_ms, to_ms, from_id, to_id⟩
      have below := to_id _ rfl
      exact ⟨⟨actor, action_prefix, from_ms, to_ms, from_id, fun n bound => by have := matching.to_id n bound; omega⟩, by omega⟩
    · intro ⟨⟨actor, action_prefix, from_ms, to_ms, from_id, _⟩, below⟩
      exact ⟨actor, action_prefix, from_ms, to_ms, from_id, fun n bound => by cases bound; omega⟩
  · constructor
    · intro ⟨actor, action_prefix, from_ms, to_ms, from_id, to_id⟩
      have above := from_id _ rfl
      exact ⟨⟨actor, action_prefix, from_ms, to_ms, fun n bound => by have := matching.from_id n bound; omega, to_id⟩, by omega⟩
    · intro ⟨⟨actor, action_prefix, from_ms, to_ms, _, to_id⟩, above⟩
      exact ⟨actor, action_prefix, from_ms, to_ms, fun n bound => by cases bound; omega, to_id⟩

theorem asked_past_filter {last : RawRow} (matching : filter.Matches last) :
    table.asked (filter.past last.id) = (table.asked filter).filter fun row => filter.Before last row := by
  have same : (fun row => decide ((filter.past last.id).Matches row)) =
      fun row => decide (filter.Before last row) && decide (filter.Matches row) := by
    funext row
    rw [Bool.eq_iff_iff, decide_eq_true_iff, past_matches matching, Bool.and_eq_true, decide_eq_true_iff, decide_eq_true_iff]
    exact and_comm
  have direction : (filter.past last.id).descending = filter.descending := by
    unfold EventFilter.past
    split_ifs <;> rfl
  rw [asked, asked, direction, same, ← List.filter_filter]
  split_ifs
  · rw [List.filter_reverse]
  · rfl

/-- What comes after the last row of a page is what the page left. -/
theorem asked_past {front back : List RawRow} {last : RawRow} (split : table.asked filter = front ++ last :: back) :
    table.asked (filter.past last.id) = back := by
  have sorted := @asked_sorted table filter
  have there : last ∈ table.asked filter := by simp [split]
  have matching := ((mem_asked filter last).mp there).2
  rw [split] at sorted
  obtain ⟨_, after, apart⟩ := List.pairwise_append.mp sorted
  rw [asked_past_filter matching, split, List.filter_append, List.filter_cons_of_neg]
  · rw [List.filter_eq_nil_iff.mpr, List.filter_eq_self.mpr, List.nil_append]
    · intro row later
      exact decide_eq_true (List.rel_of_pairwise_cons after later)
    · intro row earlier
      have before := apart row earlier last List.mem_cons_self
      simpa using before_asymm filter before
  · simpa using fun before => before_asymm filter before before

theorem into_stored_id {row : RawRow} {e : StoredEvent} (read : row.into_stored crates = .ok e) : e.id = row.id := by
  unfold RawRow.into_stored at read
  split at read
  · cases read
    rfl
  · cases read

theorem page_ends {front : List RawRow} {last : RawRow} {events : List StoredEvent}
    (read : (front ++ [last]).mapM (RawRow.into_stored crates) = .ok events) :
    ∃ e, events.getLast? = some e ∧ e.id = last.id := by
  rw [List.mapM_append] at read
  cases earlier : front.mapM (RawRow.into_stored crates) with
  | error e => simp [earlier, Bind.bind, Except.bind] at read
  | ok before =>
    cases stored : last.into_stored crates with
    | error e => simp [earlier, stored, Bind.bind, Except.bind] at read
    | ok e =>
      have all : before ++ [e] = events := by simpa [earlier, stored, Bind.bind, Except.bind, pure, Except.pure] using read
      exact ⟨e, by simp [← all], into_stored_id crates stored⟩

/-- Each request reads the next page. -/
theorem walk_eq (ids : table.SqliteIds) (requests : Nat) (filter : EventFilter) :
    table.walk crates limit requests filter =
      ((table.asked filter).take (requests * limit.toNat)).mapM (RawRow.into_stored crates) := by
  induction requests generalizing filter with
  | zero =>
    rw [Nat.zero_mul, List.take_zero]
    rfl
  | succ requests ih =>
    have page := query_list_asked crates filter limit ids
    obtain none_left | ⟨front, last, ending⟩ := List.eq_nil_or_concat ((table.asked filter).take limit.toNat)
    · have nothing : (table.asked filter).take ((requests + 1) * limit.toNat) = [] := by
        rw [List.take_eq_nil_iff] at none_left ⊢
        obtain zero | empty := none_left
        · exact .inl (by rw [zero, Nat.mul_zero])
        · exact .inr empty
      rw [walk, page, none_left, nothing]
      rfl
    · have split : table.asked filter = front ++ last :: (table.asked filter).drop limit.toNat := by
        conv_lhs => rw [← List.take_append_drop limit.toNat (table.asked filter), ending]
        simp
      have all : (table.asked filter).take ((requests + 1) * limit.toNat) =
          (front ++ [last]) ++ ((table.asked filter).drop limit.toNat).take (requests * limit.toNat) := by
        rw [Nat.succ_mul, Nat.add_comm, List.take_add, ending]
        simp
      have pages (later : List RawRow) : ((front ++ [last]) ++ later).mapM (RawRow.into_stored crates) = do
          let events ← (front ++ [last]).mapM (RawRow.into_stored crates)
          let others ← later.mapM (RawRow.into_stored crates)
          return events ++ others := List.mapM_append
      rw [walk, page, ending, all, List.concat_eq_append, pages]
      cases read : (front ++ [last]).mapM (RawRow.into_stored crates) with
      | error e => rfl
      | ok events =>
        obtain ⟨e, last_of, same⟩ := page_ends crates read
        have rest := ih (filter.past last.id)
        rw [asked_past split] at rest
        change (match events.getLast? with
          | none => _
          | some last => _) = _
        rw [last_of]
        simp only [same, rest]
        rfl

/-- A listing is the first rows that the filter asks for, and pages read on past the last id reach each of them once. -/
theorem events_listed (ids : table.SqliteIds) (filter : EventFilter) :
    (∀ row, row ∈ table.asked filter ↔ row ∈ table.rows ∧ filter.Matches row) ∧
      (table.asked filter).Pairwise filter.Before ∧
      table.query_list crates filter limit = ((table.asked filter).take limit.toNat).mapM (RawRow.into_stored crates) ∧
      ∀ requests,
        table.walk crates limit requests filter =
            ((table.asked filter).take (requests * limit.toNat)).mapM (RawRow.into_stored crates) ∧
          (limit ≠ 0 → (table.asked filter).length ≤ requests →
            table.walk crates limit requests filter = (table.asked filter).mapM (RawRow.into_stored crates)) := by
  refine ⟨mem_asked filter, asked_sorted filter, query_list_asked crates filter limit ids, fun requests => ?_⟩
  have pages := walk_eq crates limit ids requests filter
  refine ⟨pages, fun some_rows enough => ?_⟩
  have positive : 0 < limit.toNat := by
    rw [Nat.pos_iff_ne_zero]
    intro zero
    exact some_rows (UInt64.toNat_inj.mp zero)
  have all : (table.asked filter).length ≤ requests * limit.toNat := enough.trans (Nat.le_mul_of_pos_right requests positive)
  rw [pages, List.take_of_length_le all]

/-- Two events one after the other. -/
def request_and_response : EventTable := (EventTable.empty.insert request_row).insert response_row

theorem response_then_request :
    request_and_response.walk request_crates 1 2 { action_prefix := some "llm.", descending := true } =
      [{ response_row with id := 2 }, request_row].mapM (RawRow.into_stored request_crates) := by
  have ids : request_and_response.SqliteIds := by
    unfold SqliteIds
    decide
  have listed := events_listed request_crates 1 ids { action_prefix := some "llm.", descending := true }
  exact (listed.2.2.2 2).2 (by decide) (by decide)

end EventTable
end Riscdom.Audit
