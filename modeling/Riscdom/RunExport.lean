import Riscdom.AuditStore
import Riscdom.JsonReading

/-!
The chain up to a row as a file of its own: one JSON object a line, which a
reader takes apart again, writes the detail of each line anew and hashes from
the genesis hash. The hash is over the stored text of a detail, and the file
holds the detail as a document, so the file stands alone exactly where every
stored text is what its document is written as after the two readings.
-/
namespace Riscdom.Audit
open Riscdom.Json

/-! ### Listing events -/

structure EventFilter where
  actor : Option String := none
  action_prefix : Option String := none
  from_ms : Option Int := none
  to_ms : Option Int := none
  from_id : Option Int := none
  to_id : Option Int := none
  descending : Bool := false

/-- Every clause the filter has holds of the row. -/
def EventFilter.selects (filter : EventFilter) (row : RawRow) : Bool :=
  filter.actor.all (row.actor == ·) &&
    filter.action_prefix.all (fun start => row.action.toList.take start.length == start.toList) &&
    filter.from_ms.all (· ≤ row.timestamp_ms) && filter.to_ms.all (row.timestamp_ms ≤ ·) &&
    filter.from_id.all (· ≤ row.id) && filter.to_id.all (row.id ≤ ·)

/-- The first rows, so many as the limit allows; a negative limit is none. -/
def limited_to (limit : Int64) (rows : List RawRow) : List RawRow :=
  if limit < 0 then rows else rows.take limit.toInt.toNat

namespace EventTable
variable (crates : Crates) (table : EventTable)

/-- The events a filter selects, in the order of their ids or against it, decoded. -/
def list (filter : EventFilter) (limit : UInt64) : Except AuditError (List StoredEvent) :=
  let selected := table.rows.filter filter.selects
  let ordered := if filter.descending then selected.reverse else selected
  (limited_to limit.toInt64 ordered).mapM (RawRow.into_stored crates)

end EventTable

/-! ### The file -/

/-- One event as a line holds it. -/
def line_of (e : StoredEvent) : Value :=
  json
    [("id", .integer e.id), ("timestamp_ms", .integer e.event.timestamp_ms), ("actor", .string e.event.actor),
      ("action", .string e.event.action), ("detail", e.event.detail), ("prev_hash", .string e.prev_hash),
      ("hash", .string e.hash), ("agent_id", .ofOption e.event.agent_id)]

variable (crates : Crates)

/-- The text of the file, and the number of its lines. -/
def write_events_jsonl (events : List StoredEvent) : String × Nat :=
  (String.join (events.map fun e => crates.json.to_string (line_of e) ++ "\n"), events.length)

/-- The file of the chain up to an id. -/
def EventTable.export_self_contained_jsonl (table : EventTable) (to_id : Int) : Except AuditError (String × Nat) :=
  match table.list crates { to_id := some to_id } 0xffffffffffffffff with
  | .ok events => .ok (write_events_jsonl crates events)
  | .error error => .error error

/-! ### Reading the file -/

/-- A line less the carriage return before its end. -/
def less_return (line : List Char) : List Char := if line.getLast? = some '\r' then line.dropLast else line

/-- The lines of a text; a last line that has no end counts where it is not empty. -/
def lines (text : String) : List String :=
  let pieces := text.toList.splitOn '\n'
  let last := pieces.getLast?.getD []
  (pieces.dropLast.map fun line => String.ofList (less_return line)) ++ if last = [] then [] else [String.ofList last]

def as_i64 : Value → Option Int
  | .integer n => some n
  | _ => none

/-- The row a line stands for: its detail is the text the document of the line is written as. -/
def import_row (line : String) : Option RawRow :=
  match crates.json.from_str line with
  | .error _ => none
  | .ok line => do
    let id ← (line.get "id").bind as_i64
    let timestamp_ms ← (line.get "timestamp_ms").bind as_i64
    let actor ← (line.get "actor").bind Value.as_str
    let action ← (line.get "action").bind Value.as_str
    let prev_hash ← (line.get "prev_hash").bind Value.as_str
    let hash ← (line.get "hash").bind Value.as_str
    return { id, timestamp_ms, actor, action, prev_hash, hash,
             detail_json := crates.json.to_string ((line.get "detail").getD .null),
             agent_id := (line.get "agent_id").bind Value.as_str }

/-- The rows of a file, put into an empty table one line after another. -/
def import_rows (text : String) : Option (List RawRow) := (lines text).mapM (import_row crates)

/-- The export up to an id is written, is read as these rows, and verifies from the genesis hash. -/
def StandsAlone (table : EventTable) (to_id : Int) (rows : List RawRow) : Prop :=
  ∃ file, table.export_self_contained_jsonl crates to_id = .ok (file, rows.length) ∧
    import_rows crates file = some rows ∧ verify_rows crates rows = .Intact rows.length

/-! ### Lines -/

theorem lines_written {texts : List String} (one_line : ∀ text ∈ texts, ∀ c ∈ text.toList, c ≠ '\n' ∧ c ≠ '\r') :
    lines (String.join (texts.map (· ++ "\n"))) = texts := by
  have pieces : (String.join (texts.map (· ++ "\n"))).toList.splitOn '\n' = texts.map String.toList ++ [[]] := by
    induction texts with
    | nil => rfl
    | cons text texts ih =>
      have alone : '\n' ∉ text.toList := fun inside => (one_line text List.mem_cons_self '\n' inside).1 rfl
      have rest := ih fun other inside => one_line other (List.mem_cons_of_mem _ inside)
      have ending : "\n".toList = ['\n'] := rfl
      rw [List.map_cons, String.join_cons, String.toList_append, String.toList_append, ending, List.append_assoc,
        List.singleton_append, List.splitOn_append_cons_self, rest, List.splitOn_eq_singleton alone]
      rfl
  have kept (text : String) (inside : text ∈ texts) : String.ofList (less_return text.toList) = text := by
    have plain : text.toList.getLast? ≠ some '\r' := by
      intro last
      exact (one_line text inside '\r' (List.mem_of_getLast? last)).2 rfl
    rw [less_return, if_neg plain, String.ofList_toList]
  simp only [lines, pieces, List.getLast?_concat, Option.getD_some, if_true, List.append_nil, List.dropLast_concat,
    List.map_map]
  exact (List.map_congr_left kept).trans texts.map_id'

/-! ### One row through the file -/

theorem decode_reads {crates : Crates} {text : String} {v : Value} (read : decode crates text = .ok v) :
    crates.json.from_str text = .ok v := by
  unfold decode at read
  split at read
  · next found =>
    cases read
    exact found
  · cases read

section Rows
variable {crates} (reading : Reading crates.json)

/-- The text is that of a document nested at most 126 deep, whose numbers are the same after two readings. -/
def Reproducible (text : String) : Prop :=
  ∃ v, Ordered v ∧ depth v ≤ 126 ∧ reread reading.number (reread reading.number v) = v ∧ text = crates.json.to_string v

theorem depth_line (e : StoredEvent) : depth (line_of e) = depth e.event.detail + 1 := by
  have above : depth (line_of e) ≤ depth e.event.detail + 1 := by
    apply depth_json
    simp
  have below : depth e.event.detail < depth (line_of e) := by
    apply @depth_get "detail"
    rw [line_of, get_json]
    rfl
  omega

theorem ordered_line {e : StoredEvent} (ordered : Ordered e.event.detail) : Ordered (line_of e) := by
  apply ordered_json
  have plain {v : Value} (plain : Plain v) : Ordered v := ordered_plain plain
  simp [ordered, plain]

/-- The line of an event is read where its detail leaves room for one more object around it. -/
theorem import_line {e : StoredEvent} (ordered : Ordered e.event.detail) :
    import_row crates (crates.json.to_string (line_of e)) =
      if depth e.event.detail ≤ 126 then
        some { id := e.id, timestamp_ms := e.event.timestamp_ms, actor := e.event.actor, action := e.event.action,
               detail_json := crates.json.to_string (reread reading.number e.event.detail), prev_hash := e.prev_hash,
               hash := e.hash, agent_id := e.event.agent_id }
      else none := by
  by_cases shallow : depth e.event.detail ≤ 126
  · have read := reading.reads_written (line_of e) (ordered_line ordered) (by rw [depth_line]; omega)
    rw [import_row, read, if_pos shallow]
    simp only [line_of, get_reread, get_json]
    simp [lookup, as_i64]
  · obtain ⟨message, refused⟩ := reading.refuses_deep (line_of e) (ordered_line ordered) (by rw [depth_line]; omega)
    rw [import_row, refused, if_neg shallow]

/-- A row comes through the file as it is exactly where its detail text is reproducible. -/
theorem reproducible_iff (row : RawRow) :
    Reproducible reading row.detail_json ↔
      ∃ e, row.into_stored crates = .ok e ∧ import_row crates (crates.json.to_string (line_of e)) = some row := by
  constructor
  · rintro ⟨v, ordered, shallow, settled, text⟩
    have read : decode crates row.detail_json = .ok (reread reading.number v) := by
      rw [text, decode, reading.reads_written v ordered (by omega)]
    refine ⟨_, by rw [RawRow.into_stored, read], ?_⟩
    rw [import_line reading (ordered_reread ordered), if_pos (by rw [depth_reread]; exact shallow), settled, ← text]
  · rintro ⟨e, decoded, imported⟩
    have read : crates.json.from_str row.detail_json = .ok e.event.detail := decode_reads (decode_of_into_stored decoded)
    have ordered := reading.reads_ordered _ _ read
    rw [import_line reading ordered] at imported
    split_ifs at imported with shallow
    have text : row.detail_json = crates.json.to_string (reread reading.number e.event.detail) := by
      rw [← Option.some.inj imported]
    refine ⟨reread reading.number e.event.detail, ordered_reread ordered, by rw [depth_reread]; exact shallow, ?_, text⟩
    -- the text was read as the detail, and it is what the detail was read back as
    rw [text, reading.reads_written _ (ordered_reread ordered) (by rw [depth_reread]; omega)] at read
    rw [Except.ok.inj read]

include reading in
/-- The file is read line by line. -/
theorem import_written (events : List StoredEvent) : import_rows crates (write_events_jsonl crates events).1 =
    (events.map fun e => crates.json.to_string (line_of e)).mapM (import_row crates) := by
  have texts := @lines_written (events.map fun e => crates.json.to_string (line_of e))
    (by simpa using fun e _ => reading.one_line (line_of e))
  rw [List.map_map] at texts
  rw [import_rows, ← texts]
  rfl

end Rows

/-! ### The rows up to an id -/

section Cut
variable {crates}

/-- Rows come through the file in order, each by its own line. -/
theorem rows_through_file (rows : List RawRow) :
    (∃ events, rows.mapM (RawRow.into_stored crates) = .ok events ∧
        (events.map fun e => crates.json.to_string (line_of e)).mapM (import_row crates) = some rows) ↔
      ∀ row ∈ rows, ∃ e, row.into_stored crates = .ok e ∧ import_row crates (crates.json.to_string (line_of e)) = some row := by
  simp only [decoded_iff]
  induction rows with
  | nil => simp
  | cons row rest ih =>
    rw [List.forall_mem_cons, ← ih]
    constructor
    · rintro ⟨events, decoded, imported⟩
      cases decoded with
      | @cons _ e _ others head tail =>
        simp only [List.map_cons, List.mapM_cons, Option.bind_eq_bind, Option.bind_eq_some_iff, Option.pure_def,
          Option.some.injEq, List.cons.injEq] at imported
        obtain ⟨first, read, later, reads, rfl, rfl⟩ := imported
        exact ⟨⟨e, head, read⟩, others, tail, reads⟩
    · rintro ⟨⟨e, head, read⟩, others, tail, reads⟩
      refine ⟨e :: others, .cons head tail, ?_⟩
      rw [List.map_cons, List.mapM_cons, read, Option.bind_eq_bind, Option.bind_some, reads]
      rfl

variable {table : EventTable} {before after : List RawRow} {last : RawRow} (cut : table.rows = before ++ last :: after)
include cut

theorem list_to_id : table.list crates { to_id := some last.id } 0xffffffffffffffff =
    (before ++ [last]).mapM (RawRow.into_stored crates) := by
  have rising := table.ordered
  rw [cut] at rising
  obtain ⟨-, behind, across⟩ := List.pairwise_append.mp rising
  have earlier : ∀ row ∈ before, row.id ≤ last.id := by
    intro row inside
    have below := across row inside last List.mem_cons_self
    omega
  have later : ∀ row ∈ after, ¬ row.id ≤ last.id := by
    intro row inside
    have above := (List.pairwise_cons.mp behind).1 row inside
    omega
  have all : limited_to (0xffffffffffffffff : UInt64).toInt64 = id := by
    funext rows
    exact if_pos (by decide)
  have selected : table.rows.filter (EventFilter.selects { to_id := some last.id }) = before ++ [last] := by
    have alone (row : RawRow) : EventFilter.selects { to_id := some last.id } row = decide (row.id ≤ last.id) := by
      simp [EventFilter.selects]
    rw [cut, List.filter_append, List.filter_cons]
    simp only [alone, le_refl, decide_true, if_true]
    rw [List.filter_eq_self.mpr (by simpa [alone] using earlier), List.filter_eq_nil_iff.mpr (by simpa [alone] using later)]
  rw [EventTable.list, selected, all]
  rfl

theorem verified_to_id (intact : verify_rows crates table.rows = .Intact table.rows.length) :
    verify_rows crates (before ++ [last]) = .Intact (before ++ [last]).length := by
  have chained := ((verify_rows_intact_iff crates _ _).mp intact).2
  rw [cut, ← List.singleton_append, ← List.append_assoc] at chained
  exact verify_rows_intact crates ((HashChain.linked_append _ _ _).mp chained).1

/-- The export of an intact chain stands alone exactly where every row up to the cut is reproducible. -/
theorem export_stands_alone_iff (reading : Reading crates.json)
    (intact : verify_rows crates table.rows = .Intact table.rows.length) :
    StandsAlone crates table last.id (before ++ [last]) ↔
      ∀ row ∈ before ++ [last], Reproducible reading row.detail_json := by
  simp only [reproducible_iff, ← rows_through_file, StandsAlone, EventTable.export_self_contained_jsonl, list_to_id cut]
  constructor
  · rintro ⟨file, exported, imported, -⟩
    cases decoded : (before ++ [last]).mapM (RawRow.into_stored crates) with
    | error error =>
      rw [decoded] at exported
      cases exported
    | ok events =>
      rw [decoded] at exported
      refine ⟨events, rfl, ?_⟩
      have text : (write_events_jsonl crates events).1 = file := congrArg Prod.fst (Except.ok.inj exported)
      rw [← import_written reading, text, imported]
  · rintro ⟨events, decoded, imported⟩
    have same := (decoded_iff.mp decoded).length_eq
    refine ⟨(write_events_jsonl crates events).1, ?_, by rw [import_written reading, imported], verified_to_id cut intact⟩
    rw [decoded, same]
    rfl

end Cut

/-- Details without binary64 numbers that nest at most 126 deep are reproducible once they are appended. -/
theorem append_reproducible {crates : Crates} (reading : Reading crates.json) (table : EventTable) (event : AuditEvent)
    (plain : Plain event.detail) (shallow : depth event.detail ≤ 126) :
    Reproducible reading (table.row_of crates event).detail_json :=
  ⟨event.detail, ordered_plain plain, shallow, by rw [reread_plain _ _ plain, reread_plain _ _ plain], rfl⟩

/-- A session, a run in it and the end of that run, appended to an empty store. -/
def session_event : AuditEvent :=
  { timestamp_ms := 5, actor := "human", action := "session.create", detail := json [("id", .string "s1")], agent_id := none }
def started_event : AuditEvent :=
  { timestamp_ms := 6, actor := "host", action := "run.start", detail := json [("run_id", .string "a")], agent_id := none }
def ended_event : AuditEvent := { started_event with timestamp_ms := 7, action := "run.end" }

def session_hash : String := "cffee070a5da6a562d25d1a235a85dee9e5ad3111cd0d225374b3c2d9c3434f1"
def started_hash : String := "1dcc86f8af26a7a1624628e470de4e2e61ac265a96b43fe70355bb488c9c17af"

/-- SHA-256 on the texts of the three rows. -/
def run_crates : Crates where
  sha256_hex := digest_of
    [(GENESIS_PREV_HASH ++ "|5|human|session.create|\x7b\"id\":\"s1\"\x7d", session_hash),
      (session_hash ++ "|6|host|run.start|\x7b\"run_id\":\"a\"\x7d", started_hash),
      (started_hash ++ "|7|host|run.end|\x7b\"run_id\":\"a\"\x7d",
        "4e8ab8165c1af4cf33e657529265ef31294ff90bca49117e3c10759d0a8f5bc5")]
  json := limited

def run_reading : Reading run_crates.json := limited_reading

def session_table : EventTable :=
  (((EventTable.empty.append run_crates session_event).2.append run_crates started_event).2.append run_crates ended_event).2

theorem started_stands_alone : StandsAlone run_crates session_table 2 (session_table.rows.take 2) := by
  have reproducible (table : EventTable) (event : AuditEvent) (listed : event = session_event ∨ event = started_event) :
      Reproducible run_reading (table.row_of run_crates event).detail_json := by
    have small : Plain event.detail ∧ depth event.detail ≤ 126 := by
      rcases listed with rfl | rfl
      · exact ⟨plain_json (by simp), by decide⟩
      · exact ⟨plain_json (by simp), by decide⟩
    exact @append_reproducible run_crates run_reading table event small.1 small.2
  refine (@export_stands_alone_iff run_crates session_table (session_table.rows.take 1) (session_table.rows.drop 2)
    ((EventTable.empty.append run_crates session_event).2.row_of run_crates started_event) rfl run_reading
    (by decide +kernel)).mpr ?_
  intro row inside
  rcases List.mem_append.mp inside with first | second
  · cases List.mem_singleton.mp first
    exact reproducible _ _ (.inl rfl)
  · cases List.mem_singleton.mp second
    exact reproducible _ _ (.inr rfl)

/-- So many lists around each other. -/
def nested : Nat → Value
  | 0 => .array []
  | n + 1 => .array [nested n]

theorem depth_nested (n : Nat) : depth (nested n) = n + 1 := by
  induction n with
  | zero => simp [nested, depth, depth_items]
  | succ n ih => simp [nested, depth, depth_items, ih]

theorem plain_nested (n : Nat) : Plain (nested n) := by
  induction n with
  | zero => simp [nested, Plain, PlainItems]
  | succ n ih => simp [nested, Plain, PlainItems, ih]

def nested_event : AuditEvent :=
  { timestamp_ms := 5, actor := "host", action := "host.note", detail := nested 126, agent_id := none }

/-- A detail nested 127 deep is appended, verified and exported, and its line is then refused by the reader. -/
theorem nested_unreadable {crates : Crates} (reading : Reading crates.json) :
    verify_rows crates (EventTable.empty.append crates nested_event).2.rows = .Intact 1 ∧
      (∃ file, (EventTable.empty.append crates nested_event).2.export_self_contained_jsonl crates 1 = .ok (file, 1) ∧
        import_rows crates file = none) ∧
      ¬ StandsAlone crates (EventTable.empty.append crates nested_event).2 1
        (EventTable.empty.append crates nested_event).2.rows := by
  have deep : depth nested_event.detail = 127 := depth_nested 126
  have plain : Plain nested_event.detail := plain_nested 126
  have intact := verify_rows_intact crates (@EventTable.append_chained crates .empty trivial nested_event)
  have stored := EventTable.row_of_stored crates .empty nested_event plain (by omega)
  have cut : (EventTable.empty.append crates nested_event).2.rows =
      [] ++ EventTable.empty.row_of crates nested_event :: [] := rfl
  have exported : (EventTable.empty.append crates nested_event).2.export_self_contained_jsonl crates 1 =
      .ok (write_events_jsonl crates [(EventTable.empty.append crates nested_event).1]) := by
    have listed := @list_to_id crates _ _ _ _ cut
    rw [List.nil_append, List.mapM_cons, stored] at listed
    rw [EventTable.export_self_contained_jsonl]
    exact congrArg (fun answer => match answer with
      | Except.ok events => Except.ok (write_events_jsonl crates events)
      | .error error => .error error) listed
  have refused : import_rows crates (write_events_jsonl crates [(EventTable.empty.append crates nested_event).1]).1 = none := by
    have line := import_line reading (e := (EventTable.empty.append crates nested_event).1) (ordered_plain plain)
    rw [if_neg (by change ¬ depth nested_event.detail ≤ 126; omega)] at line
    rw [import_written reading, List.map_cons, List.mapM_cons, line]
    rfl
  refine ⟨intact, ⟨_, exported, refused⟩, ?_⟩
  rintro ⟨file, written, imported, -⟩
  rw [exported] at written
  have text := congrArg Prod.fst (Except.ok.inj written)
  rw [← show _ = file from text, refused] at imported
  cases imported

theorem nested_export_unreadable :
    verify_rows run_crates (EventTable.empty.append run_crates nested_event).2.rows = .Intact 1 ∧
      ¬ StandsAlone run_crates (EventTable.empty.append run_crates nested_event).2 1
        (EventTable.empty.append run_crates nested_event).2.rows :=
  ⟨(nested_unreadable run_reading).1, (nested_unreadable run_reading).2.2⟩

end Riscdom.Audit
