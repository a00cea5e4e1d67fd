import Mathlib.Data.List.Forall2
import Mathlib.Data.List.Nodup
import Riscdom.JsonText

/-!
Audit events as submitted and as stored, the errors of the audit layer, and the
two third-party functions every later module is stated over.
-/
namespace Riscdom.Audit
open Riscdom.Json

/-- SHA-256 in lowercase hex, of the bytes of a text, and the JSON library. -/
structure Crates where
  sha256_hex : String → String
  json : JsonText

structure AuditEvent where
  timestamp_ms : Int
  actor : String
  action : String
  detail : Value
  agent_id : Option String

structure StoredEvent where
  id : Int
  event : AuditEvent
  prev_hash : String
  hash : String

/-- A row as it stands in the table, its detail still text. -/
structure RawRow where
  id : Int
  timestamp_ms : Int
  actor : String
  action : String
  detail_json : String
  prev_hash : String
  hash : String
  agent_id : Option String
deriving DecidableEq

/-- The codes of SQLite that the audit layer tells apart. -/
inductive ErrorCode
  | DatabaseBusy
  | DatabaseLocked
  | Unknown
deriving DecidableEq

inductive AuditError
  | Sqlite (code : ErrorCode) (message : String)
  | Json (message : String)
  | Io (message : String)
  | DataTooNew (found supported : Int)
  | Other (message : String)
deriving DecidableEq

/-- An error as it is written into a text. -/
def AuditError.display : AuditError → String
  | .Sqlite _ message => "sqlite error: " ++ message
  | .Json message => "json error: " ++ message
  | .Io message => "io error: " ++ message
  | .DataTooNew found supported => "audit database schema version " ++ toString found ++
      " is newer than this build supports (" ++ toString supported ++ ")"
  | .Other message => message

def is_lock_error : AuditError → Bool
  | .Sqlite .DatabaseBusy _ => true
  | .Sqlite .DatabaseLocked _ => true
  | _ => false

/-- The event a host producer submits, no agent named. -/
def AuditEvent.new (now : Int) (actor action : String) (detail : Value) : AuditEvent :=
  { timestamp_ms := now, actor, action, detail, agent_id := none }

variable (crates : Crates)

/-- The JSON text of a row, decoded. -/
def decode (text : String) : Except AuditError Value :=
  match crates.json.from_str text with
  | .ok v => .ok v
  | .error message => .error (.Json message)

/-- A row with its detail decoded. -/
def RawRow.into_stored (row : RawRow) : Except AuditError StoredEvent :=
  match decode crates row.detail_json with
  | .ok detail => .ok
      { id := row.id, prev_hash := row.prev_hash, hash := row.hash,
        event :=
          { timestamp_ms := row.timestamp_ms, actor := row.actor, action := row.action, detail, agent_id := row.agent_id } }
  | .error error => .error error

theorem decode_to_string {v : Value} (plain : Plain v) (shallow : depth v ≤ 127) :
    decode crates (crates.json.to_string v) = .ok v := by
  simp [decode, crates.json.reads_back v plain shallow]

/-- What was decoded is decodable again once it was written less one member. -/
theorem decode_again (key : String) {text : String} {v : Value} (found : decode crates text = .ok v) :
    ∃ w, decode crates (crates.json.to_string (v.without key)) = .ok w := by
  unfold decode at found
  split at found
  · next read =>
    cases found
    obtain ⟨w, again⟩ := crates.json.reads_again key text v read
    exact ⟨w, by rw [decode, again]⟩
  · cases found

/-! ### Rows decoded -/

section Decoded
variable {crates}

/-- The events of a store, each the row of its place decoded. -/
theorem decoded_iff {rows : List RawRow} {events : List StoredEvent} :
    rows.mapM (RawRow.into_stored crates) = .ok events ↔
      List.Forall₂ (fun row event => row.into_stored crates = .ok event) rows events := by
  induction rows generalizing events with
  | nil => cases events <;> simp [pure, Except.pure]
  | cons row rest ih =>
    rw [List.mapM_cons]
    cases first : row.into_stored crates with
    | error error =>
      constructor
      · intro whole
        cases whole
      · intro whole
        cases whole with
        | cons head _ =>
          rw [first] at head
          cases head
    | ok event =>
      cases later : rest.mapM (RawRow.into_stored crates) with
      | error error =>
        constructor
        · intro whole
          cases whole
        · intro whole
          cases whole with
          | cons _ tail =>
            rw [← ih, later] at tail
            cases tail
      | ok others =>
        constructor
        · intro whole
          cases whole
          exact .cons first (ih.mp later)
        · intro whole
          cases whole with
          | cons head tail =>
            rw [first] at head
            cases head
            rw [← ih, later] at tail
            cases tail
            rfl

theorem decoded_append {rows more : List RawRow} {events others : List StoredEvent}
    (first : rows.mapM (RawRow.into_stored crates) = .ok events) (second : more.mapM (RawRow.into_stored crates) = .ok others) :
    (rows ++ more).mapM (RawRow.into_stored crates) = .ok (events ++ others) := by
  rw [decoded_iff] at first second ⊢
  exact List.rel_append first second

theorem decode_of_into_stored {row : RawRow} {event : StoredEvent} (decoded : row.into_stored crates = .ok event) :
    decode crates row.detail_json = .ok event.event.detail := by
  unfold RawRow.into_stored at decoded
  split at decoded
  · next read =>
    cases decoded
    exact read
  · cases decoded

/-- The rows can all be decoded. -/
def Decodable (crates : Crates) (rows : List RawRow) : Prop :=
  ∀ row ∈ rows, ∃ detail, decode crates row.detail_json = .ok detail

theorem decodable_append {first second : List RawRow} :
    Decodable crates (first ++ second) ↔ Decodable crates first ∧ Decodable crates second := by
  simp [Decodable, or_imp, forall_and]

theorem decodable_of_events {rows : List RawRow} {events : List StoredEvent}
    (decoded : rows.mapM (RawRow.into_stored crates) = .ok events) : Decodable crates rows := by
  intro row inside
  rw [decoded_iff] at decoded
  induction decoded with
  | nil => cases inside
  | cons head _ ih =>
    rcases List.mem_cons.mp inside with rfl | later
    · exact ⟨_, decode_of_into_stored head⟩
    · exact ih later

theorem events_of_decodable {rows : List RawRow} (decodable : Decodable crates rows) :
    ∃ events, rows.mapM (RawRow.into_stored crates) = .ok events := by
  induction rows with
  | nil => exact ⟨[], rfl⟩
  | cons row rest ih =>
    obtain ⟨detail, read⟩ := decodable row List.mem_cons_self
    obtain ⟨others, tail⟩ := ih fun later inside => decodable later (List.mem_cons_of_mem _ inside)
    have head : ∃ event, row.into_stored crates = .ok event := by
      rw [RawRow.into_stored, read]
      exact ⟨_, rfl⟩
    obtain ⟨event, head⟩ := head
    exact ⟨event :: others, decoded_iff.mpr (.cons head (decoded_iff.mp tail))⟩

end Decoded

/-! ### A digest given by a table -/

/-- The digests of a table, and for every other text one that is no hex. -/
def digest_of (known : List (String × String)) (text : String) : String := (lookup text known).getD ("?" ++ text)

private theorem mem_of_lookup {known : List (String × String)} {text digest : String}
    (found : lookup text known = some digest) : (text, digest) ∈ known := by
  induction known with
  | nil => cases found
  | cons entry rest ih =>
    obtain ⟨key, value⟩ := entry
    simp only [lookup] at found
    split_ifs at found with same
    · cases found
      rw [same]
      exact List.mem_cons_self
    · exact List.mem_cons_of_mem _ (ih found)

theorem digest_of_injective {known : List (String × String)} (distinct : (known.map Prod.snd).Nodup)
    (hex : ∀ entry ∈ known, entry.2.toList.head? ≠ some '?') : Function.Injective (digest_of known) := by
  have marked (text digest : String) (inside : (text, digest) ∈ known) (other : String) : digest ≠ "?" ++ other := by
    rintro rfl
    exact hex _ inside (by simp)
  intro a b same
  unfold digest_of at same
  cases left : lookup a known with
  | none =>
    cases right : lookup b known with
    | none =>
      rw [left, right] at same
      have texts := congrArg String.toList same
      simp only [Option.getD_none, String.toList_append, List.append_right_inj] at texts
      exact String.toList_injective texts
    | some digest =>
      rw [left, right] at same
      exact absurd same.symm (marked b digest (mem_of_lookup right) a)
  | some digest =>
    cases right : lookup b known with
    | none =>
      rw [left, right] at same
      exact absurd same (marked a digest (mem_of_lookup left) b)
    | some other =>
      rw [left, right] at same
      have entry := List.inj_on_of_nodup_map distinct (mem_of_lookup left) (mem_of_lookup right) same
      exact congrArg Prod.fst entry

end Riscdom.Audit
