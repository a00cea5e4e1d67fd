import Riscdom.LocalWins
import Riscdom.Route

/-!
What a node makes of the tables and the rooms it is handed: they are merged into
its own files, and its own entries win. The merges look a row up in the file
alone, so a row that is handed down twice is added twice.
-/
namespace Riscdom.Net
open Riscdom.Json Riscdom.Machine

/-! ### The files, and the merges of the source -/

structure RateRule where
  messages : UInt32
  window_seconds : UInt32
deriving DecidableEq

inductive Mention
  | Members
  | Nobody
deriving DecidableEq

def Mention.as_str : Mention → String
  | .Members => "members"
  | .Nobody => "nobody"

structure RoomRules where
  rate : RateRule
  mention : Mention
  require_signature : Bool
deriving DecidableEq

structure Room where
  name : String
  members : List String
  rules : RoomRules
deriving DecidableEq

structure RoomsFile where
  schema_version : UInt32
  rooms : List Room

structure NodeTable where
  generation : Int64
  entries : List PeerEntry

structure Registry where
  table : NodeTable
  rooms : RoomsFile

structure Conflict where
  node_id : String
  local_ : String
  from_table : String

structure RoomConflict where
  name : String
  local_ : String
  from_published : String

abbrev MergeReport : Type := LocalWins.Report Conflict
abbrev RoomMergeReport : Type := LocalWins.Report RoomConflict

def PeersFile.SCHEMA_VERSION : UInt32 := 1
def RoomsFile.SCHEMA_VERSION : UInt32 := 1

def PeerEntry.same_as (entry other : PeerEntry) : Bool :=
  entry.node_id == other.node_id && same entry.public_key other.public_key && entry.addresses == other.addresses

section
variable (debug : List String → String)

def PeerEntry.summary (entry : PeerEntry) : String :=
  entry.node_id ++ " at " ++ debug entry.addresses ++ " with rooms " ++ debug entry.rooms

def Room.summary (room : Room) : String :=
  "members " ++ debug room.members ++ ", rate " ++ toString room.rules.rate.messages ++ " per " ++
    toString room.rules.rate.window_seconds ++ "s, mention " ++ room.rules.mention.as_str

def Conflict.between (known entry : PeerEntry) : Conflict := ⟨entry.node_id, known.summary debug, entry.summary debug⟩
def RoomConflict.between (known room : Room) : RoomConflict := ⟨room.name, known.summary debug, room.summary debug⟩

def merge_table (own : PeersFile) (table : NodeTable) : PeersFile × MergeReport :=
  let (peers, report) := LocalWins.merge PeerEntry.node_id PeerEntry.same_as (.between debug) own.peers table.entries
  (⟨PeersFile.SCHEMA_VERSION, peers⟩, report)

def merge_rooms (own published : RoomsFile) : RoomsFile × RoomMergeReport :=
  let (rooms, report) := LocalWins.merge Room.name (· == ·) (.between debug) own.rooms published.rooms
  (⟨RoomsFile.SCHEMA_VERSION, rooms⟩, report)

structure Merged where
  peers : PeersFile
  peers_report : MergeReport
  rooms : RoomsFile
  rooms_report : RoomMergeReport

def Registry.merge (registry : Registry) (local_peers : PeersFile) (local_rooms : RoomsFile) : Merged :=
  let (peers, peers_report) := merge_table debug local_peers registry.table
  let (rooms, rooms_report) := merge_rooms debug local_rooms registry.rooms
  ⟨peers, peers_report, rooms, rooms_report⟩

/-! ### Any sequence of them -/

/-- What a node is handed: a table, a set of rooms, or both. -/
inductive HandDown
  | Table (table : NodeTable)
  | Rooms (published : RoomsFile)
  | Registry (registry : Net.Registry)

def HandDown.entries : HandDown → List PeerEntry
  | .Table table => table.entries
  | .Rooms _ => []
  | .Registry registry => registry.table.entries

def HandDown.published : HandDown → List Room
  | .Table _ => []
  | .Rooms published => published.rooms
  | .Registry registry => registry.rooms.rooms

/-- The two files of a node. -/
structure Books where
  peers : PeersFile
  rooms : RoomsFile

/-- The files with a hand-down merged in, and what the merges tell of it. -/
def Books.merge (books : Books) : HandDown → Merged
  | .Table table =>
    let (peers, report) := merge_table debug books.peers table
    ⟨peers, report, books.rooms, .empty⟩
  | .Rooms published =>
    let (rooms, report) := merge_rooms debug books.rooms published
    ⟨books.peers, .empty, rooms, report⟩
  | .Registry registry => registry.merge debug books.peers books.rooms

def Books.take (books : Books) (down : HandDown) : Books := ⟨(books.merge debug down).peers, (books.merge debug down).rooms⟩

end

/-- No node id, and no name of a room, stands twice. -/
def Books.Unique (books : Books) : Prop :=
  (books.peers.peers.map PeerEntry.node_id).Nodup ∧ (books.rooms.rooms.map Room.name).Nodup

/-- What is new in a hand-down has ids and names that are not repeated in it. -/
def Fresh (books : Books) (down : HandDown) : Prop :=
  ((LocalWins.news PeerEntry.node_id books.peers.peers down.entries).map PeerEntry.node_id).Nodup ∧
    ((LocalWins.news Room.name books.rooms.rooms down.published).map Room.name).Nodup

/-- The reports of a merge account for every entry of the hand-down, once. -/
def Merged.Accounts (merged : Merged) (down : HandDown) : Prop :=
  merged.peers_report.total = down.entries.length ∧ merged.rooms_report.total = down.published.length

/-- The merge added nothing to the files. -/
def Merged.AddsNothing (merged : Merged) (books : Books) : Prop :=
  merged.peers.peers = books.peers.peers ∧ merged.peers_report.added = 0 ∧
    merged.rooms.rooms = books.rooms.rooms ∧ merged.rooms_report.added = 0

/-- What the files keep of those before: every entry, unchanged and in its place. -/
def Books.Keeps (before after : Books) : Prop :=
  before.peers.peers <+: after.peers.peers ∧ before.rooms.rooms <+: after.rooms.rooms

section Merging
variable (debug : List String → String)

/-- What a hand-down adds to the files. -/
def Books.new_peers (books : Books) (down : HandDown) : List PeerEntry :=
  LocalWins.news PeerEntry.node_id books.peers.peers down.entries
def Books.new_rooms (books : Books) (down : HandDown) : List Room :=
  LocalWins.news Room.name books.rooms.rooms down.published

theorem merge_peers (books : Books) (down : HandDown) :
    (books.merge debug down).peers.peers = books.peers.peers ++ books.new_peers down ∧
      (books.merge debug down).peers_report.added = (books.new_peers down).length ∧
      (books.merge debug down).peers_report.total = down.entries.length := by
  have table (table : NodeTable) : (merge_table debug books.peers table).1.peers = _ ∧
      (merge_table debug books.peers table).2.added = _ ∧ (merge_table debug books.peers table).2.total = _ :=
    ⟨LocalWins.merge_rows PeerEntry.node_id _ _ _ _, LocalWins.merge_added PeerEntry.node_id _ _ _ _,
      LocalWins.merge_total PeerEntry.node_id _ _ _ _⟩
  cases down with
  | Table handed => exact table handed
  | Rooms published => exact ⟨(List.append_nil _).symm, rfl, rfl⟩
  | Registry registry => exact table registry.table

theorem merge_published (books : Books) (down : HandDown) :
    (books.merge debug down).rooms.rooms = books.rooms.rooms ++ books.new_rooms down ∧
      (books.merge debug down).rooms_report.added = (books.new_rooms down).length ∧
      (books.merge debug down).rooms_report.total = down.published.length := by
  have rooms (published : RoomsFile) : (merge_rooms debug books.rooms published).1.rooms = _ ∧
      (merge_rooms debug books.rooms published).2.added = _ ∧ (merge_rooms debug books.rooms published).2.total = _ :=
    ⟨LocalWins.merge_rows Room.name _ _ _ _, LocalWins.merge_added Room.name _ _ _ _, LocalWins.merge_total Room.name _ _ _ _⟩
  cases down with
  | Table handed => exact ⟨(List.append_nil _).symm, rfl, rfl⟩
  | Rooms published => exact rooms published
  | Registry registry => exact rooms registry.rooms

theorem take_keeps (books : Books) (down : HandDown) : books.Keeps (books.take debug down) := by
  constructor
  · exact ⟨_, (merge_peers debug books down).1.symm⟩
  · exact ⟨_, (merge_published debug books down).1.symm⟩

theorem take_accounts (books : Books) (down : HandDown) : (books.merge debug down).Accounts down :=
  ⟨(merge_peers debug books down).2.2, (merge_published debug books down).2.2⟩

theorem Books.Keeps.refl (books : Books) : books.Keeps books := ⟨List.prefix_rfl, List.prefix_rfl⟩
theorem Books.Keeps.trans {first second third : Books} (before : first.Keeps second) (after : second.Keeps third) :
    first.Keeps third := ⟨before.1.trans after.1, before.2.trans after.2⟩

theorem run_keeps_books (books : Books) (downs : List HandDown) : books.Keeps (run (Books.take debug) books downs) :=
  run_climbs .refl .trans (take_keeps debug) books downs

/-- Whatever was merged once is known from then on. -/
def Knows (books : Books) (down : HandDown) : Prop :=
  (∀ entry ∈ down.entries, entry.node_id ∈ books.peers.peers.map PeerEntry.node_id) ∧
    ∀ room ∈ down.published, room.name ∈ books.rooms.rooms.map Room.name

theorem take_knows (books : Books) (down : HandDown) : Knows (books.take debug down) down := by
  constructor
  · intro entry inside
    rw [Books.take, (merge_peers debug books down).1, Books.new_peers,
      ← LocalWins.merge_rows PeerEntry.node_id PeerEntry.same_as (Conflict.between debug)]
    exact LocalWins.merge_knows _ _ _ _ _ inside
  · intro room inside
    rw [Books.take, (merge_published debug books down).1, Books.new_rooms,
      ← LocalWins.merge_rows Room.name (· == ·) (RoomConflict.between debug)]
    exact LocalWins.merge_knows _ _ _ _ _ inside

theorem Knows.later {before after : Books} {down : HandDown} (known : Knows before down) (keeps : before.Keeps after) :
    Knows after down :=
  ⟨fun entry inside => (keeps.1.map _).subset (known.1 entry inside),
    fun room inside => (keeps.2.map _).subset (known.2 room inside)⟩

/-- A hand-down that is known adds nothing. -/
theorem adds_nothing {books : Books} {down : HandDown} (known : Knows books down) :
    (books.merge debug down).AddsNothing books := by
  have peers : books.new_peers down = [] := LocalWins.news_of_known _ known.1
  have rooms : books.new_rooms down = [] := LocalWins.news_of_known _ known.2
  obtain ⟨merged, added, -⟩ := merge_peers debug books down
  obtain ⟨published, more, -⟩ := merge_published debug books down
  rw [peers] at merged added
  rw [rooms] at published more
  exact ⟨by simpa using merged, added, by simpa using published, more⟩

/-- One merge leaves no id twice exactly where none was before, and the hand-down repeats none of those it adds. -/
theorem take_unique (books : Books) (down : HandDown) :
    (books.take debug down).Unique ↔ books.Unique ∧ Fresh books down := by
  have peers := LocalWins.merge_distinct PeerEntry.node_id PeerEntry.same_as (Conflict.between debug) books.peers.peers down.entries
  have rooms := LocalWins.merge_distinct Room.name (· == ·) (RoomConflict.between debug) books.rooms.rooms down.published
  rw [LocalWins.merge_rows] at peers rooms
  rw [Books.Unique, Books.take, (merge_peers debug books down).1, (merge_published debug books down).1, Books.new_peers,
    Books.new_rooms, peers, rooms, Books.Unique, Fresh]
  tauto

theorem run_unique (books : Books) (downs : List HandDown) :
    (run (Books.take debug) books downs).Unique ↔ books.Unique ∧ Allowed (Books.take debug) Fresh books downs := by
  induction downs generalizing books with
  | nil => simp
  | cons down downs ih =>
    rw [run_cons, allowed_cons, ih, take_unique, and_assoc]

/-- After any hand-downs the entries of before stand where they stood, every report accounted for all it was handed, and
    nothing handed before adds to the files again; and no id or name stands twice. -/
def Merges (books : Books) (downs : List HandDown) : Prop :=
  books.Keeps (run (Books.take debug) books downs) ∧
    (∀ before down after, downs = before ++ down :: after →
      ((run (Books.take debug) books before).merge debug down).Accounts down) ∧
    (∀ down ∈ downs, ((run (Books.take debug) books downs).merge debug down).AddsNothing (run (Books.take debug) books downs)) ∧
    (books.Unique → (run (Books.take debug) books downs).Unique)

/-- That holds exactly where no hand-down repeats an id or a name that the files do not know. -/
theorem merges_where_fresh (debug : List String → String) (books : Books) (downs : List HandDown) :
    Merges debug books downs ↔ (books.Unique → Allowed (Books.take debug) Fresh books downs) := by
  have again : ∀ down ∈ downs,
      ((run (Books.take debug) books downs).merge debug down).AddsNothing (run (Books.take debug) books downs) := by
    intro down inside
    obtain ⟨before, after, rfl⟩ := List.append_of_mem inside
    rw [run_append, run_cons]
    exact adds_nothing debug ((take_knows debug _ down).later (run_keeps_books debug _ after))
  constructor
  · rintro ⟨-, -, -, unique⟩ distinct
    exact ((run_unique debug books downs).mp (unique distinct)).2
  · intro fresh
    refine ⟨run_keeps_books debug books downs, fun _ down _ _ => take_accounts debug _ down, again, fun distinct => ?_⟩
    exact (run_unique debug books downs).mpr ⟨distinct, fresh distinct⟩

/-- One node, under two addresses. -/
def twice : NodeTable :=
  let public_key := json [("kty", .string "OKP"), ("crv", .string "Ed25519"),
    ("x", .string "11qYAYKxCrfVS_7TyWQHOg7hcvPapiMlrwIaaPcHURo")]
  ⟨2, [⟨"dev-b", ["10.0.0.2:7000"], public_key, [], []⟩, ⟨"dev-b", ["10.0.0.3:7000"], public_key, [], []⟩]⟩

/-- It stands twice in a file that was empty. -/
theorem twice_added : ¬ Merges (fun _ => "") ⟨⟨1, []⟩, ⟨1, []⟩⟩ [.Table twice] := by
  rintro ⟨-, -, -, unique⟩
  have distinct := (unique ⟨List.nodup_nil, List.nodup_nil⟩).1
  have ids : (run (Books.take fun _ => "") ⟨⟨1, []⟩, ⟨1, []⟩⟩ [.Table twice]).peers.peers.map PeerEntry.node_id =
      ["dev-b", "dev-b"] := rfl
  rw [ids] at distinct
  simp at distinct

/-! ### What a report tells of an entry -/

/-- The entries of a table for nodes that are known, each with the entry that is known. -/
def meetings (own : PeersFile) (table : NodeTable) : List (PeerEntry × PeerEntry) :=
  LocalWins.meetings PeerEntry.node_id own.peers table.entries

/-- Every field of the two is one. -/
def PeerEntry.alike (known entry : PeerEntry) : Bool :=
  known.node_id == entry.node_id && same known.public_key entry.public_key && known.addresses == entry.addresses &&
    known.capabilities == entry.capabilities && known.rooms == entry.rooms

/-- An entry for a known node is counted unchanged where every field of it is what is known, and is reported as a
    conflict everywhere else. -/
structure Tells (own : PeersFile) (table : NodeTable) : Prop where
  unchanged : (merge_table debug own table).2.unchanged = (meetings own table).countP fun met => met.1.alike met.2
  conflicts : (merge_table debug own table).2.conflicts =
    ((meetings own table).filter fun met => !met.1.alike met.2).map fun met => .between debug met.1 met.2

/-- Entries that say the same of a node declare the same and are in the same rooms. -/
def Declared (own : PeersFile) (table : NodeTable) : Prop :=
  ∀ met ∈ meetings own table, met.1.same_as met.2 = true → met.1.capabilities = met.2.capabilities ∧ met.1.rooms = met.2.rooms

theorem same_as_of_alike {known entry : PeerEntry} (alike : known.alike entry = true) : known.same_as entry = true := by
  simp only [PeerEntry.alike, Bool.and_eq_true] at alike
  simp only [PeerEntry.same_as, Bool.and_eq_true]
  exact alike.1.1

theorem alike_iff {known entry : PeerEntry} (said : known.same_as entry = true) :
    known.alike entry = true ↔ known.capabilities = entry.capabilities ∧ known.rooms = entry.rooms := by
  simp only [PeerEntry.same_as, Bool.and_eq_true] at said
  simp [PeerEntry.alike, said]

/-- As many entries say the same as are alike only where all that say the same are alike. -/
theorem declared_of_counts {own : PeersFile} {table : NodeTable}
    (counts : (meetings own table).countP (fun met => met.1.same_as met.2) =
      (meetings own table).countP fun met => met.1.alike met.2) : Declared own table := by
  have within : (meetings own table).countP (fun met => met.1.alike met.2) =
      ((meetings own table).filter fun met => met.1.same_as met.2).countP fun met => met.1.alike met.2 := by
    rw [List.countP_filter]
    refine List.countP_congr fun met _ => ?_
    simp only [Bool.and_eq_true, iff_self_and]
    exact same_as_of_alike
  rw [within, List.countP_eq_length_filter, eq_comm, List.countP_eq_length] at counts
  intro met inside said
  exact (alike_iff said).mp (counts met (List.mem_filter.mpr ⟨inside, said⟩))

/-- The reports tell every difference exactly where entries with one key and the same addresses declare the same. -/
theorem merge_tells_iff (own : PeersFile) (table : NodeTable) : Tells debug own table ↔ Declared own table := by
  obtain ⟨unchanged, conflicts⟩ := LocalWins.merge_reports PeerEntry.node_id PeerEntry.same_as (Conflict.between debug)
    own.peers table.entries
  constructor
  · rintro ⟨counted, -⟩
    exact declared_of_counts (unchanged.symm.trans counted)
  · intro declared
    have agree : ∀ met ∈ meetings own table, met.1.same_as met.2 = met.1.alike met.2 := by
      intro met inside
      rw [Bool.eq_iff_iff]
      exact ⟨fun said => (alike_iff said).mpr (declared met inside said), same_as_of_alike⟩
    constructor
    · rw [merge_table, unchanged]
      exact List.countP_congr fun met inside => by rw [agree met inside]
    · rw [merge_table, conflicts]
      exact congrArg _ (List.filter_congr fun met inside => by rw [agree met inside])

/-- An entry of one node, with these claims. -/
def claiming (capabilities : List String) : PeerEntry :=
  ⟨"dev-b", ["10.0.0.2:7000"], json [("kty", .string "OKP"), ("crv", .string "Ed25519"),
    ("x", .string "11qYAYKxCrfVS_7TyWQHOg7hcvPapiMlrwIaaPcHURo")], capabilities, []⟩

/-- A table that no longer lets a node hand over tasks, where the file of the node does. -/
theorem withdrawn_claim_unchanged : ¬ ∀ debug own table, Tells debug own table := by
  intro always
  have told := (always (fun _ => "") ⟨1, [claiming ["dispatch"]]⟩ ⟨2, [claiming []]⟩).unchanged
  have counted : (merge_table (fun _ => "") ⟨1, [claiming ["dispatch"]]⟩ ⟨2, [claiming []]⟩).2.unchanged = 1 := rfl
  have differing : (meetings ⟨1, [claiming ["dispatch"]]⟩ ⟨2, [claiming []]⟩).countP (fun met => met.1.alike met.2) = 0 := rfl
  omega

end Merging

end Riscdom.Net
