import Riscdom.JsonText
import Riscdom.Route

/-!
The table of the peers a node knows, read from its file: the key a frame is held
against is of the last entry of its sender, the entry that says what the sender
may do is the first.
-/
namespace Riscdom.Net
open Riscdom.Json

/-! ### Versioned files -/

inductive VersionedError
  | Io (why : String)
  | Json (why : String)
  | NotAnObject
  | NoVersion
  | TooOld (found oldest : UInt32)
  | Shape (why : String)
deriving DecidableEq

def VersionedError.display : VersionedError → String
  | .Io why => why
  | .Json why => "the file is not JSON: " ++ why
  | .NotAnObject => "the file must hold a JSON object"
  | .NoVersion => "the file carries no `schema_version`; it is not a versioned document"
  | .TooOld found oldest =>
    "the file is version " ++ toString found ++ "; this build reads " ++ toString oldest ++ " and later"
  | .Shape why => why

inductive VersionedLoad (File : Type)
  | Missing
  | Current (file : File)
  | Migrated (from_version : UInt32) (file : File)
  | TooNew (found : UInt32)

/-- The file that was read, if one was. -/
def VersionedLoad.value {File : Type} : VersionedLoad File → Option File
  | .Current file => some file
  | .Migrated _ file => some file
  | .Missing => none
  | .TooNew _ => none

structure Versioned (File : Type) where
  SCHEMA_VERSION : UInt32
  OLDEST_SCHEMA_VERSION : UInt32
  from_value : Value → UInt32 → Except VersionedError File

def schema_version : Value → Except VersionedError UInt32
  | .object members =>
    match lookup "schema_version" members with
    | some (.integer n) => if 0 ≤ n ∧ n < UInt32.size then .ok (.ofNat n.toNat) else .error .NoVersion
    | _ => .error .NoVersion
  | _ => .error .NotAnObject

/-- The reading of a file: its text, none where there is no file, or why it was not read. -/
def load {File : Type} (versioned : Versioned File) (from_str : String → Except String Value) :
    Except String (Option String) → Except VersionedError (VersionedLoad File)
  | .error why => .error (.Io why)
  | .ok none => .ok .Missing
  | .ok (some raw) => do
    let value ← (from_str raw).mapError .Json
    let found ← schema_version value
    if found > versioned.SCHEMA_VERSION then .ok (.TooNew found)
    else if found < versioned.OLDEST_SCHEMA_VERSION then .error (.TooOld found versioned.OLDEST_SCHEMA_VERSION)
    else (versioned.from_value value found).map fun file =>
      if found < versioned.SCHEMA_VERSION then .Migrated found file else .Current file

/-- What is read went through the reader of its format. -/
theorem from_value_of_load {File : Type} {versioned : Versioned File} {from_str : String → Except String Value}
    {raw : Except String (Option String)} {loaded : VersionedLoad File} {file : File}
    (read : load versioned from_str raw = .ok loaded) (holds : loaded.value = some file) :
    ∃ value found, versioned.from_value value found = .ok file := by
  match raw with
  | .error _ => cases read
  | .ok none =>
    obtain rfl : .Missing = loaded := Except.ok.inj read
    cases holds
  | .ok (some text) =>
    simp only [load, bind, Except.bind] at read
    cases parsed : (from_str text).mapError VersionedError.Json with
    | error => simp [parsed] at read
    | ok value =>
      simp only [parsed] at read
      cases versions : schema_version value with
      | error => simp [versions] at read
      | ok found =>
        simp only [versions] at read
        by_cases newer : found > versioned.SCHEMA_VERSION
        · rw [if_pos newer] at read
          obtain rfl := Except.ok.inj read
          cases holds
        · rw [if_neg newer] at read
          by_cases older : found < versioned.OLDEST_SCHEMA_VERSION
          · rw [if_pos older] at read
            cases read
          · rw [if_neg older] at read
            cases shaped : versioned.from_value value found with
            | error => simp [shaped, Except.map] at read
            | ok shape =>
              refine ⟨value, found, ?_⟩
              rw [shaped] at read ⊢
              obtain rfl := Except.ok.inj read
              by_cases migrated : found < versioned.SCHEMA_VERSION
              · simpa [migrated, VersionedLoad.value] using holds
              · simpa [migrated, VersionedLoad.value] using holds

/-! ### Keys -/

inductive PeersError
  | Versioned (error : VersionedError)
  | Entry (why : String)
deriving DecidableEq

def PeersError.display : PeersError → String
  | .Versioned error => error.display
  | .Entry why => "the peer table is not usable: " ++ why

/-- The third-party functions of the table: the reading of a document and of the members of a
table, base64, the keys of Ed25519, and the quoting of a text. -/
structure PeerFormat where
  from_str : String → Except String Value
  from_value : Value → Except String PeersFile
  decode : String → Except String (List UInt8)
  from_bytes : List UInt8 → Except String VerifyingKey
  quoted : String → String

def PeerKeys.new : PeerKeys := ⟨fun _ => none⟩

def PeerKeys.insert (keys : PeerKeys) (node_id : String) (fresh : List VerifyingKey) : PeerKeys :=
  ⟨fun other => if other = node_id then some fresh else keys.by_node other⟩

def DISPATCH_CLAIM : String := "dispatch"

def PeerEntry.may_dispatch (entry : PeerEntry) : Bool := entry.capabilities.any (· == DISPATCH_CLAIM)

section
variable (format : PeerFormat)

def public_key_from_jwk (value : Value) : Except PeersError VerifyingKey :=
  match value with
  | .object members =>
    let kty := ((lookup "kty" members).bind Value.as_str).getD ""
    let crv := ((lookup "crv" members).bind Value.as_str).getD ""
    if kty ≠ "OKP" ∨ crv ≠ "Ed25519" then
      .error (.Entry ("the public key is " ++ format.quoted kty ++ "/" ++ format.quoted crv ++
        ", expected \"OKP\"/\"Ed25519\""))
    else if (lookup "d" members).isSome then
      .error (.Entry "the entry carries a private key (`d`); a peer table holds public keys only")
    else
      match (lookup "x" members).bind Value.as_str with
      | none => .error (.Entry "the public key carries no `x`")
      | some x =>
        match format.decode x with
        | .error why => .error (.Entry ("`x` is not base64url: " ++ why))
        | .ok bytes =>
          if bytes.length ≠ 32 then .error (.Entry ("`x` is " ++ toString bytes.length ++ " bytes, expected 32"))
          else (format.from_bytes bytes).mapError fun why => .Entry ("`x` is not a public key: " ++ why)
  | _ => .error (.Entry "the public key is not a JSON object")

def PeerEntry.verifying_key (entry : PeerEntry) : Except PeersError VerifyingKey :=
  public_key_from_jwk format entry.public_key

/-- The key of an entry, in the stead of one that is held for its node. -/
def PeerKeys.hold (keys : PeerKeys) (entry : PeerEntry) : Except PeersError PeerKeys :=
  (entry.verifying_key format).map fun key => keys.insert entry.node_id [key]

def PeersFile.peer_keys (file : PeersFile) : Except PeersError PeerKeys :=
  file.peers.foldlM (PeerKeys.hold format) .new

/-! ### The table -/

/-- An entry has a node id, and its key is a public key. -/
def PeerEntry.check (entry : PeerEntry) : Except VersionedError Unit :=
  if Text.trim entry.node_id = "" then .error (.Shape "a peer entry has an empty node_id")
  else ((entry.verifying_key format).mapError fun error => .Shape error.display).map fun _ => ()

def PeersFile.from_value (value : Value) : Except VersionedError PeersFile := do
  let file ← (format.from_value value).mapError fun why => .Shape ("the peer table is malformed: " ++ why)
  file.peers.forM (PeerEntry.check format)
  return file

def PeersFile.versioned : Versioned PeersFile := ⟨1, 1, fun value _ => PeersFile.from_value format value⟩

def PeersFile.load (raw : Except String (Option String)) : Except PeersError (VersionedLoad PeersFile) :=
  (Net.load (PeersFile.versioned format) format.from_str raw).mapError .Versioned

end

/-- May a node hand this one a task? What its entry declares, and no where it has none. -/
def may_dispatch (peers : Option PeersFile) (sender : String) : Bool :=
  ((peers.bind fun peers => peers.entry sender).map PeerEntry.may_dispatch).getD false

/-! ### The two lookups -/

section
variable {format : PeerFormat}

theorem by_node_insert (keys : PeerKeys) (node_id other : String) (fresh : List VerifyingKey) :
    (keys.insert node_id fresh).by_node other = if other = node_id then some fresh else keys.by_node other := rfl

/-- The last entry of a node. -/
def PeersFile.last_entry (file : PeersFile) (node_id : String) : Option PeerEntry :=
  file.peers.reverse.find? fun entry => entry.node_id == node_id

/-- Every entry has a key. -/
def PeersFile.Keyed (format : PeerFormat) (file : PeersFile) : Prop :=
  ∀ entry ∈ file.peers, ∃ key, entry.verifying_key format = .ok key

/-- Of the entries of one node, the last decides the key it is held to. -/
theorem foldlM_hold {entries : List PeerEntry} (keyed : ∀ entry ∈ entries, ∃ key, entry.verifying_key format = .ok key) :
    ∃ keys, entries.foldlM (PeerKeys.hold format) .new = .ok keys ∧ ∀ node_id,
      (entries.reverse.find? (fun entry => entry.node_id == node_id) = none → keys.by_node node_id = none) ∧
      ∀ entry key, entries.reverse.find? (fun entry => entry.node_id == node_id) = some entry →
        entry.verifying_key format = .ok key → keys.by_node node_id = some [key] := by
  induction entries using List.reverseRecOn with
  | nil => exact ⟨.new, rfl, fun node_id => ⟨fun _ => rfl, fun entry key absent => by simp at absent⟩⟩
  | append_singleton entries last ih =>
    obtain ⟨keys, folded, decided⟩ := ih fun entry inside => keyed entry (List.mem_append_left _ inside)
    obtain ⟨key, has⟩ := keyed last (List.mem_append_right _ List.mem_cons_self)
    refine ⟨keys.insert last.node_id [key], ?_, fun node_id => ?_⟩
    · rw [List.foldlM_append, folded]
      simp [PeerKeys.hold, has, Except.map, bind, Except.bind, pure, Except.pure]
    · rw [List.reverse_append, List.reverse_singleton, List.singleton_append, List.find?_cons, by_node_insert]
      by_cases here : last.node_id = node_id
      · have found : (last.node_id == node_id) = true := beq_iff_eq.mpr here
        rw [if_pos here.symm, found]
        refine ⟨fun absent => (by cases absent), fun entry other same its => ?_⟩
        obtain rfl := Option.some.inj same
        rw [has] at its
        rw [Except.ok.inj its]
      · have passed : (last.node_id == node_id) = false := beq_eq_false_iff_ne.mpr here
        rw [if_neg (Ne.symm here), passed]
        exact decided node_id

theorem key_of_check {entry : PeerEntry} (checked : entry.check format = .ok ()) :
    ∃ key, entry.verifying_key format = .ok key := by
  rw [PeerEntry.check] at checked
  by_cases blank : Text.trim entry.node_id = ""
  · rw [if_pos blank] at checked
    cases checked
  · rw [if_neg blank] at checked
    cases has : entry.verifying_key format with
    | error => simp [has, Except.map, Except.mapError] at checked
    | ok key => exact ⟨key, rfl⟩

theorem check_of_forM {entries : List PeerEntry} (checked : entries.forM (PeerEntry.check format) = .ok ()) :
    ∀ entry ∈ entries, entry.check format = .ok () := by
  induction entries with
  | nil => simp
  | cons first rest ih =>
    rw [List.forM_eq_forM, List.forM_cons] at checked
    cases head : first.check format with
    | error => simp [head, bind, Except.bind] at checked
    | ok =>
      simp only [head, bind, Except.bind] at checked
      intro entry inside
      rcases List.mem_cons.mp inside with rfl | later
      · exact head
      · exact ih checked entry later

/-- A table that is read has a key in every entry. -/
theorem keyed_of_load {raw : Except String (Option String)} {loaded : VersionedLoad PeersFile} {file : PeersFile}
    (read : PeersFile.load format raw = .ok loaded) (holds : loaded.value = some file) : file.Keyed format := by
  rw [PeersFile.load] at read
  cases outcome : Net.load (PeersFile.versioned format) format.from_str raw with
  | error => simp [outcome, Except.mapError] at read
  | ok held =>
    simp only [outcome, Except.mapError] at read
    obtain rfl := Except.ok.inj read
    obtain ⟨value, _, shaped⟩ := from_value_of_load outcome holds
    change PeersFile.from_value format value = .ok file at shaped
    simp only [PeersFile.from_value, bind, Except.bind] at shaped
    cases members : (format.from_value value).mapError
        fun why => VersionedError.Shape ("the peer table is malformed: " ++ why) with
    | error => simp [members] at shaped
    | ok table =>
      simp only [members] at shaped
      cases checked : table.peers.forM (PeerEntry.check format) with
      | error => simp [checked] at shaped
      | ok =>
        simp only [checked] at shaped
        obtain rfl : table = file := Except.ok.inj shaped
        intro entry inside
        exact key_of_check (check_of_forM checked entry inside)

variable (format)

/-- The first and the last entry of a node carry one key. -/
def PeersFile.SameKey (file : PeersFile) (node_id : String) : Prop :=
  (file.entry node_id).map (PeerEntry.verifying_key format) = (file.last_entry node_id).map (PeerEntry.verifying_key format)

/-- The key a node is held to is the key of the entry that is looked up for it, and every frame of
the node that is let through is signed with the key of the entry that says what it may do. -/
structure PeersFile.Belongs (file : PeersFile) (node_id : String) : Prop where
  key : ∃ entry key keys, file.entry node_id = some entry ∧ entry.verifying_key format = .ok key ∧
    file.peer_keys format = .ok keys ∧ keys.keys_of node_id = [key]
  frames : ∀ (wire : Wire) (message : SignedMessage) (keys : PeerKeys), message.sender = node_id →
    file.peer_keys format = .ok keys → check_identity wire message keys = .ok () →
      ∃ entry key, file.entry node_id = some entry ∧ may_dispatch (some file) node_id = entry.may_dispatch ∧
        entry.verifying_key format = .ok key ∧ message.verify_with wire key = true

variable {format}

theorem entry_of_mem {file : PeersFile} {node_id : String} (inside : node_id ∈ file.peers.map PeerEntry.node_id) :
    ∃ entry ∈ file.peers, file.entry node_id = some entry := by
  obtain ⟨held, among, named⟩ := List.mem_map.mp inside
  cases first : file.entry node_id with
  | some entry => exact ⟨entry, List.mem_of_find?_eq_some first, rfl⟩
  | none => simpa [named] using List.find?_eq_none.mp first held among

theorem last_entry_of_mem {file : PeersFile} {node_id : String} (inside : node_id ∈ file.peers.map PeerEntry.node_id) :
    ∃ entry ∈ file.peers, file.last_entry node_id = some entry := by
  obtain ⟨held, among, named⟩ := List.mem_map.mp inside
  cases last : file.last_entry node_id with
  | some entry => exact ⟨entry, List.mem_reverse.mp (List.mem_of_find?_eq_some last), rfl⟩
  | none => simpa [named] using List.find?_eq_none.mp last held (List.mem_reverse.mpr among)

/-- The key of a node is of its last entry. -/
theorem keys_of_last {file : PeersFile} (keyed : file.Keyed format) {node_id : String} {last : PeerEntry} {key : VerifyingKey}
    (found : file.last_entry node_id = some last) (has : last.verifying_key format = .ok key) :
    ∃ keys, file.peer_keys format = .ok keys ∧ keys.keys_of node_id = [key] := by
  obtain ⟨keys, folded, decided⟩ := foldlM_hold keyed
  refine ⟨keys, folded, ?_⟩
  rw [PeerKeys.keys_of, (decided node_id).2 last key found has, Option.getD_some]

/-- The key a node is held to is the key of the entry that is looked up for it exactly if its first
and its last entry carry one key. -/
theorem belongs_iff_same_key (format : PeerFormat) (raw : Except String (Option String)) (loaded : VersionedLoad PeersFile)
    (file : PeersFile) (read : PeersFile.load format raw = .ok loaded) (holds : loaded.value = some file)
    (node_id : String) (inside : node_id ∈ file.peers.map PeerEntry.node_id) :
    file.Belongs format node_id ↔ file.SameKey format node_id := by
  have keyed := keyed_of_load read holds
  obtain ⟨first, among, found⟩ := entry_of_mem inside
  obtain ⟨last, behind, found_last⟩ := last_entry_of_mem inside
  obtain ⟨key, has⟩ := keyed first among
  obtain ⟨last_key, last_has⟩ := keyed last behind
  obtain ⟨keys, folded, held⟩ := keys_of_last keyed found_last last_has
  have same_iff : file.SameKey format node_id ↔ key = last_key := by
    simp [PeersFile.SameKey, found, found_last, has, last_has]
  rw [same_iff]
  constructor
  · rintro ⟨⟨entry, its, others, looked, carried, again, alone⟩, -⟩
    rw [found] at looked
    obtain rfl := Option.some.inj looked
    rw [has] at carried
    obtain rfl := Except.ok.inj carried
    rw [folded] at again
    obtain rfl := Except.ok.inj again
    rw [held] at alone
    exact (List.cons.inj alone).1.symm
  · rintro rfl
    refine ⟨⟨first, key, keys, found, has, folded, held⟩, fun wire message others sent again passed => ?_⟩
    rw [folded] at again
    obtain rfl := Except.ok.inj again
    obtain ⟨-, signer, signs, verifies⟩ := (check_identity_ok.mp passed).1
    rw [sent, held, List.mem_singleton] at signs
    obtain rfl := signs
    refine ⟨first, signer, found, ?_, has, verifies⟩
    simp [may_dispatch, found]

end

/-! ### One node under two keys -/

def jwk (x : String) : Value := json [("kty", .string "OKP"), ("crv", .string "Ed25519"), ("x", .string x)]

def first_key : VerifyingKey := ⟨[215, 90, 152, 1, 130, 177, 10, 183, 213, 75, 254, 211, 201, 100, 7, 58, 14, 225, 114, 243,
  218, 166, 35, 37, 175, 2, 26, 104, 247, 7, 81, 26]⟩
def second_key : VerifyingKey := ⟨[61, 64, 23, 195, 232, 67, 137, 90, 146, 183, 10, 167, 77, 27, 126, 188, 156, 152, 44, 207,
  46, 196, 150, 140, 192, 205, 85, 241, 42, 244, 102, 12]⟩

/-- A node that may hand over tasks, and its id again with another key. -/
def named_twice : PeersFile :=
  ⟨1, [⟨"dev-b", ["10.0.0.2:7000"], jwk "11qYAYKxCrfVS_7TyWQHOg7hcvPapiMlrwIaaPcHURo", ["dispatch"], []⟩,
    ⟨"dev-b", ["10.0.0.3:7000"], jwk "PUAXw-hDiVqStwqnTRt-vJyYLM8uxJaMwM1V8Sr0Zgw", [], []⟩]⟩

def named_once : PeersFile := ⟨1, named_twice.peers.take 1⟩

def PeersFile.document (file : PeersFile) : Value :=
  json [("schema_version", .integer file.schema_version.toNat), ("peers", .array (file.peers.map fun entry =>
    json [("node_id", .string entry.node_id), ("addresses", .array (entry.addresses.map .string)),
      ("public_key", entry.public_key), ("capabilities", .array (entry.capabilities.map .string)),
      ("rooms", .array (entry.rooms.map .string))]))]

def PeersFile.text (file : PeersFile) : String := compact.to_string file.document

/-- The readers on the text of a table. -/
def reading (file : PeersFile) : PeerFormat where
  from_str _ := .ok file.document
  from_value _ := .ok file
  decode x :=
    if x = "11qYAYKxCrfVS_7TyWQHOg7hcvPapiMlrwIaaPcHURo" then .ok first_key.bytes
    else if x = "PUAXw-hDiVqStwqnTRt-vJyYLM8uxJaMwM1V8Sr0Zgw" then .ok second_key.bytes
    else .error "Invalid padding"
  from_bytes bytes := .ok ⟨bytes⟩
  quoted text := "\"" ++ text ++ "\""

/-- A table with one entry for each node is read, and the entry goes with the key. -/
theorem named_once_belongs : named_once.Belongs (reading named_once) "dev-b" :=
  (belongs_iff_same_key (reading named_once) (.ok (some named_once.text)) (.Current named_once) named_once rfl rfl "dev-b"
    (by decide)).mpr rfl

/-- The second entry brings the key of the node, the first what it may do. -/
theorem second_entry_decides : ¬ ∀ (format : PeerFormat) (raw : Except String (Option String))
    (loaded : VersionedLoad PeersFile) (file : PeersFile), PeersFile.load format raw = .ok loaded →
      loaded.value = some file → ∀ node_id ∈ file.peers.map PeerEntry.node_id, file.Belongs format node_id := by
  intro always
  have read : PeersFile.load (reading named_twice) (.ok (some named_twice.text)) = .ok (.Current named_twice) := rfl
  obtain ⟨entry, key, keys, looked, carried, folded, held⟩ :=
    (always (reading named_twice) _ _ named_twice read rfl "dev-b" (by decide)).key
  have of_first : (named_twice.entry "dev-b").map (PeerEntry.verifying_key (reading named_twice)) = some (.ok first_key) := rfl
  have of_second : (named_twice.peer_keys (reading named_twice)).map (fun keys => keys.keys_of "dev-b") = .ok [second_key] := rfl
  rw [looked, Option.map_some, carried] at of_first
  rw [folded, Except.map, held] at of_second
  have differs : first_key ≠ second_key := by decide
  exact differs ((Except.ok.inj (Option.some.inj of_first)).symm.trans (List.cons.inj (Except.ok.inj of_second)).1)

end Riscdom.Net
