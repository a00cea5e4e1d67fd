import Riscdom.HandDowns
import Riscdom.PeerTable
import Riscdom.Relaying

/-!
Announcements: one signed frame that offers the addresses of an entry. The entry
is named by the body of the frame, and nothing holds it against the sender.
-/
namespace Riscdom.Net
open Riscdom.Json

/-! ### What is decided of one -/

/-- A message that passed the checks. -/
structure VerifiedMessage where
  sender : String
  recipient : String
  ts : Int64
  body : Value

def verify_at (wire : Wire) (message : SignedMessage) (this_node : String) (peers : PeerKeys) (guard : ReplayGuard)
    (now : Int64) : Except VerifyError VerifiedMessage × ReplayGuard :=
  match check_identity wire message peers with
  | .error error => (.error error, guard)
  | .ok () =>
    if message.recipient ≠ this_node then (.error (.NotAddressedToUs message.recipient this_node), guard)
    else
      match check_record wire message guard now with
      | (.error error, guard) => (.error error, guard)
      | (.ok (), guard) => (.ok ⟨message.sender, message.recipient, message.ts, message.body⟩, guard)

/-- The rooms a node is in. -/
structure RoomFilter where
  rooms : List String

def RoomFilter.none : RoomFilter := ⟨[]⟩

def RoomFilter.admits (filter : RoomFilter) (announced : List String) : Bool :=
  if filter.rooms.isEmpty then false else announced.any fun room => filter.rooms.contains room

inductive DiscoveryError
  | Peers (error : PeersError)
  | Shape (why : String)
  | Message (error : MessageError)

def DiscoveryError.display : DiscoveryError → String
  | .Peers error => error.display
  | .Shape why => why
  | .Message error => error.display

/-- What an announcement was allowed to do. -/
inductive Adoption
  | RefreshedAddresses (node_id : String) (addresses : List String)
  | ReportedUnknown (node_id : String) (addresses rooms : List String)
  | IgnoredOutOfRoom (rooms : List String)

namespace Adoption

def ignored : Adoption → Bool
  | IgnoredOutOfRoom _ => true
  | _ => false

/-- A node, with the addresses that are worth taking for it. -/
def refreshed : Adoption → Option (String × List String)
  | RefreshedAddresses node_id addresses => some (node_id, addresses)
  | _ => none

end Adoption

/-- The readers of a peer table, and those of the members of an announcement. -/
structure AnnouncementFormat extends PeerFormat where
  rooms_from_value : Value → Except String (List String)
  entry_from_value : Value → Except String PeerEntry

def PeerEntry.to_value (entry : PeerEntry) : Value :=
  json [("node_id", .string entry.node_id), ("addresses", .array (entry.addresses.map .string)),
    ("public_key", entry.public_key), ("capabilities", .array (entry.capabilities.map .string)),
    ("rooms", .array (entry.rooms.map .string))]

def announcement_body (entry : PeerEntry) (rooms : List String) : Value :=
  json [("entry", entry.to_value), ("rooms", .array (rooms.map .string))]

section
variable (format : AnnouncementFormat)

def announced_rooms (body : Value) : Except DiscoveryError (List String) :=
  match body.get "rooms" with
  | none => .error (.Shape "the announcement names no rooms")
  | some rooms => (format.rooms_from_value rooms).mapError fun why => .Shape ("the announced rooms are malformed: " ++ why)

def announced_entry (body : Value) : Except DiscoveryError PeerEntry :=
  match body.get "entry" with
  | none => .error (.Shape "the announcement carries no entry")
  | some value =>
    match format.entry_from_value value with
    | .error why => .error (.Shape ("the announced entry is malformed: " ++ why))
    | .ok entry =>
      match entry.verifying_key format.toPeerFormat with
      | .error error => .error (.Shape error.display)
      | .ok _ => .ok entry

/-- The rooms first, then an address and never a key. -/
def consider_announcement (body : Value) (known : PeersFile) (filter : RoomFilter) : Except DiscoveryError Adoption :=
  match announced_rooms format body with
  | .error error => .error error
  | .ok rooms =>
    if ¬ filter.admits rooms then .ok (.IgnoredOutOfRoom rooms)
    else
      match announced_entry format body with
      | .error error => .error error
      | .ok entry =>
        match known.entry entry.node_id with
        | some _ => .ok (.RefreshedAddresses entry.node_id entry.addresses)
        | none => .ok (.ReportedUnknown entry.node_id entry.addresses rooms)

end

/-! ### What it does to a table -/

/-- New addresses for the entry of a node. -/
def readdress (node_id : String) (addresses : List String) : List PeerEntry → List PeerEntry
  | [] => []
  | entry :: rest =>
    if entry.node_id = node_id then { entry with addresses } :: rest else entry :: readdress node_id addresses rest

/-- The table of a node that takes what an announcement offers. -/
def PeersFile.take (known : PeersFile) (adopted : Except DiscoveryError Adoption) : PeersFile :=
  match adopted.toOption.bind Adoption.refreshed with
  | some (node_id, addresses) => { known with peers := readdress node_id addresses known.peers }
  | none => known

/-- Only the addresses of this node, if any. -/
def Readdressed (node_id : String) (before after : PeerEntry) : Prop :=
  after = before ∨ before.node_id = node_id ∧ after = { before with addresses := after.addresses }

/-- An announcement changes at most the addresses of its sender, and neither introduces nor changes a key. -/
structure Supplements (format : AnnouncementFormat) (known : PeersFile) (filter : RoomFilter) (message : VerifiedMessage) :
    Prop where
  own : List.Forall₂ (Readdressed message.sender) known.peers
    (known.take (consider_announcement format message.body known filter)).peers
  keys : (known.take (consider_announcement format message.body known filter)).peers.map
    (fun entry => (entry.node_id, entry.public_key)) = known.peers.map fun entry => (entry.node_id, entry.public_key)

/-- An announcement for a room of the node, of a node it knows, is of its sender, or brings no new address. -/
def OfItsSender (format : AnnouncementFormat) (known : PeersFile) (filter : RoomFilter) (message : VerifiedMessage) : Prop :=
  ∀ rooms entry held, announced_rooms format message.body = .ok rooms → filter.admits rooms = true →
    announced_entry format message.body = .ok entry → known.entry entry.node_id = some held →
      entry.node_id = message.sender ∨ entry.addresses = held.addresses

/-! ### One entry of the table -/

theorem readdress_keys (node_id : String) (addresses : List String) (entries : List PeerEntry) :
    (readdress node_id addresses entries).map (fun entry => (entry.node_id, entry.public_key)) =
      entries.map fun entry => (entry.node_id, entry.public_key) := by
  induction entries with
  | nil => rfl
  | cons entry rest ih =>
    rw [readdress]
    by_cases here : entry.node_id = node_id
    · simp [here]
    · simp [here, ih]

theorem unchanged_entries (node_id : String) (entries : List PeerEntry) :
    List.Forall₂ (Readdressed node_id) entries entries := by
  induction entries with
  | nil => exact .nil
  | cons entry rest ih => exact .cons (.inl rfl) ih

theorem readdress_own (node_id : String) (addresses : List String) (entries : List PeerEntry) :
    List.Forall₂ (Readdressed node_id) entries (readdress node_id addresses entries) := by
  induction entries with
  | nil => exact .nil
  | cons entry rest ih =>
    rw [readdress]
    by_cases here : entry.node_id = node_id
    · rw [if_pos here]
      exact .cons (.inr ⟨here, rfl⟩) (unchanged_entries node_id rest)
    · rw [if_neg here]
      exact .cons (.inl rfl) ih

/-- The addresses an entry has already change nothing. -/
theorem readdress_same {node_id : String} {entries : List PeerEntry} {held : PeerEntry}
    (found : entries.find? (fun entry => entry.node_id == node_id) = some held) :
    readdress node_id held.addresses entries = entries := by
  induction entries with
  | nil => rfl
  | cons entry rest ih =>
    rw [readdress]
    rw [List.find?_cons] at found
    by_cases here : entry.node_id = node_id
    · rw [beq_iff_eq.mpr here] at found
      obtain rfl := Option.some.inj found
      rw [if_pos here]
    · rw [beq_eq_false_iff_ne.mpr here] at found
      rw [if_neg here, ih found]

/-- A table in which only the entry of another node may change keeps the addresses of this one. -/
theorem addresses_of_others {node_id sender : String} {addresses : List String} {entries : List PeerEntry} {held : PeerEntry}
    (found : entries.find? (fun entry => entry.node_id == node_id) = some held) (differs : node_id ≠ sender)
    (own : List.Forall₂ (Readdressed sender) entries (readdress node_id addresses entries)) : addresses = held.addresses := by
  induction entries with
  | nil => cases found
  | cons entry rest ih =>
    rw [readdress] at own
    rw [List.find?_cons] at found
    by_cases here : entry.node_id = node_id
    · rw [beq_iff_eq.mpr here] at found
      obtain rfl := Option.some.inj found
      rw [if_pos here] at own
      rcases (List.forall₂_cons.mp own).1 with same | ⟨its, -⟩
      · exact congrArg PeerEntry.addresses same
      · exact absurd (here.symm.trans its) differs
    · rw [beq_eq_false_iff_ne.mpr here] at found
      rw [if_neg here] at own
      exact ih found (List.forall₂_cons.mp own).2

/-! ### One announcement -/

section
variable {format : AnnouncementFormat} {body : Value} {known : PeersFile} {filter : RoomFilter}

/-- An announcement in a room of the node, of an entry whose node is known. -/
structure Heard (format : AnnouncementFormat) (body : Value) (known : PeersFile) (filter : RoomFilter) (entry held : PeerEntry) :
    Prop where
  rooms : ∃ rooms, announced_rooms format body = .ok rooms ∧ filter.admits rooms = true
  carried : announced_entry format body = .ok entry
  met : known.entry entry.node_id = some held

theorem take_of_heard {entry held : PeerEntry} (heard : Heard format body known filter entry held) :
    (known.take (consider_announcement format body known filter)).peers =
      readdress entry.node_id entry.addresses known.peers := by
  obtain ⟨⟨rooms, named, admitted⟩, carried, met⟩ := heard
  simp [PeersFile.take, consider_announcement, named, admitted, carried, met, Except.toOption, Adoption.refreshed]

theorem take_of_unheard (unheard : ¬ ∃ entry held, Heard format body known filter entry held) :
    known.take (consider_announcement format body known filter) = known := by
  rw [consider_announcement]
  cases named : announced_rooms format body with
  | error => rfl
  | ok rooms =>
    by_cases admitted : filter.admits rooms = true
    · simp only [admitted, not_true_eq_false, if_false]
      cases carried : announced_entry format body with
      | error => rfl
      | ok entry =>
        cases met : known.entry entry.node_id with
        | none => simp [PeersFile.take, met, Except.toOption, Adoption.refreshed]
        | some held => exact absurd ⟨entry, held, ⟨rooms, named, admitted⟩, carried, met⟩ unheard
    · simp only [admitted]
      rfl

end

/-- An announcement changes at most the addresses of its sender exactly where it is of its sender. -/
theorem supplements_iff_of_its_sender (format : AnnouncementFormat) (known : PeersFile) (filter : RoomFilter)
    (message : VerifiedMessage) : Supplements format known filter message ↔ OfItsSender format known filter message := by
  constructor
  · rintro ⟨own, -⟩ rooms entry held named admitted carried met
    rw [take_of_heard ⟨⟨rooms, named, admitted⟩, carried, met⟩] at own
    by_cases its : entry.node_id = message.sender
    · exact .inl its
    · exact .inr (addresses_of_others met its own)
  · intro fair
    by_cases heard : ∃ entry held, Heard format message.body known filter entry held
    · obtain ⟨entry, held, fits⟩ := heard
      obtain ⟨rooms, named, admitted⟩ := fits.rooms
      have taken := take_of_heard fits
      constructor
      · rw [taken]
        rcases fair rooms entry held named admitted fits.carried fits.met with its | same
        · rw [its]
          exact readdress_own message.sender entry.addresses known.peers
        · rw [same, readdress_same fits.met]
          exact unchanged_entries message.sender known.peers
      · rw [taken, readdress_keys]
    · constructor
      · rw [take_of_unheard heard]
        exact unchanged_entries message.sender known.peers
      · rw [take_of_unheard heard]

/-! ### One node announcing another -/

def two_nodes : PeersFile :=
  ⟨1, [⟨"dev-a", ["10.0.0.1:7000"], jwk "11qYAYKxCrfVS_7TyWQHOg7hcvPapiMlrwIaaPcHURo", [], []⟩,
    ⟨"dev-b", ["10.0.0.2:7000"], jwk "PUAXw-hDiVqStwqnTRt-vJyYLM8uxJaMwM1V8Sr0Zgw", [], []⟩]⟩

def two_keys : PeerKeys := (PeerKeys.new.insert "dev-a" [first_key]).insert "dev-b" [second_key]

/-- The entry of one node, with an address of the other. -/
def redirected : PeerEntry :=
  ⟨"dev-a", ["10.0.0.66:7000"], jwk "11qYAYKxCrfVS_7TyWQHOg7hcvPapiMlrwIaaPcHURo", [], []⟩

/-- It is announced, and signed, by the other. -/
def redirection : SignedMessage := ⟨1, "dev-b", "dev-b", 1700000000000, announcement_body redirected ["lab"], zero_signature⟩

def beacon_format : AnnouncementFormat :=
  { reading two_nodes with rooms_from_value := fun _ => .ok ["lab"], entry_from_value := fun _ => .ok redirected }

/-- The library functions on this frame: the zeros are what the second key signs. -/
def beacon_wire : Wire where
  crates :=
    { json := compact
      sha256_hex := Audit.digest_of
        [(compact.to_string redirection.body, "b2dd0134dc7e2f73aa8f32117516b4810ffcce9691861f1009c3c55616890911")] }
  from_str _ := .ok redirection
  decode text := if text = zero_signature then .ok (List.replicate 64 0) else .error "Invalid padding"
  verify_strict key _ signature := key == second_key && signature == List.replicate 64 0

theorem redirection_verified : (verify_at beacon_wire redirection "dev-b" two_keys .new 1700000000000).1 =
    .ok ⟨"dev-b", "dev-b", 1700000000000, announcement_body redirected ["lab"]⟩ := by
  have signed : check_identity beacon_wire redirection two_keys = .ok () := by
    refine check_identity_ok.mpr ⟨⟨rfl, second_key, List.mem_singleton.mpr rfl, ?_⟩, rfl⟩
    simp [SignedMessage.verify_with, SignedMessage.signature, beacon_wire, redirection, SIGNATURE_BYTES]
  have fresh : (ReplayGuard.new.accept (redirection.call beacon_wire 1700000000000)).1.toBool = true :=
    ReplayGuard.accept_toBool_iff.mpr ⟨by decide, by decide⟩
  have recorded := (check_record_step ReplayGuard.new 1700000000000).2.mpr fresh
  rw [verify_at, signed]
  simp only [redirection, ne_eq, not_true_eq_false, if_false]
  split
  · rename_i error guard refused
    have accepted := recorded.symm.trans (congrArg Prod.fst refused)
    cases accepted
  · rfl

/-- A node that is known moves the address of another. -/
theorem redirection_taken : ¬ ∀ (format : AnnouncementFormat) (wire : Wire) (message : SignedMessage) (this_node : String)
    (peers : PeerKeys) (guard : ReplayGuard) (now : Int64) (known : PeersFile) (filter : RoomFilter)
    (verified : VerifiedMessage), (verify_at wire message this_node peers guard now).1 = .ok verified →
      Supplements format known filter verified := by
  intro always
  have own := (always beacon_format beacon_wire redirection "dev-b" two_keys .new 1700000000000 two_nodes ⟨["lab"]⟩ _
    redirection_verified).own
  have heard : Heard beacon_format (announcement_body redirected ["lab"]) two_nodes ⟨["lab"]⟩ redirected
      ⟨"dev-a", ["10.0.0.1:7000"], jwk "11qYAYKxCrfVS_7TyWQHOg7hcvPapiMlrwIaaPcHURo", [], []⟩ :=
    ⟨⟨["lab"], rfl, by decide⟩, rfl, rfl⟩
  rw [take_of_heard heard] at own
  have kept := addresses_of_others heard.met (by decide) own
  exact absurd kept (by decide)

end Riscdom.Net
