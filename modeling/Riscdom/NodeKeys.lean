import Mathlib.Data.List.Infix
import Mathlib.Logic.Function.Basic
import Riscdom.Machine
import Riscdom.PeerTable

/-!
A node's key: read from its file, or minted once. Any number of processes start on
one data directory; reading, minting and writing are steps of their own, and a
write may stop at any byte.
-/
namespace Riscdom.Net
open Riscdom.Json Riscdom.Machine

/-! ### The key -/

def KEY_TYPE : String := "OKP"
def CURVE : String := "Ed25519"
def KEY_BYTES : Nat := 32

/-- A seed. -/
structure SigningKey where
  bytes : List UInt8
  length : bytes.length = KEY_BYTES

structure NodeKey where
  schema_version : UInt32
  kty : String
  crv : String
  x : String
  d : String
deriving DecidableEq

inductive NodeKeyError
  | Versioned (error : VersionedError)
  | Shape (why : String)
  | Random (why : String)
deriving DecidableEq

def NodeKeyError.display : NodeKeyError → String
  | .Versioned error => error.display
  | .Shape why => "the node key is not a usable JWK: " ++ why
  | .Random why => "the OS random source failed: " ++ why

/-- The third-party functions of the key file: the text of a document, its members, base64, and Ed25519. -/
structure KeyFormat where
  from_str : String → Except String Value
  to_string_pretty : NodeKey → Except String String
  from_value : Value → Except String NodeKey
  encode : List UInt8 → String
  decode : String → Except String (List UInt8)
  verifying_key : List UInt8 → List UInt8
  from_bytes : List UInt8 → Except String VerifyingKey
  quoted : String → String

def decode_member (format : KeyFormat) (wanted : Nat) (field text : String) : Except NodeKeyError (List UInt8) :=
  match format.decode text with
  | .error why => .error (.Shape ("`" ++ field ++ "` is not base64url: " ++ why))
  | .ok bytes =>
    if bytes.length = wanted then .ok bytes
    else .error (.Shape ("`" ++ field ++ "` is " ++ toString bytes.length ++ " bytes, expected " ++ toString wanted))

namespace NodeKey
variable (format : KeyFormat)

def SCHEMA_VERSION : UInt32 := 1

def from_signing_key (key : SigningKey) : NodeKey where
  schema_version := SCHEMA_VERSION
  kty := KEY_TYPE
  crv := CURVE
  x := format.encode (format.verifying_key key.bytes)
  d := format.encode key.bytes

/-- A key from the random source, or why there is none. -/
def generate (random : Except String SigningKey) : Except NodeKeyError NodeKey :=
  match random with
  | .ok seed => .ok (from_signing_key format seed)
  | .error why => .error (.Random why)

def check_labels (key : NodeKey) : Except NodeKeyError Unit :=
  if key.kty ≠ KEY_TYPE then
    .error (.Shape ("kty is " ++ format.quoted key.kty ++ ", expected " ++ format.quoted KEY_TYPE))
  else if key.crv ≠ CURVE then
    .error (.Shape ("crv is " ++ format.quoted key.crv ++ ", expected " ++ format.quoted CURVE))
  else .ok ()

/-- Both halves, the public one derived from the private one and compared. -/
def pair (key : NodeKey) : Except NodeKeyError (List UInt8 × VerifyingKey) := do
  key.check_labels format
  let seed ← decode_member format KEY_BYTES "d" key.d
  if format.encode (format.verifying_key seed) ≠ key.x then
    .error (.Shape "the public half does not match the private half")
  else
    let public_bytes ← decode_member format KEY_BYTES "x" key.x
    let verifying ← (format.from_bytes public_bytes).mapError fun why => .Shape ("`x` is not a public key: " ++ why)
    return (seed, verifying)

def check_shape (key : NodeKey) : Except NodeKeyError Unit := (key.pair format).map fun _ => ()

def versioned : Versioned NodeKey where
  SCHEMA_VERSION := SCHEMA_VERSION
  OLDEST_SCHEMA_VERSION := SCHEMA_VERSION
  from_value value _ := do
    let key ← (format.from_value value).mapError fun why => .Shape ("the node key is malformed: " ++ why)
    (key.check_shape format).mapError fun error => .Shape error.display
    return key

/-- What a key file of this content is read as; a byte of it is a character. -/
def load_in (file : Option (List Char)) : Except NodeKeyError (VersionedLoad NodeKey) :=
  (load (versioned format) format.from_str (.ok (file.map String.ofList))).mapError .Versioned

/-- The bytes a key is written as. -/
def to_bytes (key : NodeKey) : Except NodeKeyError (List Char) :=
  match format.to_string_pretty key with
  | .ok text => .ok (text.toList ++ ['\n'])
  | .error why => .error (.Versioned (.Json why))

/-- The document a key is written as. -/
def document (key : NodeKey) : Value :=
  json [("schema_version", .integer key.schema_version.toNat), ("kty", .string key.kty), ("crv", .string key.crv),
    ("x", .string key.x), ("d", .string key.d)]

end NodeKey

/-- What the third-party functions do with a minted key: its text is read back, with the newline after it or without,
    and no shorter piece of it is a document; base64 is read back, and a seed has a public key. -/
structure KeyFormat.Lawful (format : KeyFormat) : Prop where
  written : ∀ seed, ∃ text, format.to_string_pretty (.from_signing_key format seed) = .ok text ∧
    format.from_str text = .ok (NodeKey.document (.from_signing_key format seed)) ∧
    format.from_str (text ++ "\n") = .ok (NodeKey.document (.from_signing_key format seed)) ∧
    ∀ piece, piece <+: text.toList → piece ≠ text.toList → ∃ why, format.from_str (.ofList piece) = .error why
  members : ∀ key : NodeKey, format.from_value key.document = .ok key
  decoded : ∀ bytes, format.decode (format.encode bytes) = .ok bytes
  public_half : ∀ seed : SigningKey, (format.verifying_key seed.bytes).length = KEY_BYTES ∧
    ∃ key, format.from_bytes (format.verifying_key seed.bytes) = .ok key

/-! ### A minted key is read back, and no piece of its text is another key -/

section
variable {format : KeyFormat} (lawful : format.Lawful)
include lawful

theorem minted_shape (seed : SigningKey) : (NodeKey.from_signing_key format seed).check_shape format = .ok () := by
  obtain ⟨length, key, point⟩ := lawful.public_half seed
  have labels : (NodeKey.from_signing_key format seed).check_labels format = .ok () := rfl
  have private_half : decode_member format KEY_BYTES "d" (NodeKey.from_signing_key format seed).d = .ok seed.bytes := by
    simp [decode_member, NodeKey.from_signing_key, lawful.decoded, seed.length]
  have public_half : decode_member format KEY_BYTES "x" (NodeKey.from_signing_key format seed).x =
      .ok (format.verifying_key seed.bytes) := by
    simp [decode_member, NodeKey.from_signing_key, lawful.decoded, length]
  have same : ¬ format.encode (format.verifying_key seed.bytes) ≠ (NodeKey.from_signing_key format seed).x := not_not.mpr rfl
  rw [NodeKey.check_shape, NodeKey.pair, labels, private_half]
  simp only [Bind.bind, Except.bind, if_neg same, public_half, point]
  rfl

omit lawful in
theorem minted_version (seed : SigningKey) : schema_version (NodeKey.document (.from_signing_key format seed)) = .ok 1 := by
  simp only [NodeKey.document, json, schema_version, lookup_fold]
  simp [lookup, NodeKey.from_signing_key, NodeKey.SCHEMA_VERSION, UInt32.size]

/-- A text that is read as the document of a minted key is read as the key. -/
theorem load_in_document {text : List Char} {seed : SigningKey}
    (read : format.from_str (.ofList text) = .ok (NodeKey.document (.from_signing_key format seed))) :
    NodeKey.load_in format (some text) = .ok (.Current (.from_signing_key format seed)) := by
  have shaped : (NodeKey.versioned format).from_value (NodeKey.document (.from_signing_key format seed)) 1 =
      .ok (.from_signing_key format seed) := by
    simp only [NodeKey.versioned, lawful.members, Except.mapError, bind, Except.bind, minted_shape lawful]
    rfl
  simp only [NodeKey.load_in, load, Option.map_some, read, Except.mapError, bind, Except.bind, minted_version, shaped]
  rfl

/-- A key that was minted, and the bytes it is written as. -/
def MintedAs (format : KeyFormat) (key : NodeKey) (bytes : List Char) : Prop :=
  (∃ seed, key = .from_signing_key format seed) ∧ key.to_bytes format = .ok bytes

theorem minted_bytes (seed : SigningKey) : ∃ bytes, MintedAs format (.from_signing_key format seed) bytes := by
  obtain ⟨text, printed, _⟩ := lawful.written seed
  exact ⟨text.toList ++ ['\n'], ⟨seed, rfl⟩, by rw [NodeKey.to_bytes, printed]⟩

variable {key : NodeKey} {bytes piece : List Char} (minted : MintedAs format key bytes) (part : piece <+: bytes)
include minted part

/-- All of the text, or all but the newline, is the key. -/
theorem load_in_whole (long : bytes.length ≤ piece.length + 1) : NodeKey.load_in format (some piece) = .ok (.Current key) := by
  obtain ⟨⟨seed, rfl⟩, written⟩ := minted
  obtain ⟨text, printed, bare, ended, _⟩ := lawful.written seed
  rw [NodeKey.to_bytes, printed] at written
  cases written
  refine load_in_document lawful ?_
  by_cases whole : piece.length = (text.toList ++ ['\n']).length
  · rw [part.eq_of_length whole]
    rw [show String.ofList (text.toList ++ ['\n']) = text ++ "\n" by simp [String.ofList_append]]
    exact ended
  · have short := part.length_le
    have less : piece.length = text.toList.length := by
      rw [List.length_append, List.length_singleton] at long short whole
      omega
    have same : piece = text.toList := (List.prefix_of_prefix_length_le part (List.prefix_append _ _) less.le).eq_of_length less
    rw [same, String.ofList_toList]
    exact bare

/-- A shorter piece is no key. -/
theorem load_in_torn (short : piece.length + 1 < bytes.length) : ∃ error, NodeKey.load_in format (some piece) = .error error := by
  obtain ⟨⟨seed, rfl⟩, written⟩ := minted
  obtain ⟨text, printed, _, _, torn⟩ := lawful.written seed
  rw [NodeKey.to_bytes, printed] at written
  cases written
  rw [List.length_append, List.length_singleton] at short
  have within : piece <+: text.toList := List.prefix_of_prefix_length_le part (List.prefix_append _ _) (by omega)
  obtain ⟨why, refused⟩ := torn piece within (by rintro rfl; omega)
  exact ⟨.Versioned (.Json why), by simp [NodeKey.load_in, load, refused, Except.mapError, bind, Except.bind]⟩

/-- What is read from a piece that grows is read from it still. -/
theorem load_in_grown {found : NodeKey} {longer : List Char} (grown : piece <+: longer) (within : longer <+: bytes)
    (read : NodeKey.load_in format (some piece) = .ok (.Current found)) :
    NodeKey.load_in format (some longer) = .ok (.Current found) := by
  by_cases short : piece.length + 1 < bytes.length
  · obtain ⟨error, refused⟩ := load_in_torn lawful minted part short
    rw [refused] at read
    cases read
  · have more := grown.length_le
    rw [← read, load_in_whole lawful minted part (by omega), load_in_whole lawful minted within (by omega)]

end

/-! ### Processes on one data directory -/

abbrev Pid := Nat

/-- Where a process stands in its call. -/
inductive Phase
  | Idle
  | Missing
  | Minted (key : NodeKey)
  | Writing (key : NodeKey) (left : List Char)
  | Written (key : NodeKey)

/-- The process holds the file it created. -/
def Phase.Owns : Phase → Prop
  | .Writing _ _ => True
  | .Written _ => True
  | _ => False

/-- The key file, where every process stands, and the keys that calls have returned. -/
structure DataDir where
  file : Option (List Char)
  phase : Pid → Phase
  returned : List NodeKey

/-- A step of a process; a stop is a write that fails or the end of the process. -/
inductive KeyAct
  | load (p : Pid)
  | mint (p : Pid) (random : Except String SigningKey)
  | create (p : Pid) (granted : Bool)
  | write (p : Pid) (n : Nat)
  | finish (p : Pid) (synced : Bool)
  | stop (p : Pid)

namespace DataDir

/-- No file yet, and no call. -/
def new : DataDir := ⟨none, fun _ => .Idle, []⟩

def moved (s : DataDir) (p : Pid) (phase : Phase) : DataDir := { s with phase := Function.update s.phase p phase }

/-- A call that returns a key. -/
def answered (s : DataDir) (p : Pid) (key : NodeKey) : DataDir :=
  { s with phase := Function.update s.phase p .Idle, returned := s.returned ++ [key] }

variable (format : KeyFormat)

def step (s : DataDir) : KeyAct → DataDir
  | .load p =>
    match s.phase p with
    | .Idle =>
      match NodeKey.load_in format s.file with
      | .ok .Missing => s.moved p .Missing
      | .ok (.Current key) => s.answered p key
      | .ok (.Migrated _ key) => s.answered p key
      | .ok (.TooNew _) => s
      | .error _ => s
    | _ => s
  | .mint p random =>
    match s.phase p with
    | .Missing =>
      match NodeKey.generate format random with
      | .ok key => s.moved p (.Minted key)
      | .error _ => s.moved p .Idle
    | _ => s
  | .create p granted =>
    match s.phase p with
    | .Minted key =>
      match key.to_bytes format, s.file, granted with
      | .ok bytes, none, true => { s.moved p (.Writing key bytes) with file := some [] }
      -- The directory or the file is refused, or the file is there.
      | _, _, _ => s.moved p .Idle
    | _ => s
  | .write p n =>
    match s.phase p with
    | .Writing key left =>
      { s.moved p (if left.drop n = [] then .Written key else .Writing key (left.drop n)) with
        file := s.file.map (· ++ left.take n) }
    | _ => s
  | .finish p synced =>
    match s.phase p with
    | .Written key => if synced then s.answered p key else s.moved p .Idle
    | _ => s
  | .stop p => s.moved p .Idle

/-- The directory after a run of steps, from a new one. -/
def reached (acts : List KeyAct) : DataDir := run (step format) new acts

/-- One call with no other step in between, its writes working. -/
def undisturbed (p : Pid) (seed : SigningKey) : List KeyAct :=
  let length := match (NodeKey.from_signing_key format seed).to_bytes format with
    | .ok bytes => bytes.length
    | .error _ => 0
  [.load p, .mint p (.ok seed), .create p true, .write p length, .finish p true]

/-- The node can start: a call of an idle process returns a key. -/
def Starts (s : DataDir) : Prop := ∀ p seed, s.phase p = .Idle →
  ∃ key, (run (step format) s (undisturbed format p seed)).returned = s.returned ++ [key]

/-- No call is between creating the file and filling it. -/
def Quiet (s : DataDir) : Prop := ∀ p key left, s.phase p ≠ .Writing key left

/-- A call that created the file does not stop before all of the key, but for the newline, is in it. -/
def CleanStop (s : DataDir) : KeyAct → Prop
  | .stop p => ∀ key left, s.phase p = .Writing key left → left.length ≤ 1
  | _ => True

/-! ### One writer, one key -/

/-- The file holds what its one writer has written so far, or all of a key, and every key returned is the one in it. -/
structure Sound (s : DataDir) : Prop where
  minted : ∀ p key, s.phase p = .Minted key → ∃ seed, key = .from_signing_key format seed
  writing : ∀ p key left, s.phase p = .Writing key left →
    ∃ done, MintedAs format key (done ++ left) ∧ left ≠ [] ∧ s.file = some done
  written : ∀ p key, s.phase p = .Written key → ∃ bytes, MintedAs format key bytes ∧ s.file = some bytes
  alone : ∀ p q, (s.phase p).Owns → (s.phase q).Owns → p = q
  returned : ∀ key ∈ s.returned, NodeKey.load_in format s.file = .ok (.Current key)

variable {format} {s : DataDir}

theorem sound_new : Sound format new := by
  constructor <;> simp [new, Phase.Owns]

@[simp] theorem moved_self (s : DataDir) (p : Pid) (phase : Phase) : (s.moved p phase).phase p = phase := by
  simp [DataDir.moved]

theorem moved_other (s : DataDir) {p q : Pid} (other : q ≠ p) (phase : Phase) : (s.moved p phase).phase q = s.phase q := by
  simp [DataDir.moved, other]

/-- A process that holds no file goes on or ends. -/
theorem Sound.moved (sound : Sound format s) (p : Pid) {phase : Phase}
    (minted : ∀ key, phase = .Minted key → ∃ seed, key = .from_signing_key format seed) (free : ¬ phase.Owns) :
    Sound format (s.moved p phase) := by
  have elsewhere {q : Pid} (owns : ((s.moved p phase).phase q).Owns) : (s.moved p phase).phase q = s.phase q := by
    by_cases same : q = p
    · subst same
      rw [moved_self] at owns
      exact absurd owns free
    · exact moved_other s same phase
  constructor
  · intro q key here
    by_cases same : q = p
    · subst same
      rw [moved_self] at here
      exact minted key here
    · rw [moved_other s same] at here
      exact sound.minted q key here
  · intro q key left here
    have before := elsewhere (q := q) (by rw [here]; trivial)
    exact sound.writing q key left (before.symm.trans here)
  · intro q key here
    have before := elsewhere (q := q) (by rw [here]; trivial)
    exact sound.written q key (before.symm.trans here)
  · intro q r first second
    exact sound.alone q r (elsewhere first ▸ first) (elsewhere second ▸ second)
  · exact sound.returned

theorem Sound.idle (sound : Sound format s) (p : Pid) : Sound format (s.moved p .Idle) :=
  sound.moved p (by simp) (by simp [Phase.Owns])

theorem Sound.answered (sound : Sound format s) (p : Pid) {key : NodeKey}
    (read : NodeKey.load_in format s.file = .ok (.Current key)) : Sound format (s.answered p key) := by
  have idle := sound.idle p
  refine ⟨idle.minted, idle.writing, idle.written, idle.alone, fun other inside => ?_⟩
  rcases List.mem_append.mp inside with before | new
  · exact sound.returned other before
  · rw [List.mem_singleton.mp new]
    exact read

/-- The process that holds the file goes on with it: the others hold none, and what was read from it is read still. -/
theorem Sound.filled (sound : Sound format s) {p : Pid} {phase : Phase} {file : List Char}
    (others : ∀ q, q ≠ p → ¬ (s.phase q).Owns) (unminted : ∀ key, phase ≠ .Minted key)
    (writing : ∀ key left, phase = .Writing key left → MintedAs format key (file ++ left) ∧ left ≠ [])
    (written : ∀ key, phase = .Written key → MintedAs format key file)
    (returned : ∀ key ∈ s.returned, NodeKey.load_in format (some file) = .ok (.Current key)) :
    Sound format { s.moved p phase with file := some file } := by
  have mine {q : Pid} (owns : ((s.moved p phase).phase q).Owns) : q = p := by
    by_contra other
    rw [moved_other s other] at owns
    exact others q other owns
  constructor
  · intro q key here
    by_cases same : q = p
    · subst same
      exact absurd ((moved_self s q phase).symm.trans here) (unminted key)
    · exact sound.minted q key ((moved_other s same phase).symm.trans here)
  · intro q key left here
    obtain rfl := mine (q := q) (by rw [show (s.moved p phase).phase q = _ from here]; trivial)
    obtain ⟨minted, more⟩ := writing key left ((moved_self s q phase).symm.trans here)
    exact ⟨file, minted, more, rfl⟩
  · intro q key here
    obtain rfl := mine (q := q) (by rw [show (s.moved p phase).phase q = _ from here]; trivial)
    exact ⟨file, written key ((moved_self s q phase).symm.trans here), rfl⟩
  · intro q r first second
    exact (mine first).trans (mine second).symm
  · exact returned

/-- The process that holds the file is the only one. -/
theorem Sound.others (sound : Sound format s) {p : Pid} (owns : (s.phase p).Owns) : ∀ q, q ≠ p → ¬ (s.phase q).Owns :=
  fun q other mine => other (sound.alone q p mine owns)

/-- A file that is not there is held by nobody. -/
theorem Sound.unowned (sound : Sound format s) (absent : s.file = none) (q : Pid) : ¬ (s.phase q).Owns := by
  intro owns
  cases phase : s.phase q with
  | Writing key left =>
    obtain ⟨_, _, _, there⟩ := sound.writing q key left phase
    rw [absent] at there
    cases there
  | Written key =>
    obtain ⟨_, _, there⟩ := sound.written q key phase
    rw [absent] at there
    cases there
  | _ =>
    rw [phase] at owns
    exact owns

/-- Migrated is a version from the oldest on and before this one. -/
theorem migrated_between {File : Type} {versioned : Versioned File} {from_str : String → Except String Value} {text : String}
    {found : UInt32} {file : File} (read : load versioned from_str (.ok (some text)) = .ok (.Migrated found file)) :
    ¬ found < versioned.OLDEST_SCHEMA_VERSION ∧ found < versioned.SCHEMA_VERSION := by
  simp only [load, bind, Except.bind] at read
  cases parsed : (from_str text).mapError VersionedError.Json with
  | error => simp [parsed] at read
  | ok value =>
    simp only [parsed] at read
    cases versions : schema_version value with
    | error => simp [versions] at read
    | ok version =>
      simp only [versions] at read
      cases shaped : versioned.from_value value version with
      | error =>
        simp only [shaped] at read
        split_ifs at read <;> cases read
      | ok shape =>
        simp only [shaped, Except.map] at read
        split_ifs at read with newer older migrated
        · cases read
        · cases read
          exact ⟨older, migrated⟩
        · cases read

/-- A key file is never migrated: this build reads one version. -/
theorem load_in_unmigrated {file : Option (List Char)} {found : UInt32} {key : NodeKey} :
    NodeKey.load_in format file ≠ .ok (.Migrated found key) := by
  intro read
  cases file with
  | none => cases read
  | some text =>
    rw [NodeKey.load_in] at read
    cases loaded : load (NodeKey.versioned format) format.from_str (.ok ((some text).map String.ofList)) with
    | error why =>
      rw [loaded] at read
      cases read
    | ok answer =>
      rw [loaded] at read
      cases read
      obtain ⟨old, new⟩ := migrated_between loaded
      exact old new

section Steps
variable (lawful : format.Lawful) (sound : Sound format s) {p : Pid}
include sound

theorem sound_load : Sound format (s.step format (.load p)) := by
  simp only [step]
  split
  · split
    · exact sound.moved p (by simp) (by simp [Phase.Owns])
    · next read => exact sound.answered p read
    · next read => exact absurd read load_in_unmigrated
    · exact sound
    · exact sound
  · exact sound

theorem sound_mint (random : Except String SigningKey) : Sound format (s.step format (.mint p random)) := by
  simp only [step]
  split
  · cases random with
    | error why => exact sound.idle p
    | ok seed =>
      refine sound.moved p (fun key same => ⟨seed, ?_⟩) (by simp [Phase.Owns])
      cases same
      rfl
  · exact sound

include lawful

theorem sound_finish (synced : Bool) : Sound format (s.step format (.finish p synced)) := by
  simp only [step]
  split
  · next key here =>
    obtain ⟨bytes, minted, file⟩ := sound.written p key here
    cases synced with
    | false => exact sound.idle p
    | true =>
      refine sound.answered p ?_
      rw [file]
      exact load_in_whole lawful minted List.prefix_rfl (Nat.le_succ _)
  · exact sound

theorem sound_create (granted : Bool) : Sound format (s.step format (.create p granted)) := by
  simp only [step]
  split
  · next key here =>
    split
    · next bytes written absent =>
      obtain ⟨seed, rfl⟩ := sound.minted p key here
      obtain ⟨text, printed, _⟩ := lawful.written seed
      have some_bytes : bytes ≠ [] := by
        rw [NodeKey.to_bytes, printed] at written
        cases written
        simp
      refine sound.filled (fun q _ => sound.unowned absent q) (by simp) ?_ (by simp) ?_
      · intro other left same
        cases same
        exact ⟨⟨⟨seed, rfl⟩, written⟩, some_bytes⟩
      · intro other inside
        have read := sound.returned other inside
        rw [absent] at read
        cases read
    · exact sound.idle p
  · exact sound

theorem sound_write (n : Nat) : Sound format (s.step format (.write p n)) := by
  simp only [step]
  split
  · next key left here =>
    obtain ⟨done, minted, some_left, file⟩ := sound.writing p key left here
    rw [file, Option.map_some]
    have whole : done ++ left = (done ++ left.take n) ++ left.drop n := by rw [List.append_assoc, List.take_append_drop]
    refine sound.filled (sound.others (by rw [here]; trivial)) (by split_ifs <;> simp) ?_ ?_ ?_
    · intro other rest same
      split_ifs at same with ended
      cases same
      exact ⟨whole ▸ minted, ended⟩
    · intro other same
      split_ifs at same with ended
      cases same
      rw [ended, List.append_nil] at whole
      exact whole ▸ minted
    · intro other inside
      have read := sound.returned other inside
      rw [file] at read
      refine load_in_grown lawful minted (List.prefix_append _ _) (List.prefix_append _ _) ?_ read
      rw [whole]
      exact List.prefix_append _ _
  · exact sound

theorem sound_step (act : KeyAct) : Sound format (s.step format act) := by
  cases act with
  | load p => exact sound_load sound
  | mint p random => exact sound_mint sound random
  | create p granted => exact sound_create lawful sound granted
  | write p n => exact sound_write lawful sound n
  | finish p synced => exact sound_finish lawful sound synced
  | stop p => exact sound.idle p

end Steps

theorem sound_reached (lawful : format.Lawful) (acts : List KeyAct) : Sound format (reached format acts) := by
  have keeps : ∀ (s : DataDir) (act : KeyAct), Sound format s → Sound format (s.step format act) :=
    fun _ act good => sound_step lawful good act
  exact run_invariant keeps sound_new acts

/-! ### Whether a node can start -/

theorem starts_of_missing (lawful : format.Lawful) (absent : s.file = none) : Starts format s := by
  intro p seed idle
  obtain ⟨bytes, minted, written⟩ := minted_bytes lawful seed
  refine ⟨.from_signing_key format seed, ?_⟩
  have loaded : s.step format (.load p) = s.moved p .Missing := by
    simp only [step, idle, absent]
    rfl
  have made : (s.moved p .Missing).step format (.mint p (.ok seed)) =
      (s.moved p .Missing).moved p (.Minted (.from_signing_key format seed)) := by
    simp [step, NodeKey.generate]
  have created : ((s.moved p .Missing).moved p (.Minted (.from_signing_key format seed))).step format (.create p true) =
      { ((s.moved p .Missing).moved p (.Minted (.from_signing_key format seed))).moved p
        (.Writing (.from_signing_key format seed) bytes) with file := some [] } := by
    have none_there : ((s.moved p .Missing).moved p (.Minted (.from_signing_key format seed))).file = none := absent
    simp [step, written, none_there]
  simp only [undisturbed, written, run_cons, run_nil, loaded, made, created]
  simp [step, DataDir.moved, DataDir.answered]

theorem starts_of_current {key : NodeKey} (read : NodeKey.load_in format s.file = .ok (.Current key)) : Starts format s := by
  intro p seed idle
  refine ⟨key, ?_⟩
  have loaded : s.step format (.load p) = s.answered p key := by
    simp only [step, idle, read]
  simp only [undisturbed, run_cons, run_nil, loaded]
  simp [step, DataDir.answered]

theorem not_starts_of_error {error : NodeKeyError} (read : NodeKey.load_in format s.file = .error error) (p : Pid)
    (idle : s.phase p = .Idle) (seed : SigningKey) : ¬ Starts format s := by
  intro starts
  obtain ⟨key, answered⟩ := starts p seed idle
  have loaded : s.step format (.load p) = s := by
    simp only [step, idle, read]
  simp only [undisturbed, run_cons, run_nil, loaded] at answered
  simp [step, idle] at answered

/-! ### What stops leave behind -/

/-- There is no file, or a key in it, or a call is filling it. -/
def Healthy (format : KeyFormat) (s : DataDir) : Prop :=
  s.file = none ∨ (∃ key, NodeKey.load_in format s.file = .ok (.Current key)) ∨ ∃ p key left, s.phase p = .Writing key left

theorem healthy_new : Healthy format new := .inl rfl

/-- A step of a process that is not filling the file. -/
theorem Healthy.moved (healthy : Healthy format s) {p : Pid} (phase : Phase) (unwriting : ∀ key left, s.phase p ≠ .Writing key left) :
    Healthy format (s.moved p phase) := by
  rcases healthy with absent | read | ⟨q, key, left, writing⟩
  · exact .inl absent
  · exact .inr (.inl read)
  · have other : q ≠ p := by
      rintro rfl
      exact unwriting key left writing
    exact .inr (.inr ⟨q, key, left, (moved_other s other phase).trans writing⟩)

theorem Healthy.answered (healthy : Healthy format s) {p : Pid} (key : NodeKey)
    (unwriting : ∀ key left, s.phase p ≠ .Writing key left) : Healthy format (s.answered p key) := healthy.moved .Idle unwriting

theorem healthy_step (lawful : format.Lawful) (sound : Sound format s) (healthy : Healthy format s) {act : KeyAct}
    (clean : s.CleanStop act) : Healthy format (s.step format act) := by
  cases act with
  | load p =>
    simp only [step]
    split
    · next idle =>
      have unwriting : ∀ key left, s.phase p ≠ .Writing key left := by simp [idle]
      split
      · exact healthy.moved _ unwriting
      · exact healthy.answered _ unwriting
      · exact healthy.answered _ unwriting
      · exact healthy
      · exact healthy
    · exact healthy
  | mint p random =>
    simp only [step]
    split
    · next missing =>
      have unwriting : ∀ key left, s.phase p ≠ .Writing key left := by simp [missing]
      split
      · exact healthy.moved _ unwriting
      · exact healthy.moved _ unwriting
    · exact healthy
  | create p granted =>
    simp only [step]
    split
    · next key minted =>
      split
      · next bytes _ _ => exact .inr (.inr ⟨p, key, bytes, moved_self s p _⟩)
      · exact healthy.moved _ (by simp [minted])
    · exact healthy
  | write p n =>
    simp only [step]
    split
    · next key left writing =>
      by_cases ended : left.drop n = []
      · obtain ⟨done, minted, _, file⟩ := sound.writing p key left writing
        have whole : done ++ left.take n = done ++ left := by
          rw [List.take_of_length_le (List.drop_eq_nil_iff.mp ended)]
        refine .inr (.inl ⟨key, ?_⟩)
        rw [file, Option.map_some, whole]
        exact load_in_whole lawful minted List.prefix_rfl (Nat.le_succ _)
      · rw [if_neg ended]
        exact .inr (.inr ⟨p, key, left.drop n, moved_self s p _⟩)
    · exact healthy
  | finish p synced =>
    simp only [step]
    split
    · next key written =>
      have unwriting : ∀ key left, s.phase p ≠ .Writing key left := by simp [written]
      split_ifs
      · exact healthy.answered _ unwriting
      · exact healthy.moved _ unwriting
    · exact healthy
  | stop p =>
    cases phase : s.phase p with
    | Writing key left =>
      have little := clean key left phase
      obtain ⟨done, minted, _, file⟩ := sound.writing p key left phase
      refine .inr (.inl ⟨key, ?_⟩)
      show NodeKey.load_in format s.file = _
      rw [file]
      refine load_in_whole lawful minted (List.prefix_append _ _) ?_
      rw [List.length_append]
      omega
    | _ => exact healthy.moved _ (by simp [phase])

/-- Where no call is filling the file, the node can start. -/
theorem Healthy.starts (healthy : Healthy format s) (lawful : format.Lawful) (quiet : s.Quiet) : Starts format s := by
  rcases healthy with absent | ⟨key, read⟩ | ⟨p, key, left, writing⟩
  · exact starts_of_missing lawful absent
  · exact starts_of_current read
  · exact absurd writing (quiet p key left)

theorem healthy_reached (lawful : format.Lawful) {acts : List KeyAct} (clean : Allowed (step format) CleanStop new acts) :
    Healthy format (reached format acts) := by
  have keeps : ∀ (s : DataDir) (act : KeyAct), Sound format s ∧ Healthy format s → s.CleanStop act →
      Sound format (s.step format act) ∧ Healthy format (s.step format act) :=
    fun _ act good allowed => ⟨sound_step lawful good.1 act, healthy_step lawful good.1 good.2 allowed⟩
  exact (run_keeps keeps ⟨sound_new, healthy_new⟩ clean).2

/-- A call that stops before the key is in the file leaves a directory in which no call returns a key. -/
theorem stopped_not_starts (lawful : format.Lawful) (sound : Sound format s) {p : Pid} (torn : ¬ s.CleanStop (.stop p)) :
    (s.step format (.stop p)).Quiet ∧ ¬ Starts format (s.step format (.stop p)) := by
  simp only [CleanStop, not_forall, not_le] at torn
  obtain ⟨key, left, writing, more⟩ := torn
  obtain ⟨done, minted, _, file⟩ := sound.writing p key left writing
  constructor
  · intro q other rest here
    by_cases same : q = p
    · subst same
      simp [step] at here
    · rw [step, moved_other s same] at here
      exact sound.others (p := p) (by rw [writing]; trivial) q same (by rw [here]; trivial)
  · obtain ⟨seed, _⟩ := minted.1
    have short : done.length + 1 < (done ++ left).length := by
      rw [List.length_append]
      omega
    obtain ⟨error, refused⟩ := load_in_torn lawful minted (List.prefix_append _ _) short
    have read : NodeKey.load_in format (s.step format (.stop p)).file = .error error := by
      rw [show (s.step format (.stop p)).file = s.file from rfl, file]
      exact refused
    exact not_starts_of_error read p (moved_self s p _) seed

/-- In every run the keys returned are one, the one in the file. The node can start from every quiet directory of the
    run exactly when no call stops between creating the file and filling it. -/
theorem one_identity_iff (lawful : format.Lawful) (acts : List KeyAct) :
    (∀ key ∈ (reached format acts).returned, NodeKey.load_in format (reached format acts).file = .ok (.Current key) ∧
      ∀ other ∈ (reached format acts).returned, other = key) ∧
      (Allowed (step format) CleanStop new acts ↔
        ∀ before after, acts = before ++ after → (reached format before).Quiet → Starts format (reached format before)) := by
  constructor
  · intro key inside
    have sound := sound_reached lawful acts
    have read := sound.returned key inside
    refine ⟨read, fun other there => ?_⟩
    have again := sound.returned other there
    rw [read] at again
    cases again
    rfl
  · constructor
    · rintro clean before after rfl quiet
      exact (healthy_reached lawful ((allowed_append new before after).mp clean).1).starts lawful quiet
    · intro starts
      rw [allowed_iff]
      rintro before act after rfl
      cases act with
      | stop p =>
        by_contra torn
        obtain ⟨quiet, never⟩ := stopped_not_starts lawful (sound_reached lawful before) torn
        have there : reached format (before ++ [.stop p]) = (reached format before).step format (.stop p) := by
          rw [reached, run_append, run_cons, run_nil]
          rfl
        rw [← there] at quiet never
        exact never (starts (before ++ [.stop p]) after (by simp) quiet)
      | _ => trivial

end DataDir

/-! ### At one key pair -/

/-- A seed and its public half, as base64 has them. -/
def drawn_seed : SigningKey where
  bytes := [157, 97, 177, 157, 239, 253, 90, 96, 186, 132, 74, 244, 146, 236, 44, 196, 68, 73, 197, 105, 123, 50, 105, 25, 112,
    59, 172, 3, 28, 174, 127, 96]
  length := rfl
def drawn_d : String := "nWGxne_9WmC6hEr0kuwsxERJxWl7MmkZcDusAxyuf2A"
def drawn_x : String := "11qYAYKxCrfVS_7TyWQHOg7hcvPapiMlrwIaaPcHURo"
def drawn_key : NodeKey := ⟨1, KEY_TYPE, CURVE, drawn_x, drawn_d⟩

/-- The file of the key but for its closing brace. -/
def drawn_body : String := "\x7b\n" ++ ("  \"schema_version\": 1,\n  \"kty\": \"OKP\",\n  \"crv\": \"Ed25519\",\n" ++
  ("  \"x\": \"" ++ (drawn_x ++ ("\",\n  \"d\": \"" ++ (drawn_d ++ "\"\n")))))
def drawn_text : String := drawn_body ++ "\x7d"

/-- Other bytes one by one, each as a letter of its own. -/
def spelled (bytes : List UInt8) : String := .ofList (bytes.map fun b => Char.ofNat (256 + b.toNat))

/-- The third-party functions, exact for one key pair. -/
def drawn_format : KeyFormat where
  from_str text :=
    if text = drawn_text ∨ text = drawn_text ++ "\n" then .ok drawn_key.document else
      let document := if text.toList.getLast? = some '\n' then text.toList.dropLast else text.toList
      if document.getLast? = some '\x7d' then parse (.ofList document) else .error "EOF while parsing an object"
  to_string_pretty key := .ok (if key = drawn_key then drawn_text else compact.to_string key.document)
  from_value value :=
    match value.get "schema_version", value.get "kty", value.get "crv", value.get "x", value.get "d" with
    | some (.integer n), some (.string kty), some (.string crv), some (.string x), some (.string d) =>
      .ok ⟨.ofNat n.toNat, kty, crv, x, d⟩
    | _, _, _, _, _ => .error "missing field"
  encode bytes := if bytes = drawn_seed.bytes then drawn_d else if bytes = first_key.bytes then drawn_x else spelled bytes
  decode text :=
    if text = drawn_d then .ok drawn_seed.bytes else if text = drawn_x then .ok first_key.bytes
    else .ok (text.toList.map fun c => .ofNat (c.toNat - 256))
  verifying_key seed := if seed = drawn_seed.bytes then first_key.bytes else seed
  from_bytes bytes := .ok ⟨bytes⟩
  quoted text := "\"" ++ text ++ "\""

theorem letter_toNat (b : UInt8) : (Char.ofNat (256 + b.toNat)).toNat = 256 + b.toNat := by
  have small := b.toNat_lt
  have valid : (256 + b.toNat).isValidChar := .inl (by omega)
  rw [Char.ofNat, dif_pos valid]
  rfl

theorem spelled_letters {bytes : List UInt8} {c : Char} (inside : c ∈ (spelled bytes).toList) : 256 ≤ c.toNat := by
  rw [spelled, String.toList_ofList] at inside
  obtain ⟨b, _, rfl⟩ := List.mem_map.mp inside
  rw [letter_toNat]
  omega

theorem decode_spelled (bytes : List UInt8) : (spelled bytes).toList.map (fun c => UInt8.ofNat (c.toNat - 256)) = bytes := by
  rw [spelled, String.toList_ofList, List.map_map]
  refine (List.map_congr_left fun b _ => ?_).trans (List.map_id bytes)
  simp [letter_toNat]

/-- What can be looked up letter by letter. -/
theorem letters_of_all {text : String}
    (all : (text.toList.all fun c => decide (32 ≤ c.toNat ∧ c ≠ '\x7d' ∧ c ≠ '"' ∧ c ≠ '\\')) = true) :
    ∀ c ∈ text.toList, 32 ≤ c.toNat ∧ c ≠ '\x7d' ∧ c ≠ '"' ∧ c ≠ '\\' :=
  fun c inside => of_decide_eq_true (List.all_eq_true.mp all c inside)

/-- No letter of an encoded text closes an object or needs an escape. -/
theorem encode_letters {bytes : List UInt8} {c : Char} (inside : c ∈ (drawn_format.encode bytes).toList) :
    32 ≤ c.toNat ∧ c ≠ '\x7d' ∧ c ≠ '"' ∧ c ≠ '\\' := by
  have of_d : ∀ c ∈ drawn_d.toList, 32 ≤ c.toNat ∧ c ≠ '\x7d' ∧ c ≠ '"' ∧ c ≠ '\\' := letters_of_all (by decide)
  have of_x : ∀ c ∈ drawn_x.toList, 32 ≤ c.toNat ∧ c ≠ '\x7d' ∧ c ≠ '"' ∧ c ≠ '\\' := letters_of_all (by decide)
  simp only [drawn_format] at inside
  split_ifs at inside
  · exact of_d c inside
  · exact of_x c inside
  · have large := spelled_letters inside
    refine ⟨by omega, ?_, ?_, ?_⟩ <;> rintro rfl <;> exact absurd large (by decide)

/-- A text without a closing brace or a letter to escape has none in quotes. -/
theorem quoted_open {text : String} (letters : ∀ c ∈ text.toList, 32 ≤ c.toNat ∧ c ≠ '\x7d' ∧ c ≠ '"' ∧ c ≠ '\\') :
    '\x7d' ∉ Json.quoted text := by
  intro inside
  simp only [Json.quoted, List.mem_cons, List.mem_append, List.mem_flatMap, List.not_mem_nil, or_false] at inside
  rcases inside with quote | ⟨c, here, escaped⟩ | quote
  · exact absurd quote (by decide)
  · obtain ⟨plain, other, no_quote, no_backslash⟩ := letters c here
    have unescaped : Json.escape c = [c] := by
      have control (d : Char) (low : d.toNat < 32) : c ≠ d := by
        rintro rfl
        omega
      rw [Json.escape, if_neg no_quote, if_neg no_backslash, if_neg (control '\n' (by decide)), if_neg (control '\r' (by decide)),
        if_neg (control '\t' (by decide)), if_neg (by omega), if_neg (by omega), if_neg (by omega)]
    rw [unescaped, List.mem_singleton] at escaped
    exact other escaped.symm
  · exact absurd quote (by decide)

theorem printMembers_closed {members : List (String × Value)}
    (open_members : ∀ m ∈ members, '\x7d' ∉ Json.quoted m.1 ∧ '\x7d' ∉ print m.2) :
    ∃ body, printMembers members = body ++ ['\x7d'] ∧ '\x7d' ∉ body := by
  induction members with
  | nil => exact ⟨[], rfl, by simp⟩
  | cons head rest ih =>
    obtain ⟨name, value⟩ := head
    obtain ⟨body, printed, clear⟩ := ih fun m inside => open_members m (List.mem_cons_of_mem _ inside)
    have first := open_members (name, value) List.mem_cons_self
    refine ⟨',' :: (Json.quoted name ++ ':' :: (print value ++ body)), by simp [printMembers, printed], ?_⟩
    simp only [List.mem_cons, List.mem_append, not_or]
    exact ⟨by decide, first.1, by decide, first.2, clear⟩

theorem print_closed {members : List (String × Value)}
    (open_members : ∀ m ∈ members, '\x7d' ∉ Json.quoted m.1 ∧ '\x7d' ∉ print m.2) :
    ∃ body, print (.object members) = body ++ ['\x7d'] ∧ '\x7d' ∉ body := by
  cases members with
  | nil => exact ⟨['\x7b'], rfl, by decide⟩
  | cons head rest =>
    obtain ⟨name, value⟩ := head
    obtain ⟨body, printed, clear⟩ := printMembers_closed fun m inside => open_members m (List.mem_cons_of_mem _ inside)
    have first := open_members (name, value) List.mem_cons_self
    refine ⟨'\x7b' :: (Json.quoted name ++ ':' :: (print value ++ body)), by simp [print, printed], ?_⟩
    simp only [List.mem_cons, List.mem_append, not_or]
    exact ⟨by decide, first.1, by decide, first.2, clear⟩

theorem minted_closed (seed : SigningKey) : ∃ body,
    (compact.to_string (NodeKey.document (.from_signing_key drawn_format seed))).toList = body ++ ['\x7d'] ∧ '\x7d' ∉ body := by
  have name (text : String)
      (all : (text.toList.all fun c => decide (32 ≤ c.toNat ∧ c ≠ '\x7d' ∧ c ≠ '"' ∧ c ≠ '\\')) = true := by decide) :
      '\x7d' ∉ Json.quoted text := quoted_open (letters_of_all all)
  have encoded (bytes : List UInt8) : '\x7d' ∉ print (.string (drawn_format.encode bytes)) :=
    quoted_open fun c inside => encode_letters inside
  obtain ⟨body, printed, clear⟩ : ∃ body, print (NodeKey.document (.from_signing_key drawn_format seed)) = body ++ ['\x7d'] ∧
      '\x7d' ∉ body := by
    refine print_closed fun m inside => ?_
    rcases mem_insert inside with rfl | inside
    · exact ⟨name "d", encoded _⟩
    rcases mem_insert inside with rfl | inside
    · exact ⟨name "x", encoded _⟩
    rcases mem_insert inside with rfl | inside
    · exact ⟨name "crv", name CURVE⟩
    rcases mem_insert inside with rfl | inside
    · exact ⟨name "kty", name KEY_TYPE⟩
    rcases mem_insert inside with rfl | inside
    · have digit : '\x7d' ∉ print (.integer 1) := by decide
      exact ⟨name "schema_version", digit⟩
    · cases inside
  exact ⟨body, by rw [← printed]; exact String.toList_ofList, clear⟩

theorem from_str_known : drawn_format.from_str drawn_text = .ok drawn_key.document ∧
    drawn_format.from_str (drawn_text ++ "\n") = .ok drawn_key.document := by
  simp only [drawn_format, true_or, or_true, if_true, and_self]

/-- What the reader does with a text that is not the known file. -/
theorem from_str_other {text : String} (other : text ≠ drawn_text) (ended : text ≠ drawn_text ++ "\n") :
    drawn_format.from_str text =
      let document := if text.toList.getLast? = some '\n' then text.toList.dropLast else text.toList
      if document.getLast? = some '\x7d' then parse (.ofList document) else .error "EOF while parsing an object" :=
  if_neg (not_or.mpr ⟨other, ended⟩)

/-- A piece of a text that closes at its end is refused. -/
theorem from_str_piece {body piece : List Char} (clear : '\x7d' ∉ body) (part : piece <+: body)
    (unknown : String.ofList piece ≠ drawn_text ∧ String.ofList piece ≠ drawn_text ++ "\n") :
    ∃ why, drawn_format.from_str (.ofList piece) = .error why := by
  refine ⟨"EOF while parsing an object", ?_⟩
  rw [from_str_other unknown.1 unknown.2, String.toList_ofList]
  have unclosed {part : List Char} (within : part <+: body) : ¬ part.getLast? = some '\x7d' :=
    fun last => clear (within.subset (List.mem_of_getLast? last))
  simp only
  split_ifs with ended closed closed
  · exact absurd closed (unclosed ((List.dropLast_prefix piece).trans part))
  · rfl
  · exact absurd closed (unclosed part)
  · rfl

theorem drawn_body_open : '\x7d' ∉ drawn_body.toList := by
  have both {first second : String} (left : '\x7d' ∉ first.toList) (right : '\x7d' ∉ second.toList) :
      '\x7d' ∉ (first ++ second).toList := by
    rw [String.toList_append, List.mem_append, not_or]
    exact ⟨left, right⟩
  exact both (by decide) (both (by decide) (both (by decide) (both (by decide) (both (by decide) (both (by decide) (by decide))))))

theorem drawn_text_toList : drawn_text.toList = drawn_body.toList ++ ['\x7d'] := by
  rw [drawn_text, String.toList_append]
  rfl

/-- A text that closes nothing before its end is a piece of the known file only where it is unclosed. -/
theorem piece_unknown {body piece : List Char} (clear : '\x7d' ∉ body) (part : piece <+: body) :
    String.ofList piece ≠ drawn_text ∧ String.ofList piece ≠ drawn_text ++ "\n" := by
  have unclosed : '\x7d' ∉ piece := fun inside => clear (part.subset inside)
  constructor
  · rintro same
    refine unclosed ?_
    rw [← String.toList_ofList (l := piece), same, drawn_text_toList]
    simp
  · rintro same
    refine unclosed ?_
    rw [← String.toList_ofList (l := piece), same, String.toList_append, drawn_text_toList]
    simp

theorem print_second (members : List (String × Value)) (more : List Char) :
    (print (.object members) ++ more)[1]? ≠ some '\n' := by
  cases members with
  | nil => simp [print]
  | cons head rest => simp [print, Json.quoted]

theorem drawn_second (more : List Char) : (drawn_text.toList ++ more)[1]? = some '\n' := by
  have opened : "\x7b\n".toList = ['\x7b', '\n'] := by decide
  rw [drawn_text_toList, drawn_body, String.toList_append, opened]
  rfl

/-- The compact text of a key has no newline where the known file has one. -/
theorem compact_unknown (key : NodeKey) (more : String) :
    compact.to_string key.document ++ more ≠ drawn_text ∧ compact.to_string key.document ++ more ≠ drawn_text ++ "\n" := by
  have differs : (compact.to_string key.document ++ more).toList[1]? ≠ some '\n' := by
    rw [String.toList_append, compact, String.toList_ofList]
    exact print_second _ _
  constructor
  · intro same
    rw [same, ← List.append_nil drawn_text.toList, drawn_second] at differs
    exact differs rfl
  · intro same
    rw [same, String.toList_append, drawn_second] at differs
    exact differs rfl

theorem document_read (key : NodeKey) : parse (compact.to_string key.document) = .ok key.document := by
  have plain : Plain key.document := plain_json (by simp)
  exact parse_print plain

theorem minted_read (seed : SigningKey) (more : String) (ended : more = "" ∨ more = "\n") :
    drawn_format.from_str (compact.to_string (NodeKey.document (.from_signing_key drawn_format seed)) ++ more) =
      .ok (NodeKey.document (.from_signing_key drawn_format seed)) := by
  obtain ⟨body, closed, clear⟩ := minted_closed seed
  have unknown := compact_unknown (.from_signing_key drawn_format seed) more
  have read := document_read (.from_signing_key drawn_format seed)
  have last : (body ++ ['\x7d']).getLast? = some '\x7d' := List.getLast?_concat
  have bare : (if (body ++ ['\x7d']).getLast? = some '\n' then (body ++ ['\x7d']).dropLast else body ++ ['\x7d']) =
      body ++ ['\x7d'] := by
    rw [last, if_neg (by decide)]
  have stripped : (if (body ++ ['\x7d'] ++ ['\n']).getLast? = some '\n' then (body ++ ['\x7d'] ++ ['\n']).dropLast
      else body ++ ['\x7d'] ++ ['\n']) = body ++ ['\x7d'] := by
    rw [List.getLast?_concat, if_pos rfl, List.dropLast_concat]
  rw [from_str_other unknown.1 unknown.2]
  rcases ended with rfl | rfl
  · rw [String.append_empty, closed]
    simp only [bare]
    rw [if_pos last]
    rw [← closed, String.ofList_toList]
    exact read
  · rw [String.toList_append, show "\n".toList = ['\n'] from rfl, closed]
    simp only [stripped]
    rw [if_pos last]
    rw [← closed, String.ofList_toList]
    exact read

theorem drawn_lawful : drawn_format.Lawful where
  written seed := by
    by_cases known : NodeKey.from_signing_key drawn_format seed = drawn_key
    · have printed : drawn_format.to_string_pretty drawn_key = .ok drawn_text := by
        simp only [drawn_format, if_true]
      rw [known]
      refine ⟨drawn_text, printed, from_str_known.1, from_str_known.2, ?_⟩
      · intro piece part torn
        have within : piece <+: drawn_body.toList := by
          rw [drawn_text_toList] at part torn
          exact (List.prefix_concat_iff.mp part).resolve_left torn
        exact from_str_piece drawn_body_open within (piece_unknown drawn_body_open within)
    · obtain ⟨body, closed, clear⟩ := minted_closed seed
      refine ⟨compact.to_string (NodeKey.document (.from_signing_key drawn_format seed)), congrArg Except.ok (if_neg known), ?_, ?_, ?_⟩
      · have read := minted_read seed "" (.inl rfl)
        rwa [String.append_empty] at read
      · exact minted_read seed "\n" (.inr rfl)
      · intro piece part torn
        have within : piece <+: body := by
          rw [closed] at part torn
          exact (List.prefix_concat_iff.mp part).resolve_left torn
        exact from_str_piece clear within (piece_unknown clear within)
  members key := by
    simp [drawn_format, Value.get, NodeKey.document, json, lookup_insert]
  decoded bytes := by
    have other {text : String} (low : ∃ c ∈ text.toList, c.toNat < 256) : spelled bytes ≠ text := by
      rintro rfl
      obtain ⟨c, inside, small⟩ := low
      exact absurd (spelled_letters inside) (by omega)
    simp only [drawn_format]
    by_cases first : bytes = drawn_seed.bytes
    · rw [if_pos first, if_pos rfl, first]
    · by_cases second : bytes = first_key.bytes
      · rw [if_neg first, if_pos second, if_neg (by decide), if_pos rfl, second]
      · rw [if_neg first, if_neg second, if_neg (other ⟨'n', by decide, by decide⟩), if_neg (other ⟨'1', by decide, by decide⟩),
          decode_spelled]
  public_half seed := by
    refine ⟨?_, ⟨drawn_format.verifying_key seed.bytes⟩, rfl⟩
    simp only [drawn_format]
    split_ifs
    · rfl
    · exact seed.length

/-- Two processes start at once and a third while the first writes; a fourth comes when the key is there. -/
def racing_starts : List KeyAct :=
  [.load 0, .load 1, .mint 0 (.ok drawn_seed), .mint 1 (.ok drawn_seed), .create 0 true, .create 1 true, .write 0 40, .load 2,
    .write 0 400, .finish 0 true, .load 3]

theorem racing_starts_agree :
    (∀ key ∈ (DataDir.reached drawn_format racing_starts).returned,
      NodeKey.load_in drawn_format (DataDir.reached drawn_format racing_starts).file = .ok (.Current key) ∧
        ∀ other ∈ (DataDir.reached drawn_format racing_starts).returned, other = key) ∧
      (Allowed (DataDir.step drawn_format) DataDir.CleanStop DataDir.new racing_starts ↔
        ∀ before after, racing_starts = before ++ after → (DataDir.reached drawn_format before).Quiet →
          DataDir.Starts drawn_format (DataDir.reached drawn_format before)) :=
  DataDir.one_identity_iff drawn_lawful racing_starts

/-- The first write finds no room, and the empty file stays. -/
def refused_write : List KeyAct := [.load 0, .mint 0 (.ok drawn_seed), .create 0 true, .stop 0]

theorem drawn_minted : NodeKey.from_signing_key drawn_format drawn_seed = drawn_key := by
  have apart : first_key.bytes ≠ drawn_seed.bytes := by decide
  simp only [NodeKey.from_signing_key, drawn_format, if_true, if_neg apart]
  rfl

theorem empty_key_never_starts : ¬ ∀ format : KeyFormat, format.Lawful → ∀ acts : List KeyAct,
    (DataDir.reached format acts).Quiet → DataDir.Starts format (DataDir.reached format acts) := by
  intro starts
  let before : List KeyAct := [.load 0, .mint 0 (.ok drawn_seed), .create 0 true]
  have bytes : drawn_key.to_bytes drawn_format = .ok (drawn_text.toList ++ ['\n']) := by
    simp only [NodeKey.to_bytes, drawn_format, if_true]
  have writing : (DataDir.reached drawn_format before).phase 0 = .Writing drawn_key (drawn_text.toList ++ ['\n']) := by
    simp [before, DataDir.reached, run, DataDir.step, DataDir.new, DataDir.moved, NodeKey.load_in, load, NodeKey.generate, drawn_minted,
      bytes, Except.mapError]
  have torn : ¬ (DataDir.reached drawn_format before).CleanStop (.stop 0) := by
    intro clean
    have little := clean _ _ writing
    rw [drawn_text_toList] at little
    simp at little
  obtain ⟨quiet, never⟩ := DataDir.stopped_not_starts drawn_lawful (DataDir.sound_reached drawn_lawful before) torn
  have there : DataDir.reached drawn_format refused_write = (DataDir.reached drawn_format before).step drawn_format (.stop 0) := rfl
  rw [← there] at quiet never
  exact never (starts drawn_format drawn_lawful refused_write quiet)

end Riscdom.Net
