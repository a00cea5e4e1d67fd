import Riscdom.BackupSeal
import Riscdom.Fallible
import Riscdom.ModelConfigs
import Riscdom.Utf8

/-!
The manifest of a backup, and the archive it stands in. The export reads the node's
files while the node goes on: each thing it looks at it sees in a state of its own.
What a collector takes as bytes goes into the archive as it was hashed; what it
takes as a path is read a second time when the archive is built. A name on the disk
is any bytes, and what is not UTF-8 in it is replaced where the name is written down.
Paths are POSIX ones.
-/
namespace Riscdom.Backup
open Json Fallible Fallible.Act
open Riscdom.Core (user_for_llm_key legacy_user_for_provider)

/-- A path by its components. -/
abbrev Path := List String

/-- A path on the disk. -/
abbrev OsPath := List Bytes

/-- A text as a name on the disk. -/
def os (name : String) : Bytes := name.toUTF8.data.toList

def to_string_lossy (name : Bytes) : String := .ofList (Utf8.from_utf8_lossy name)

/-- A path on the disk, as it is written down. -/
def lossy (path : OsPath) : Path := path.map to_string_lossy

def render (path : Path) : String := String.intercalate "/" path

def ROOT_WORKSPACE : String := "workspace"
def SNAPSHOTS_IN_WORKSPACE : Path := [".riscdom", "snapshots"]
structure ManifestEntry where
  root : String
  path : Path
  size : Nat
  sha256 : String
  marker : Option String

structure Manifest where
  tool : String
  format : Nat
  exported_at_ms : Int
  node_id : String
  entries : List ManifestEntry
  not_derived : List String

/-! ### The node -/

/-- The names in a directory, and the error that ends the listing, if one does. -/
structure Listing where
  names : List Bytes
  failed : Option String

/-- What the export sees of the node at one moment. -/
structure NodeState where
  is_file : OsPath → Bool
  is_dir : OsPath → Bool
  read : OsPath → Except String Bytes
  read_dir : OsPath → Except String Listing
  /-- What comes of a copy that the store itself makes. -/
  vacuum : Except BackupError Bytes
  keyring : String → Except String (Option String)

/-- What the export reads of the settings. -/
structure LocalSettings where
  llm_configs : List (String × String)
  remote_url : Option String

/-- The libraries and the machine. -/
structure Tools where
  sha256 : Bytes → Bytes
  from_slice : Bytes → Option Value
  print : Value → String
  read_settings : Bytes → Option LocalSettings
  to_vec_pretty : Manifest → Except String Bytes
  append : Path → Bytes → Except String Unit
  tar : List (Path × Bytes) → Bytes
  gzip : Bytes → Except String Bytes
  now_ms : Int
  device : String

/-! ### What is collected -/

inductive Source
  | File (path : OsPath)
  | Bytes (bytes : Bytes)

/-- An entry with its source, and the moment its bytes were read, which the code does not keep. -/
structure Collected where
  entry : ManifestEntry
  source : Source
  read_at : Nat

/-- An export fails, or is still walking when it is given up. -/
inductive Halt
  | Failed (error : BackupError)
  | Endless

/-- A computation that sees the node at one moment after another. -/
abbrev Export (T : Type) : Type := Act Nat Halt T

def hex (bytes : Bytes) : String := String.ofList (bytes.flatMap fun byte => [Nat.digitChar (byte.toNat / 16), Nat.digitChar (byte.toNat % 16)])

/-- `key=` and the member of a JSON document. -/
def json_marker (tools : Tools) (bytes : Bytes) (key : String) : Option String :=
  ((tools.from_slice bytes).bind fun value => value.get key).map fun member => key ++ "=" ++ tools.print member

/-- The big-endian number at the 60th byte. -/
def sqlite_user_version (bytes : Bytes) : Option Nat :=
  (slice bytes 60 64).map fun raw => raw.foldl (fun number byte => 256 * number + byte.toNat) 0

def marker_for (tools : Tools) (name : String) (bytes : Bytes) : Option String :=
  if name = "settings.json" then json_marker tools bytes "version"
  else if name = "node.key" ∨ name = "peers.json" ∨ name = "rooms.json" then json_marker tools bytes "schema_version"
  else if name.endsWith ".db" then (sqlite_user_version bytes).map fun v => "user_version=" ++ toString v
  else none

/-- An account added where it is not yet there. -/
def push (accounts : List String) (account : String) : List String :=
  if account ∈ accounts then accounts else accounts ++ [account]

section
variable (tools : Tools) (world : Nat → NodeState)

/-- A thing seen, with the moment it is seen at. -/
def see {T : Type} (view : NodeState → T) : Export (Nat × T) := fun moment => (.ok (moment, view (world moment)), moment + 1)

def check {T : Type} (result : Except BackupError T) : Export T := ofExcept (result.mapError .Failed)

def entry_of (root : String) (path : Path) (bytes : Bytes) (marker : Option String) : ManifestEntry :=
  ⟨root, path, bytes.length, hex (tools.sha256 bytes), marker⟩

def collect_file (root : String) (path_in_root : Path) (path : OsPath) : Export (Option Collected) := do
  let (_, is_file) ← see world fun s => s.is_file path
  if ¬ is_file then pure none
  else do
    let (read_at, found) ← see world fun s => s.read path
    let bytes ← check (found.mapError .Io)
    pure (some ⟨entry_of tools root path_in_root bytes (marker_for tools (render path_in_root) bytes), .File path, read_at⟩)

/-- The files that are there of those that are wanted. -/
def collect_files (root : String) : List (Path × OsPath) → Export (List Collected)
  | [] => pure []
  | (path_in_root, path) :: rest => do
    let collected ← collect_file tools world root path_in_root path
    let later ← collect_files root rest
    pure (collected.toList ++ later)

/-- The entries of a directory, each of them walked by what is given, if it is a directory. -/
def walk_names (walk : OsPath → Path → Export (List (Path × OsPath))) (root : OsPath) (within : Path) :
    List Bytes → Export (List (Path × OsPath))
  | [] => pure []
  | name :: names => do
    let path := root ++ [name]
    let child := within ++ [to_string_lossy name]
    let (_, is_dir) ← see world fun s => s.is_dir path
    let found ← if is_dir then walk path child
      else do
        let (_, is_file) ← see world fun s => s.is_file path
        pure (if is_file then [(child, path)] else [])
    let later ← walk_names walk root within names
    pure (found ++ later)

/-- The files under a directory; one that does not come to an end is given up. -/
def walk : Nat → OsPath → Path → Export (List (Path × OsPath))
  | 0, _, _ => fail .Endless
  | fuel + 1, root, within => do
    let (_, listed) ← see world fun s => s.read_dir root
    let listing ← check (listed.mapError .Io)
    let found ← walk_names world (walk fuel) root within listing.names
    match listing.failed with
    | some error => fail (.Failed (.Io error))
    | none => pure found

/-- The two moments at which a file was read, which the archive does not hold. -/
structure TwoReads where
  path : OsPath
  first : Nat
  second : Nat

structure Member where
  name : Path
  bytes : Bytes
  twice : Option TwoReads

def append (name : Path) (bytes : Bytes) (twice : Option TwoReads) : Export Member := do
  check ((tools.append name bytes).mapError .Archive)
  pure ⟨name, bytes, twice⟩

/-- A package, its manifest, and what the archive in it was given. -/
structure Exported where
  bytes : Bytes
  manifest : Manifest
  members : List Member

end

/-! ### What a computation gives -/

section
variable {T U : Type} {x : Export T} {f : T → Export U} {mid post : T → Prop} {later : U → Prop}

end

section
variable {tools : Tools} {world : Nat → NodeState}

/-- Where an entry belongs. -/
def Collected.place (file : Collected) : String × Path := (file.entry.root, file.entry.path)

/-- The path that an entry of the workspace is read from again. -/
def Collected.snapshot (file : Collected) : Option OsPath :=
  if file.entry.root = ROOT_WORKSPACE then
    match file.source with
    | .File path => some path
    | .Bytes _ => none
  else none

/-- What is found under a directory lies inside it, and is written down as it is found. -/
def Under (root : OsPath) (within : Path) (found : List (Path × OsPath)) : Prop :=
  ∀ file ∈ found, ∃ inner, file.1 = within ++ lossy inner ∧ file.2 = root ++ inner

theorem Under.nil (root : OsPath) (within : Path) : Under root within [] := fun _ inside => absurd inside List.not_mem_nil

theorem Under.append {root : OsPath} {within : Path} {found later : List (Path × OsPath)} (first : Under root within found)
    (second : Under root within later) : Under root within (found ++ later) :=
  fun file inside => (List.mem_append.mp inside).elim (first file) (second file)

theorem Under.above {root : OsPath} {within : Path} {name : Bytes} {found : List (Path × OsPath)}
    (under : Under (root ++ [name]) (within ++ [to_string_lossy name]) found) : Under root within found := by
  intro file inside
  obtain ⟨inner, written, path⟩ := under file inside
  exact ⟨name :: inner, by simp [written, lossy], by simp [path]⟩

/-- A snapshot, at the path it was found at. -/
structure Snapshot (workspace : OsPath) (file : Collected) : Prop where
  root : file.place.1 = ROOT_WORKSPACE
  inside : SNAPSHOTS_IN_WORKSPACE <+: file.place.2
  found : ∃ path, file.snapshot = some path ∧ lossy path = lossy workspace ++ file.place.2

/-- The member is the entry's: under its root and path, with the size and the digest that it states. -/
def Matches (tools : Tools) (entry : ManifestEntry) (member : Member) : Prop :=
  member.name = entry.root :: entry.path ∧ entry.size = member.bytes.length ∧ entry.sha256 = hex (tools.sha256 member.bytes)

/-- Beside the manifest, the archive has one member for each of its entries, and no two of one name. -/
structure Faithful (tools : Tools) (exported : Exported) : Prop where
  entries : ∃ first rest, exported.members = first :: rest ∧ first.name = ["manifest.json"] ∧
    List.Forall₂ (Matches tools) exported.manifest.entries rest
  distinct : (exported.members.map Member.name).Nodup

/-- What was read twice was the same each time. -/
def Undisturbed (world : Nat → NodeState) (exported : Exported) : Prop :=
  ∀ member ∈ exported.members, ∀ reads, member.twice = some reads →
    (world reads.second).read reads.path = (world reads.first).read reads.path

/-- The paths that members of the workspace were read from again. -/
def Exported.snapshots (exported : Exported) : List OsPath := exported.members.filterMap fun member =>
  if member.name.head? = some ROOT_WORKSPACE then member.twice.map TwoReads.path else none

/-- No two snapshots are written down under one path. -/
def Apart (exported : Exported) : Prop := (exported.snapshots.map lossy).Nodup

end

/-! ### A node with a token -/

@[simp] theorem os_inj {one other : String} : os one = os other ↔ one = other := by
  constructor
  · intro same
    exact String.toByteArray_inj.mp (ByteArray.ext (Array.toList_inj.mp same))
  · rintro rfl
    rfl

section
variable (bytes : Nat → Bytes)

end

end Riscdom.Backup
