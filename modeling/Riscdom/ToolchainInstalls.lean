import Mathlib.Data.List.Sort
import Riscdom.FileMoves
import Riscdom.Machine
import Riscdom.ToolchainArchives

/-!
Installing toolchains below one destination root, one call after another. A call
looks for the product, downloads, verifies, extracts into the staging directory and
gives that directory the name of the version. Every step may fail, and the process
may die before any of them; the next call finds what was left.
-/
namespace Riscdom.ToolchainDownload
open Riscdom.Agent (Component components)
open Riscdom.FileTree Fallible.Act Riscdom.Machine

inductive Toolchain
  | C
  | Zig
  | Rust
deriving DecidableEq

inductive ArchiveKind
  | Zip
  | TarGz
  | TarXz
deriving DecidableEq

def GCC_NAMES : List String := ["riscv64-unknown-elf-gcc", "riscv-none-elf-gcc"]
def ZIG_NAMES : List String := ["zig"]
def RUST_TARGET : String := "riscv64gc-unknown-none-elf"

def DOWNLOAD_TMP : String := ".download-tmp"
def EXTRACT_TMP : String := ".extract-tmp"

def to_lowercase (s : String) : String := .ofList (s.toList.map Char.toLower)

/-- The file name of the archive (the last URL segment). -/
def file_name (url : String) : String := (url.toList.splitOn '/').getLast?.elim "toolchain-archive" String.ofList

/-- One toolchain build. Its version and its archive's name are plain names; the version is not the name of a directory
    that an installation itself needs. -/
structure DownloadSpec where
  version : String
  url : String
  sha256 : String
  archive_kind : ArchiveKind
  toolchain : Toolchain
  version_plain : components version = [.Normal version]
  file_plain : components (file_name url) = [.Normal (file_name url)]
  apart : version ≠ DOWNLOAD_TMP ∧ version ≠ EXTRACT_TMP

/-- The destination root, one spec for each version that is installed there, the functions of the libraries, and how
    a directory is listed. -/
structure Installer (ι : Type) where
  dest_root : Loc
  cwd : Loc
  describe : IoError → String
  sha256 : List UInt8 → String
  decode : ArchiveKind → List UInt8 → Except String (List (Except String TarEntry))
  listing : Tree → Loc → List String
  spec : ι → DownloadSpec
  one_each : ∀ i j, (spec i).version = (spec j).version → i = j

namespace Installer
variable {ι : Type} (s : Installer ι)

/-! ### The locators -/

/-- The names in a directory, as far as they can be read. -/
def read_dir (t : Tree) (dir : Loc) : Except IoError (List String) := (t.enter (path_of dir)).map (s.listing t)

/-- Does the name stand for one of the GCC executables? -/
def is_compiler_name (name : String) : Bool := ((name.dropSuffix? ".exe").elim name (·.toString)) ∈ GCC_NAMES

/-- A scan for a compiler, so many directories deep. -/
def walk (t : Tree) : Nat → Loc → Option Loc
  | 0, _ => none
  | left + 1, dir =>
    match s.read_dir t dir with
    | .error _ => none
    | .ok names => names.findSome? fun name =>
      if t.is_dir (path_of (dir ++ [name])) then walk t left (dir ++ [name])
      else if is_compiler_name name then some (dir ++ [name])
      else none

def find_compiler (t : Tree) (dir : Loc) : Option Loc := s.walk t 5 dir

def subdirs (t : Tree) (dir : Loc) : List Loc :=
  match s.read_dir t dir with
  | .error _ => []
  | .ok names =>
    ((names.filter fun name => t.is_dir (path_of (dir ++ [name]))).insertionSort (· ≤ ·)).map fun name => dir ++ [name]

/-- One of the names in a directory itself. -/
def beside (fits : List Component → Bool) (names : List String) (dir : Loc) : Option Loc :=
  (names.map fun name => dir ++ [name]).find? fun path => fits (path_of path)

/-- One of the names in a directory or in one right below it. -/
def find_shallow (t : Tree) (fits : List Component → Bool) (names : List String) (dir : Loc) : Option Loc :=
  (beside fits names dir).or ((s.subdirs t dir).findSome? (beside fits names))

def find_zig (t : Tree) (dir : Loc) : Option Loc :=
  s.find_shallow t t.is_file (ZIG_NAMES.flatMap fun name => [name, name ++ ".exe"]) dir

def find_rust_std (t : Tree) (dir : Loc) : Option Loc := s.find_shallow t t.is_dir ["rust-std-" ++ RUST_TARGET] dir

/-- The locator that finds a spec's product inside a directory. -/
def product_locator : Toolchain → Tree → Loc → Option Loc
  | .C => s.find_compiler
  | .Zig => s.find_zig
  | .Rust => s.find_rust_std

section Located
variable {s} {t : Tree} {dir product : Loc}

theorem read_dir_there (unlinked : Unlinked t dir) {names : List String} (read : s.read_dir t dir = .ok names) :
    t.node dir = some .dir := by
  rw [read_dir] at read
  cases entered : t.enter (path_of dir) with
  | error error =>
    rw [entered] at read
    cases read
  | ok there => exact (enter_unlinked unlinked entered).2

theorem walk_found {left : Nat} (found : s.walk t left dir = some product) :
    dir <+: product ∧ ∃ names, s.read_dir t dir = .ok names := by
  induction left generalizing dir with
  | zero => cases found
  | succ left ih =>
    rw [walk] at found
    cases read : s.read_dir t dir with
    | error error => simp [read] at found
    | ok names =>
      simp only [read] at found
      obtain ⟨name, -, step⟩ := List.exists_of_findSome?_eq_some found
      refine ⟨(List.prefix_append dir [name]).trans ?_, names, rfl⟩
      by_cases directory : t.is_dir (path_of (dir ++ [name]))
      · rw [if_pos directory] at step
        exact (ih step).1
      · rw [if_neg directory] at step
        by_cases compiler : is_compiler_name name
        · rw [if_pos compiler] at step
          cases step
          exact List.prefix_refl _
        · rw [if_neg compiler] at step
          cases step

theorem beside_found {fits : List Component → Bool} {names : List String} (found : beside fits names dir = some product) :
    ∃ name, product = dir ++ [name] ∧ fits (path_of product) := by
  rw [beside] at found
  have fit := List.find?_some found
  obtain ⟨name, -, rfl⟩ := List.mem_map.mp (List.mem_of_find?_eq_some found)
  exact ⟨name, rfl, fit⟩

theorem subdirs_found {subdir : Loc} (member : subdir ∈ s.subdirs t dir) :
    dir <+: subdir ∧ ∃ names, s.read_dir t dir = .ok names := by
  rw [subdirs] at member
  cases read : s.read_dir t dir with
  | error error => simp [read] at member
  | ok names =>
    simp only [read] at member
    obtain ⟨name, -, rfl⟩ := List.mem_map.mp member
    exact ⟨List.prefix_append dir [name], names, rfl⟩

theorem is_dir_leads {path : List Component} (fits : t.is_dir path = true) : ∃ there, t.place path = .ok there := by
  rw [Tree.is_dir, Tree.enter] at fits
  cases placed : t.place path with
  | error error => simp [placed, Except.isOk, Except.toBool] at fits
  | ok there => exact ⟨there, rfl⟩

theorem is_file_leads {path : List Component} (fits : t.is_file path = true) : ∃ there, t.place path = .ok there := by
  rw [Tree.is_file] at fits
  cases placed : t.place path with
  | error error => simp [placed] at fits
  | ok there => exact ⟨there, rfl⟩

theorem find_shallow_found {fits : List Component → Bool} {names : List String} (found : s.find_shallow t fits names dir = some product)
    (leads : ∀ path, fits path = true → ∃ there, t.place path = .ok there) :
    dir <+: product ∧ (Unlinked t dir → t.node dir = some .dir) := by
  rw [find_shallow, Option.or_eq_some_iff] at found
  rcases found with direct | ⟨-, below⟩
  · obtain ⟨name, rfl, fit⟩ := beside_found direct
    refine ⟨List.prefix_append dir [name], fun unlinked => ?_⟩
    obtain ⟨there, placed⟩ := leads _ fit
    exact place_below unlinked placed
  · obtain ⟨subdir, member, step⟩ := List.exists_of_findSome?_eq_some below
    obtain ⟨name, rfl, -⟩ := beside_found step
    obtain ⟨within, names, read⟩ := subdirs_found member
    exact ⟨within.trans (List.prefix_append subdir [name]), fun unlinked => read_dir_there unlinked read⟩

/-- A product is found below the directory, which is there. -/
theorem product_located {toolchain : Toolchain} (found : s.product_locator toolchain t dir = some product) :
    dir <+: product ∧ (Unlinked t dir → t.node dir = some .dir) := by
  cases toolchain with
  | C =>
    obtain ⟨within, names, read⟩ := walk_found found
    exact ⟨within, fun unlinked => read_dir_there unlinked read⟩
  | Zig => exact find_shallow_found found fun _ fits => is_file_leads fits
  | Rust => exact find_shallow_found found fun _ fits => is_dir_leads fits

end Located

/-! ### One call -/

def tmp_dir : Loc := s.dest_root ++ [DOWNLOAD_TMP]
def staging : Loc := s.dest_root ++ [EXTRACT_TMP]
def install_dir (i : ι) : Loc := s.dest_root ++ [(s.spec i).version]
def archive (i : ι) : Loc := s.tmp_dir ++ [file_name (s.spec i).url]

def setting : Setting := ⟨s.staging, s.cwd, s.describe⟩

end Installer

/-- What a step meets: where the host may write by then, whether the call is cancelled, what fails, what the network
    sends, what a removal that is stopped has removed, and how far an entry could be read that breaks off. -/
structure Moment where
  permits : Loc → Bool
  cancelled : Bool
  broken : Option IoError
  response : Except String (List UInt8)
  gone : Option (List Loc)
  spoiled : Option (Nat × String)

namespace Moment
variable (m : Moment)

/-- How a loop ends that is cancelled, or cannot go on. -/
def stopped : Option ToolchainDownloadError := if m.cancelled then some .Cancelled else m.broken.map .Io

/-- An entry as it is read. -/
def reads (entry : Except String TarEntry) : Except String TarEntry :=
  match m.spoiled with
  | none => entry
  | some (length, message) =>
    match entry with
    | .ok ⟨path, .file content _⟩ => .ok ⟨path, .file (content.take length) (some message)⟩
    | _ => .error message

end Moment

/-- How far a call is. -/
inductive Point
  | Begun
  | Prepared
  | Downloaded
  | Verified
  | Cleared
  | Staged
  | Extracting (left : List (Except String TarEntry))
  | Found (relative : Loc)
  | Replacing (relative : Loc)
  | Installed (product : Loc)
  | Discarding (error : ToolchainDownloadError)
  | Failed (error : ToolchainDownloadError)
deriving DecidableEq

inductive Goes
  | on (point : Point)
  | ends (result : Except ToolchainDownloadError Loc)

/-- Where a call goes on after it tried something. -/
def tried {Error : Type} (failed : Error → Goes) (done : Goes) : Except Error Unit × Tree → Goes × Tree
  | (.error error, t) => (failed error, t)
  | (.ok _, t) => (done, t)

@[simp] theorem tried_tree {Error : Type} (failed : Error → Goes) (done : Goes) (ended : Except Error Unit × Tree) :
    (tried failed done ended).2 = ended.2 := by
  rcases ended with ⟨_ | _, t⟩ <;> rfl

namespace Installer
variable {ι : Type} (s : Installer ι)

/-- The entries of the archive, if it can be opened. -/
def opened (i : ι) (t : Tree) : Except ToolchainDownloadError (List (Except String TarEntry)) :=
  match (s.spec i).archive_kind with
  | .Zip => .error (.Archive "zip archives are not supported on this platform")
  | kind => do
    let bytes ← (t.read (path_of (s.archive i))).mapError .Io
    (s.decode kind bytes).mapError .Archive

def io_failed (error : IoError) : Goes := .on (.Failed (.Io error))

/-- The next step of a call. -/
def next (i : ι) (m : Moment) (t : Tree) : Point → Goes × Tree
  | .Begun => tried (fun error => .ends (.error (.Io error))) (.on .Prepared) (create_dir_all s.tmp_dir t)
  | .Prepared =>
    match m.response with
    | .error message => (.on (.Failed (.Http message)), t)
    | .ok content =>
      tried io_failed (.on (m.stopped.elim .Downloaded .Failed)) (write_file content none (path_of (s.archive i)) t)
  | .Downloaded =>
    match m.stopped with
    | some error => (.on (.Failed error), t)
    | none =>
      match t.read (path_of (s.archive i)) with
      | .error error => (io_failed error, t)
      | .ok bytes =>
        let expected := to_lowercase (s.spec i).sha256
        if s.sha256 bytes = expected then (.on .Verified, t)
        else (.on (.Failed (.ChecksumMismatch expected (s.sha256 bytes))), t)
  | .Verified =>
    if t.path_exists (path_of s.staging) then
      tried io_failed (.on .Cleared) (remove_dir_all m.gone (path_of s.staging) t)
    else (.on .Cleared, t)
  | .Cleared => tried io_failed (.on .Staged) (create_dir_all s.staging t)
  | .Staged =>
    match s.opened i t with
    | .error error => (.on (.Discarding error), t)
    | .ok entries => (.on (.Extracting entries), t)
  | .Extracting (entry :: left) =>
    tried (fun error => .on (.Discarding error)) (.on (.Extracting left))
      (s.setting.extract_entry ⟨m.cancelled, m.reads entry⟩ t)
  | .Extracting [] =>
    match s.product_locator (s.spec i).toolchain t s.staging with
    | none => (.on (.Discarding .NoCompilerInArchive), t)
    | some found =>
      if s.staging <+: found then (.on (.Found (found.drop s.staging.length)), t)
      else (.on (.Failed .NoCompilerInArchive), t)
  | .Found relative =>
    if t.path_exists (path_of (s.install_dir i)) then
      tried io_failed (.on (.Replacing relative)) (remove_dir_all m.gone (path_of (s.install_dir i)) t)
    else (.on (.Replacing relative), t)
  | .Replacing relative =>
    tried io_failed (.on (.Installed (s.install_dir i ++ relative))) (rename (path_of s.staging) (path_of (s.install_dir i)) t)
  | .Installed product => (.ends (.ok product), (remove_file (path_of (s.archive i)) t).2)
  | .Discarding error => (.on (.Failed error), (remove_dir_all m.gone (path_of s.staging) t).2)
  | .Failed error => (.ends (.error error), (remove_file (path_of (s.archive i)) t).2)

/-! ### Histories -/

/-- A call that has returned, between the trees it began and ended with. -/
structure Ended (ι : Type) where
  spec : ι
  result : Except ToolchainDownloadError Loc
  before : Tree
  after : Tree

/-- The tree, the call that is on its way with the tree it began with, and the calls that have returned. -/
structure History (ι : Type) where
  tree : Tree
  running : Option (ι × Point)
  before : Tree
  ended : List (Ended ι)

inductive Act (ι : Type)
  | call (i : ι)
  | go (m : Moment)
  | die

def fresh (t : Tree) : History ι := ⟨t, none, t, []⟩

/-- The product that is there already is returned; otherwise the call goes on, one step after another. -/
def step (w : History ι) : Act ι → History ι
  | .call i =>
    match w.running with
    | some _ => w
    | none =>
      match s.product_locator (s.spec i).toolchain w.tree (s.install_dir i) with
      | some existing => { w with ended := ⟨i, .ok existing, w.tree, w.tree⟩ :: w.ended }
      | none => { w with running := some (i, .Begun), before := w.tree }
  | .go m =>
    match w.running with
    | none => w
    | some (i, point) =>
      match s.next i m (w.tree.allow m.permits) point with
      | (.on further, t) => { w with tree := t, running := some (i, further) }
      | (.ends result, t) => { w with tree := t, running := none, ended := ⟨i, result, w.before, t⟩ :: w.ended }
  | .die => { w with running := none }

/-! ### What an installation is -/

/-- The staging directory, with nothing in it. -/
def Empty (t : Tree) : Prop := t.node s.staging = some .dir ∧ ∀ below, below ≠ [] → t.node (s.staging ++ below) = none

/-- The entries extracted one after another, each of them without an error. -/
inductive Unpacks : Tree → List (Except String TarEntry) → Tree → Prop
  | none (t : Tree) : Unpacks t [] t
  | one {t u v : Tree} {entries : List (Except String TarEntry)} {entry : Except String TarEntry} {permits : Loc → Bool}
      (before : Unpacks t entries u) (last : s.setting.extract_entry ⟨false, entry⟩ (u.allow permits) = (.ok (), v)) :
      Unpacks t (entries ++ [entry]) v

/-- Bytes with the checksum of the spec, as the archive they are. -/
def Verified (i : ι) (entries : List (Except String TarEntry)) : Prop :=
  ∃ bytes, s.sha256 bytes = to_lowercase (s.spec i).sha256 ∧ s.decode (s.spec i).archive_kind bytes = .ok entries

/-- A directory holds what the whole archive left in an empty staging directory, where a product was found. -/
def Complete (i : ι) (dir : Loc) (t : Tree) : Prop :=
  ∃ entries start staged, s.Verified i entries ∧ s.Empty start ∧ s.Unpacks start entries staged ∧
    (∃ permits, s.product_locator (s.spec i).toolchain (staged.allow permits) s.staging ≠ none) ∧
    ∀ below, t.view (dir ++ below) = staged.view (s.staging ++ below)

/-- What a call that has returned promises. -/
def Kept (call : Ended ι) : Prop :=
  match call.result with
  | .ok product => s.install_dir call.spec <+: product ∧ s.Complete call.spec (s.install_dir call.spec) call.after
  | .error _ => ∀ i, SameBelow (s.install_dir i) call.before call.after

/-- Every version directory with a product is a complete installation, and every call that has returned kept its promise. -/
def Trusted (w : History ι) : Prop :=
  (∀ i product, s.product_locator (s.spec i).toolchain w.tree (s.install_dir i) = some product →
    s.Complete i (s.install_dir i) w.tree) ∧ ∀ call ∈ w.ended, s.Kept call

/-! ### Where it goes wrong -/

/-- The file a download is written to has no name in a version directory; an entry makes and writes what it does inside
    the staging directory; the removal of an older version directory is not cut short, and the name that was taken from
    it can be given anew. -/
def Meets (w : History ι) : Act ι → Prop
  | .go m =>
    match w.running with
    | some (i, .Prepared) => ∀ content inode, m.response = .ok content → w.tree.node (s.archive i) = some (.file inode) →
        ∀ j below, w.tree.node (s.install_dir j ++ below) ≠ some (.file inode)
    | some (_, .Extracting (entry :: _)) => s.setting.StaysInside (w.tree.allow m.permits) ⟨m.cancelled, m.reads entry⟩
    | some (i, .Found _) => w.tree.node (s.install_dir i) ≠ none → ∀ gone, m.gone = some gone → gone = []
    | some (i, .Replacing _) => w.before.node (s.install_dir i) ≠ none → m.permits (s.install_dir i)
    | _ => True
  | _ => True

/-- The places an installation itself names. -/
def Own (loc : Loc) : Prop :=
  loc <+: s.dest_root ∨ (∃ name, loc = s.dest_root ++ [name]) ∨ ∃ name, loc = s.tmp_dir ++ [name]

/-- A root where nothing was installed: no link leads there, and there is nothing in it. -/
def NewRoot (t : Tree) : Prop := Tidy s.Own t ∧ ∀ below, below ≠ [] → t.node (s.dest_root ++ below) = none

/-! ### The places an installation names -/

theorem own_higher (loc above : Loc) (its : s.Own loc) (shorter : above <+: loc) : s.Own above := by
  have one (dir : Loc) (name : String) (within : above <+: dir ++ [name]) : above = dir ++ [name] ∨ above <+: dir :=
    List.prefix_concat_iff.mp within
  rcases its with root | ⟨name, rfl⟩ | ⟨name, rfl⟩
  · exact .inl (shorter.trans root)
  · rcases one s.dest_root name shorter with same | higher
    · exact .inr (.inl ⟨name, same⟩)
    · exact .inl higher
  · rcases one s.tmp_dir name shorter with same | higher
    · exact .inr (.inr ⟨name, same⟩)
    · rcases one s.dest_root DOWNLOAD_TMP higher with same | top
      · exact .inr (.inl ⟨DOWNLOAD_TMP, same⟩)
      · exact .inl top

theorem own_child (name : String) : s.Own (s.dest_root ++ [name]) := .inr (.inl ⟨name, rfl⟩)
theorem own_archive (i : ι) : s.Own (s.archive i) := .inr (.inr ⟨file_name (s.spec i).url, rfl⟩)

/-- Nothing is named below the directories in the root but below the one for downloads. -/
theorem own_bare {name : String} (other : name ≠ DOWNLOAD_TMP) (rest : Loc) (below : rest ≠ []) :
    ¬ s.Own (s.dest_root ++ [name] ++ rest) := by
  have some_name := List.length_pos_iff.mpr below
  rintro (root | ⟨child, same⟩ | ⟨child, same⟩)
  · have length := root.length_le
    simp only [List.length_append, List.length_singleton] at length
    omega
  · have length := congrArg List.length same
    simp only [List.length_append, List.length_singleton] at length
    omega
  · exact apart_of_ne other [child] (same ▸ List.prefix_append _ rest)

theorem staging_other : EXTRACT_TMP ≠ DOWNLOAD_TMP := by decide

theorem version_of_ne {i j : ι} (other : j ≠ i) : (s.spec j).version ≠ (s.spec i).version :=
  fun same => other (s.one_each j i same)

/-! ### Version directories that stay as they are -/

/-- Nothing in a version directory is changed. -/
def Aside (t u : Tree) : Prop := ∀ i, SameBelow (s.install_dir i) t u

section Aside
variable {s} {t u v : Tree}

theorem Aside.refl (t : Tree) : s.Aside t t := fun _ => .refl _ t
theorem Aside.trans (first : s.Aside t u) (second : s.Aside u v) : s.Aside t v := fun i => (first i).trans (second i)

theorem Aside.node (aside : s.Aside t u) (i : ι) : u.node (s.install_dir i) = t.node (s.install_dir i) :=
  t.node_of_view (aside i _ (List.prefix_refl _))

/-- What is changed lies in another directory of the root. -/
theorem aside_of {name : String} (apart : ∀ i, (s.spec i).version ≠ name)
    (same : ∀ loc, ¬ s.dest_root ++ [name] <+: loc → ¬ loc <+: s.dest_root ++ [name] → u.view loc = t.view loc) :
    s.Aside t u := by
  rintro i loc ⟨below, rfl⟩
  refine same _ (apart_of_ne (Ne.symm (apart i)) below) fun above => ?_
  have within := (List.prefix_append (s.install_dir i) below).trans above
  exact apart_of_ne (apart i) [] (by rwa [List.append_nil])

theorem aside_prune {name : String} (apart : ∀ i, (s.spec i).version ≠ name) (gone : List Loc) :
    s.Aside t (t.prune (gone.map fun below => s.dest_root ++ [name] ++ below)) := by
  refine aside_of apart fun loc outside _ => t.prune_view ?_
  rintro ⟨g, member, above⟩
  obtain ⟨below, -, rfl⟩ := List.mem_map.mp member
  exact outside ((List.prefix_append _ below).trans above)

variable (s)

theorem tmp_apart (i : ι) : (s.spec i).version ≠ DOWNLOAD_TMP := (s.spec i).apart.1
theorem staging_apart (i : ι) : (s.spec i).version ≠ EXTRACT_TMP := (s.spec i).apart.2

/-- The removal of the staging directory, as far as it comes. -/
theorem remove_staging (own : Tidy s.Own t) (gone : Option (List Loc)) :
    Tidy s.Own (remove_dir_all gone (path_of s.staging) t).2 ∧ s.Aside t (remove_dir_all gone (path_of s.staging) t).2 := by
  have unlinked := own.unlinked_to s.own_higher (.inl (List.prefix_refl s.dest_root))
  have whole := @aside_prune _ s t EXTRACT_TMP s.staging_apart [[]]
  simp only [List.map_cons, List.append_nil, List.map_nil] at whole
  rcases @remove_dir_all_cases t s.dest_root EXTRACT_TMP unlinked gone with ⟨error, same⟩ | done | ⟨names, error, -, cut⟩
  · rw [path_of, staging, same]
    exact ⟨own, .refl t⟩
  · rw [path_of, staging, done]
    exact ⟨own.prune _, whole⟩
  · rw [path_of, staging, cut]
    exact ⟨own.prune _, aside_prune s.staging_apart names⟩

/-- The archive taken away, or not. -/
theorem remove_archive (own : Tidy s.Own t) (i : ι) :
    Tidy s.Own (remove_file (path_of (s.archive i)) t).2 ∧ s.Aside t (remove_file (path_of (s.archive i)) t).2 := by
  have unlinked := own.unlinked_to s.own_higher (s.own_child DOWNLOAD_TMP)
  have whole := @aside_prune _ s t DOWNLOAD_TMP s.tmp_apart [[file_name (s.spec i).url]]
  rcases @remove_file_cases t s.tmp_dir (file_name (s.spec i).url) unlinked with same | gone
  · rw [path_of, archive, same]
    exact ⟨own, .refl t⟩
  · rw [path_of, archive, gone]
    exact ⟨own.prune _, whole⟩

theorem create_child (own : Tidy s.Own t) {name : String} (apart : ∀ i, (s.spec i).version ≠ name) :
    Tidy s.Own (create_dir_all (s.dest_root ++ [name]) t).2 ∧ s.Aside t (create_dir_all (s.dest_root ++ [name]) t).2 := by
  have unlinked := own.unlinked_to s.own_higher (s.own_child name)
  exact ⟨own.create_dir_all unlinked, aside_of apart fun loc _ elsewhere => create_dir_all_elsewhere unlinked elsewhere⟩

end Aside

/-! ### What holds while a call is on its way -/

/-- The places are tidy, and a version directory is missing or complete. -/
structure Sound (t : Tree) : Prop where
  tidy : Tidy s.Own t
  stands : ∀ i, t.node (s.install_dir i) = none ∨ s.Complete i (s.install_dir i) t

/-- The archive holds bytes with the checksum of the spec. -/
def Holds (i : ι) (t : Tree) : Prop :=
  ∃ inode data, t.view (s.archive i) = some (.file inode, some data) ∧ s.sha256 data.content = to_lowercase (s.spec i).sha256

/-- The first entries of a verified archive were extracted. -/
def Unpacking (i : ι) (left : List (Except String TarEntry)) (t : Tree) : Prop :=
  ∃ unpacked start, s.Verified i (unpacked ++ left) ∧ s.Empty start ∧ s.Unpacks start unpacked t

/-- What a call has reached. Only from the removal of the old version directory on it may differ from what was found. -/
def Reached (i : ι) (before t : Tree) : Point → Prop
  | .Verified => s.Aside before t ∧ s.Holds i t
  | .Cleared => s.Aside before t ∧ s.Holds i t ∧ t.node s.staging = none
  | .Staged => s.Aside before t ∧ s.Holds i t ∧ s.Empty t
  | .Extracting left => s.Aside before t ∧ s.Unpacking i left t
  | .Found _ => s.Aside before t ∧ s.Complete i s.staging t
  | .Replacing _ => s.Complete i s.staging t ∧ t.node (s.install_dir i) = none ∧
      (s.Aside before t ∨ before.node (s.install_dir i) ≠ none)
  | .Installed product => s.Complete i (s.install_dir i) t ∧ s.install_dir i <+: product
  | _ => s.Aside before t

/-- What a step has come to. -/
def Fine (i : ι) (before : Tree) : Goes × Tree → Prop
  | (.on point, t) => s.Sound t ∧ s.Reached i before t point
  | (.ends result, t) => s.Sound t ∧ s.Kept ⟨i, result, before, t⟩

section Fine
variable {s} {i : ι} {before t u : Tree}

theorem Complete.same {dir : Loc} (complete : s.Complete i dir t) (same : SameBelow dir t u) : s.Complete i dir u := by
  obtain ⟨entries, start, staged, verified, vacant, unpacks, product, seen⟩ := complete
  refine ⟨entries, start, staged, verified, vacant, unpacks, product, fun below => ?_⟩
  rw [same _ (List.prefix_append dir below)]
  exact seen below

theorem Holds.same (holds : s.Holds i t) (same : u.view (s.archive i) = t.view (s.archive i)) : s.Holds i u := by
  obtain ⟨inode, data, seen, verified⟩ := holds
  exact ⟨inode, data, same.trans seen, verified⟩

theorem Sound.aside (sound : s.Sound t) (tidy : Tidy s.Own u) (aside : s.Aside t u) : s.Sound u := by
  refine ⟨tidy, fun j => ?_⟩
  rcases sound.stands j with missing | complete
  · exact .inl ((aside.node j).trans missing)
  · exact .inr (complete.same (aside j))

/-- Another permission changes nothing that is seen. -/
theorem Sound.allow (sound : s.Sound t) (permits : Loc → Bool) : s.Sound (t.allow permits) :=
  sound.aside ⟨sound.tidy.unlinked, sound.tidy.grounded⟩ fun _ _ _ => rfl

theorem fine_tried {Error : Type} {failed : Error → Goes} {done : Goes} {ended : Except Error Unit × Tree}
    (bad : ∀ error, ended.1 = .error error → s.Fine i before (failed error, ended.2))
    (good : ended.1 = .ok () → s.Fine i before (done, ended.2)) : s.Fine i before (tried failed done ended) := by
  rcases ended with ⟨error | _, after⟩
  · exact bad error rfl
  · exact good rfl

/-- The staging directory and the archive lie beside the version directories, and beside each other. -/
theorem archive_outside (i : ι) (below : Loc) : ¬ s.staging ++ below <+: s.archive i := by
  intro within
  refine apart_of_ne staging_other [file_name (s.spec i).url] ((List.prefix_append _ below).trans within)

/-! ### From point to point -/

theorem begun_fine (m : Moment) (sound : s.Sound t) (reached : s.Reached i before t .Begun) :
    s.Fine i before (s.next i m t .Begun) := by
  obtain ⟨tidy, aside⟩ := s.create_child sound.tidy s.tmp_apart
  have after := sound.aside tidy aside
  have since : s.Aside before (create_dir_all s.tmp_dir t).2 := Aside.trans reached aside
  exact fine_tried (fun error _ => ⟨after, since⟩) fun _ => ⟨after, since⟩

/-- The download, into a file that has no name in a version directory. -/
theorem prepared_fine (m : Moment) (sound : s.Sound t) (reached : s.Reached i before t .Prepared)
    (unshared : ∀ content inode, m.response = .ok content → t.node (s.archive i) = some (.file inode) →
      ∀ j below, t.node (s.install_dir j ++ below) ≠ some (.file inode)) :
    s.Fine i before (s.next i m t .Prepared) := by
  rw [next]
  cases answered : m.response with
  | error message => exact ⟨sound, reached⟩
  | ok content =>
    have unlinked := sound.tidy.unlinked_to s.own_higher (s.own_archive i)
    have written : s.Sound (write_file content none (path_of (s.archive i)) t).2 ∧
        s.Aside t (write_file content none (path_of (s.archive i)) t).2 := by
      rcases write_file_cases unlinked content with ⟨error, same⟩ | ⟨dir, vacant, done⟩ | ⟨inode, standing, done⟩
      · rw [path_of, archive, same]
        exact ⟨sound, .refl t⟩
      · have aside : s.Aside t (t.create (s.archive i) content) := by
          refine aside_of s.tmp_apart fun loc outside _ => t.create_view content (by simp [archive]) ?_
          rintro rfl
          exact outside (List.prefix_append _ _)
        have tidy : Tidy s.Own (t.create (s.archive i) content) :=
          ⟨(sound.tidy.put dir vacant (by simp)).unlinked, (sound.tidy.put dir vacant (by simp)).grounded⟩
        rw [path_of, archive, done]
        exact ⟨sound.aside tidy aside, aside⟩
      · have aside : s.Aside t (t.write inode content) := by
          rintro j loc ⟨below, rfl⟩
          exact (t.write_view_eq_iff inode content _).mpr (unshared content inode answered standing j below)
        rw [path_of, archive, done]
        exact ⟨sound.aside ⟨sound.tidy.unlinked, sound.tidy.grounded⟩ aside, aside⟩
    have since := Aside.trans reached written.2
    refine fine_tried (fun error _ => ⟨written.1, since⟩) fun _ => ?_
    cases m.stopped with
    | none => exact ⟨written.1, since⟩
    | some error => exact ⟨written.1, since⟩

theorem downloaded_fine (m : Moment) (sound : s.Sound t) (reached : s.Reached i before t .Downloaded) :
    s.Fine i before (s.next i m t .Downloaded) := by
  rw [next]
  cases m.stopped with
  | some error => exact ⟨sound, reached⟩
  | none =>
    simp only
    cases found : t.read (path_of (s.archive i)) with
    | error error => exact ⟨sound, reached⟩
    | ok bytes =>
      by_cases same : s.sha256 bytes = to_lowercase (s.spec i).sha256
      · simp only [same, if_true]
        obtain ⟨inode, data, seen, rfl⟩ := read_unlinked (sound.tidy.unlinked_to s.own_higher (s.own_archive i)) found
        exact ⟨sound, reached, inode, data, seen, same⟩
      · simp only [same, if_false]
        exact ⟨sound, reached⟩

/-- What was left of an earlier extraction is removed. -/
theorem verified_fine (m : Moment) (sound : s.Sound t) (reached : s.Reached i before t .Verified) :
    s.Fine i before (s.next i m t .Verified) := by
  obtain ⟨aside, holds⟩ := reached
  have its := s.own_child EXTRACT_TMP
  rw [next]
  by_cases there : t.path_exists (path_of s.staging)
  · rw [if_pos there]
    obtain ⟨tidy, kept⟩ := s.remove_staging sound.tidy m.gone
    refine fine_tried (fun error _ => ⟨sound.aside tidy kept, aside.trans kept⟩) fun done => ?_
    have unlinked := sound.tidy.unlinked_to s.own_higher (.inl (List.prefix_refl s.dest_root))
    refine ⟨sound.aside tidy kept, aside.trans kept, ?_⟩
    rcases @remove_dir_all_cases t s.dest_root EXTRACT_TMP unlinked m.gone with ⟨error, same⟩ | all | ⟨_, error, -, cut⟩
    · rw [path_of, staging, same] at done
      cases done
    · have seen : (t.prune [s.staging]).view (s.archive i) = t.view (s.archive i) := by
        refine t.prune_view ?_
        rintro ⟨g, member, above⟩
        obtain rfl := List.mem_singleton.mp member
        exact archive_outside i [] (by rwa [List.append_nil])
      rw [path_of, staging, all]
      refine ⟨holds.same seen, ?_⟩
      rw [t.prune_node _ (by simp), if_pos ⟨_, List.mem_singleton_self _, List.prefix_refl _⟩]
    · rw [path_of, staging, cut] at done
      cases done
  · rw [if_neg there]
    have missing : t.node s.staging = none := by
      by_contra standing
      exact there ((sound.tidy.path_exists s.own_higher its).mpr standing)
    exact ⟨sound, aside, holds, missing⟩

theorem cleared_fine (m : Moment) (sound : s.Sound t) (reached : s.Reached i before t .Cleared) :
    s.Fine i before (s.next i m t .Cleared) := by
  obtain ⟨aside, holds, missing⟩ := reached
  obtain ⟨tidy, kept⟩ := s.create_child sound.tidy s.staging_apart
  have unlinked := sound.tidy.unlinked_to s.own_higher (s.own_child EXTRACT_TMP)
  refine fine_tried (fun error _ => ⟨sound.aside tidy kept, aside.trans kept⟩) fun done => ?_
  refine ⟨sound.aside tidy kept, aside.trans kept, holds.same ?_, ?_, fun below some_name => ?_⟩
  · refine create_dir_all_elsewhere unlinked fun above => ?_
    have length := above.length_le
    simp [archive, tmp_dir] at length
  · exact create_dir_all_done unlinked (Prod.ext done rfl)
  · have elsewhere : ¬ s.staging ++ below <+: s.staging := by
      intro within
      have length := within.length_le
      have longer := List.length_pos_iff.mpr some_name
      rw [List.length_append] at length
      omega
    have same : (create_dir_all s.staging t).2.node (s.staging ++ below) = t.node (s.staging ++ below) :=
      t.node_of_view (create_dir_all_elsewhere unlinked elsewhere)
    rw [same]
    by_contra standing
    have dir := sound.tidy.grounded s.staging below (s.own_child EXTRACT_TMP) some_name standing
    rw [missing] at dir
    cases dir

/-- The bytes that are opened are the bytes that were verified. -/
theorem staged_fine (m : Moment) (sound : s.Sound t) (reached : s.Reached i before t .Staged) :
    s.Fine i before (s.next i m t .Staged) := by
  obtain ⟨aside, ⟨inode, data, seen, verified⟩, vacant⟩ := reached
  rw [next]
  cases found : s.opened i t with
  | error error => exact ⟨sound, aside⟩
  | ok entries =>
    refine ⟨sound, aside, [], t, ⟨data.content, verified, ?_⟩, vacant, .none t⟩
    have reads (bytes : List UInt8) (read : t.read (path_of (s.archive i)) = .ok bytes) : bytes = data.content := by
      obtain ⟨other, held, view, rfl⟩ := read_unlinked (sound.tidy.unlinked_to s.own_higher (s.own_archive i)) read
      rw [seen] at view
      cases view
      rfl
    have decoded (kind : ArchiveKind) (open_all : (do
        let bytes ← (t.read (path_of (s.archive i))).mapError .Io
        (s.decode kind bytes).mapError .Archive : Except ToolchainDownloadError _) = .ok entries) :
        s.decode kind data.content = .ok entries := by
      cases read : t.read (path_of (s.archive i)) with
      | error error =>
        rw [read] at open_all
        cases open_all
      | ok bytes =>
        obtain rfl := reads bytes read
        rw [read] at open_all
        cases decoding : s.decode kind data.content with
        | error message => simp [Except.mapError, bind, Except.bind, decoding] at open_all
        | ok its =>
          simp only [Except.mapError, bind, Except.bind, decoding] at open_all
          cases open_all
          rfl
    rw [opened] at found
    cases kind : (s.spec i).archive_kind with
    | Zip =>
      rw [kind] at found
      cases found
    | TarGz =>
      rw [kind] at found
      exact decoded .TarGz found
    | TarXz =>
      rw [kind] at found
      exact decoded .TarXz found

/-- The staging directory stays a directory while entries are extracted. -/
theorem unpacks_dir {start staged : Tree} {entries : List (Except String TarEntry)} (vacant : s.Empty start)
    (unpacks : s.Unpacks start entries staged) : staged.node s.staging = some .dir := by
  induction unpacks with
  | none => exact vacant.1
  | @one u v entries entry permits before last ih =>
    have kept := s.setting.extract_entry_keeps ⟨false, entry⟩ (u.allow permits) s.staging ih
    rw [last] at kept
    exact kept

/-- An entry that is extracted is the one of the archive. -/
theorem round_of_ok {m : Moment} {entry : Except String TarEntry}
    (done : (s.setting.extract_entry ⟨m.cancelled, m.reads entry⟩ t).1 = .ok ()) :
    (⟨m.cancelled, m.reads entry⟩ : Round) = ⟨false, entry⟩ := by
  obtain ⟨going, whole⟩ := s.setting.extract_entry_of_ok (Prod.ext done rfl)
  have clear : m.cancelled = false := going
  rw [Round.mk.injEq]
  refine ⟨clear, ?_⟩
  have failed (message : String) : m.reads entry ≠ .error message := by
    intro spoiled
    rw [Setting.extract_entry, spoiled, clear] at done
    cases done
  cases spoiled : m.spoiled with
  | none => simp [Moment.reads, spoiled]
  | some cut =>
    obtain ⟨length, message⟩ := cut
    cases entry with
    | error other => exact absurd (by simp [Moment.reads, spoiled]) (failed message)
    | ok entry =>
      obtain ⟨path, kind⟩ := entry
      cases kind with
      | file content broken => exact absurd (by simp [Moment.reads, spoiled]) (whole path (content.take length) message)
      | _ => exact absurd (by simp [Moment.reads, spoiled]) (failed message)

/-- An entry that stays inside the staging directory. -/
theorem extracting_fine (m : Moment) {entry : Except String TarEntry} {left : List (Except String TarEntry)}
    (sound : s.Sound t) (reached : s.Reached i before t (.Extracting (entry :: left)))
    (inside : s.setting.StaysInside (t.allow m.permits) ⟨m.cancelled, m.reads entry⟩) :
    s.Fine i before (s.next i m (t.allow m.permits) (.Extracting (entry :: left))) := by
  obtain ⟨aside, unpacked, start, verified, vacant, unpacks⟩ := reached
  have dir := unpacks_dir vacant unpacks
  have same := (s.setting.extract_entry_same_iff (t.allow m.permits) ⟨m.cancelled, m.reads entry⟩).mpr inside
  have stays := s.setting.extract_entry_keeps ⟨m.cancelled, m.reads entry⟩ (t.allow m.permits) s.staging dir
  have kept : s.Aside t (s.setting.extract_entry ⟨m.cancelled, m.reads entry⟩ (t.allow m.permits)).2 :=
    aside_of s.staging_apart fun loc outside _ => same loc outside
  have tidy := (sound.allow m.permits).tidy.same_outside same (own_bare s staging_other) dir stays
  refine fine_tried (fun error _ => ⟨sound.aside tidy kept, aside.trans kept⟩) fun done => ?_
  have last : s.setting.extract_entry ⟨false, entry⟩ (t.allow m.permits) =
      (.ok (), (s.setting.extract_entry ⟨m.cancelled, m.reads entry⟩ (t.allow m.permits)).2) := by
    rw [← round_of_ok done]
    exact Prod.ext done rfl
  refine ⟨sound.aside tidy kept, aside.trans kept, unpacked ++ [entry], start, ?_, vacant, .one unpacks last⟩
  rwa [List.append_assoc, List.singleton_append]

theorem extracted_fine (m : Moment) (sound : s.Sound t) (reached : s.Reached i before t (.Extracting [])) :
    s.Fine i before (s.next i m (t.allow m.permits) (.Extracting [])) := by
  obtain ⟨aside, unpacked, start, verified, vacant, unpacks⟩ := reached
  rw [List.append_nil] at verified
  rw [next]
  cases located : s.product_locator (s.spec i).toolchain (t.allow m.permits) s.staging with
  | none => exact ⟨sound.allow m.permits, aside⟩
  | some found =>
    simp only
    by_cases below : s.staging <+: found
    · rw [if_pos below]
      exact ⟨sound.allow m.permits, aside, unpacked, start, t, verified, vacant, unpacks,
        ⟨m.permits, by simp [located]⟩, fun _ => rfl⟩
    · rw [if_neg below]
      exact ⟨sound.allow m.permits, aside⟩

/-- Everything at another version directory, and at the staging directory, is beside a version directory. -/
theorem beside_version {name : String} (other : name ≠ (s.spec i).version) (below : Loc) :
    ¬ s.install_dir i <+: s.dest_root ++ [name] ++ below := apart_of_ne other.symm below

/-- The version directory that is there is removed, if the removal is not cut short. -/
theorem found_fine (m : Moment) (relative : Loc) (sound : s.Sound t) (reached : s.Reached i before t (.Found relative))
    (whole : t.node (s.install_dir i) ≠ none → ∀ gone, m.gone = some gone → gone = []) :
    s.Fine i before (s.next i m t (.Found relative)) := by
  obtain ⟨aside, complete⟩ := reached
  have its := s.own_child (s.spec i).version
  rw [next]
  by_cases there : t.path_exists (path_of (s.install_dir i))
  · rw [if_pos there]
    have standing : t.node (s.install_dir i) ≠ none := (sound.tidy.path_exists s.own_higher its).mp there
    have unlinked := sound.tidy.unlinked_to s.own_higher (.inl (List.prefix_refl s.dest_root))
    rcases @remove_dir_all_cases t s.dest_root (s.spec i).version unlinked m.gone with ⟨error, same⟩ | all | ⟨gone, error, stopped, cut⟩
    · rw [path_of, install_dir, same]
      exact ⟨sound, aside⟩
    · have elsewhere (name : String) (other : name ≠ (s.spec i).version) :
          SameBelow (s.dest_root ++ [name]) t (t.prune [s.install_dir i]) := by
        rintro loc ⟨below, rfl⟩
        refine t.prune_view ?_
        rintro ⟨g, member, above⟩
        obtain rfl := List.mem_singleton.mp member
        exact beside_version other below above
      have missing : (t.prune [s.install_dir i]).node (s.install_dir i) = none := by
        rw [t.prune_node _ (by simp [install_dir]), if_pos ⟨_, List.mem_singleton_self _, List.prefix_refl _⟩]
      rw [path_of, install_dir, all]
      refine ⟨⟨sound.tidy.prune _, fun j => ?_⟩, ?_, missing, .inr ?_⟩
      · by_cases same : j = i
        · subst same
          exact .inl missing
        · have kept := elsewhere _ (s.version_of_ne same)
          rcases sound.stands j with none_there | installed
          · exact .inl ((t.node_of_view (kept _ (List.prefix_refl _))).trans none_there)
          · exact .inr (installed.same kept)
      · exact complete.same (elsewhere EXTRACT_TMP (s.staging_apart i).symm)
      · rwa [← aside.node i]
    · obtain rfl := whole standing gone stopped
      have kept : s.Aside t (t.prune []) := fun j loc _ => t.prune_view (by simp)
      rw [path_of, install_dir, cut]
      exact ⟨sound.aside (sound.tidy.prune []) kept, aside.trans kept⟩
  · rw [if_neg there]
    have missing : t.node (s.install_dir i) = none := by
      by_contra standing
      exact there ((sound.tidy.path_exists s.own_higher its).mpr standing)
    exact ⟨sound, complete, missing, .inl aside⟩

/-- The staging directory becomes the version directory. -/
theorem replacing_fine (m : Moment) (relative : Loc) (sound : s.Sound t) (reached : s.Reached i before t (.Replacing relative))
    (permitted : before.node (s.install_dir i) ≠ none → t.permits (s.install_dir i)) :
    s.Fine i before (s.next i m t (.Replacing relative)) := by
  obtain ⟨complete, missing, since⟩ := reached
  have unlinked := sound.tidy.unlinked_to s.own_higher (.inl (List.prefix_refl s.dest_root))
  have dir : t.node s.staging = some .dir := by
    obtain ⟨entries, start, staged, -, vacant, unpacks, -, seen⟩ := complete
    have top := seen []
    simp only [List.append_nil] at top
    rw [staged.node_of_view top]
    exact unpacks_dir vacant unpacks
  have there : t.node s.staging ≠ none := by simp [dir]
  have root : t.node s.dest_root = some .dir :=
    sound.tidy.grounded s.dest_root [EXTRACT_TMP] (.inl (List.prefix_refl _)) (by simp) there
  have grounded := sound.tidy.grounded_to s.own_higher (.inl (List.prefix_refl s.dest_root)) (by simp [root])
  rw [next]
  rcases @rename_cases t s.dest_root EXTRACT_TMP (s.spec i).version unlinked with ⟨error, same⟩ | done
  · rcases since with aside | replaced
    · rw [path_of, staging, path_of, install_dir, same]
      exact ⟨sound, aside⟩
    · have renamed := rename_done grounded root there missing (permitted replaced)
      cases same.symm.trans renamed
  · rw [path_of, staging, path_of, install_dir, done]
    have target (below : Loc) : (t.move s.staging (s.install_dir i)).view (s.install_dir i ++ below) =
        t.view (s.staging ++ below) := t.move_view_target (by simp [staging]) (by simp [install_dir]) below
    have installed : s.Complete i (s.install_dir i) (t.move s.staging (s.install_dir i)) := by
      obtain ⟨entries, start, staged, verified, vacant, unpacks, product, seen⟩ := complete
      exact ⟨entries, start, staged, verified, vacant, unpacks, product, fun below => (target below).trans (seen below)⟩
    have tidy : Tidy s.Own (t.move s.staging (s.install_dir i)) :=
      sound.tidy.move (s.own_child EXTRACT_TMP) (s.own_bare (s.tmp_apart i)) there
    refine ⟨⟨tidy, fun j => ?_⟩, installed, List.prefix_append _ relative⟩
    by_cases same : j = i
    · subst same
      exact .inr installed
    · have kept : SameBelow (s.install_dir j) t (t.move s.staging (s.install_dir i)) := by
        rintro loc ⟨below, rfl⟩
        exact t.move_view (beside_version (s.version_of_ne same) below) (apart_of_ne (s.staging_apart j).symm below)
      rcases sound.stands j with none_there | its
      · exact .inl ((t.node_of_view (kept _ (List.prefix_refl _))).trans none_there)
      · exact .inr (its.same kept)

theorem installed_fine (m : Moment) (product : Loc) (sound : s.Sound t)
    (reached : s.Reached i before t (.Installed product)) : s.Fine i before (s.next i m t (.Installed product)) := by
  obtain ⟨complete, below⟩ := reached
  obtain ⟨tidy, aside⟩ := s.remove_archive sound.tidy i
  exact ⟨sound.aside tidy aside, below, complete.same (aside i)⟩

theorem discarding_fine (m : Moment) (error : ToolchainDownloadError) (sound : s.Sound t)
    (reached : s.Reached i before t (.Discarding error)) : s.Fine i before (s.next i m t (.Discarding error)) := by
  obtain ⟨tidy, aside⟩ := s.remove_staging sound.tidy m.gone
  exact ⟨sound.aside tidy aside, Aside.trans reached aside⟩

theorem failed_fine (m : Moment) (error : ToolchainDownloadError) (sound : s.Sound t)
    (reached : s.Reached i before t (.Failed error)) : s.Fine i before (s.next i m t (.Failed error)) := by
  obtain ⟨tidy, aside⟩ := s.remove_archive sound.tidy i
  exact ⟨sound.aside tidy aside, Aside.trans reached aside⟩

end Fine
/-! ### Over a whole history -/

/-- What every step keeps that meets the condition. -/
structure Upheld (w : History ι) : Prop where
  sound : s.Sound w.tree
  reached : ∀ i point, w.running = some (i, point) → s.Reached i w.before w.tree point
  kept : ∀ call ∈ w.ended, s.Kept call

section Upheld
variable {s} {w : History ι}

theorem next_fine {i : ι} {point : Point} (m : Moment) (upheld : s.Upheld w) (running : w.running = some (i, point))
    (meets : s.Meets w (.go m)) : s.Fine i w.before (s.next i m (w.tree.allow m.permits) point) := by
  have reached := upheld.reached i point running
  have sound := upheld.sound.allow m.permits
  simp only [Meets, running] at meets
  cases point with
  | Begun => exact begun_fine m sound reached
  | Prepared => exact prepared_fine m sound reached meets
  | Downloaded => exact downloaded_fine m sound reached
  | Verified => exact verified_fine m sound reached
  | Cleared => exact cleared_fine m sound reached
  | Staged => exact staged_fine m sound reached
  | Extracting left =>
    cases left with
    | nil => exact extracted_fine m upheld.sound reached
    | cons entry left => exact extracting_fine m upheld.sound reached meets
  | Found relative => exact found_fine m relative sound reached meets
  | Replacing relative => exact replacing_fine m relative sound reached meets
  | Installed product => exact installed_fine m product sound reached
  | Discarding error => exact discarding_fine m error sound reached
  | Failed error => exact failed_fine m error sound reached

theorem Upheld.complete (upheld : s.Upheld w) {i : ι} {product : Loc}
    (found : s.product_locator (s.spec i).toolchain w.tree (s.install_dir i) = some product) :
    s.Complete i (s.install_dir i) w.tree := by
  have unlinked := upheld.sound.tidy.unlinked_to s.own_higher (s.own_child (s.spec i).version)
  have dir := (product_located found).2 unlinked
  rcases upheld.sound.stands i with missing | complete
  · cases missing.symm.trans dir
  · exact complete

theorem step_upheld (a : Act ι) (upheld : s.Upheld w) (meets : s.Meets w a) : s.Upheld (s.step w a) := by
  cases a with
  | die => exact ⟨upheld.sound, by simp [step], upheld.kept⟩
  | call i =>
    rw [step]
    cases running : w.running with
    | some busy => exact upheld
    | none =>
      simp only
      cases found : s.product_locator (s.spec i).toolchain w.tree (s.install_dir i) with
      | none =>
        refine ⟨upheld.sound, fun j point same => ?_, upheld.kept⟩
        cases same
        exact Aside.refl w.tree
      | some existing =>
        refine ⟨upheld.sound, by simp, fun call member => ?_⟩
        rcases List.mem_cons.mp member with rfl | earlier
        · exact ⟨(product_located found).1, upheld.complete found⟩
        · exact upheld.kept call earlier
  | go m =>
    rw [step]
    cases running : w.running with
    | none => exact upheld
    | some busy =>
      obtain ⟨i, point⟩ := busy
      have fine := next_fine m upheld running meets
      simp only
      rcases came : s.next i m (w.tree.allow m.permits) point with ⟨further | result, t⟩
      · rw [came] at fine
        refine ⟨fine.1, fun j other same => ?_, upheld.kept⟩
        cases same
        exact fine.2
      · rw [came] at fine
        refine ⟨fine.1, by simp, fun call member => ?_⟩
        rcases List.mem_cons.mp member with rfl | earlier
        · exact fine.2
        · exact upheld.kept call earlier

theorem Upheld.trusted (upheld : s.Upheld w) : s.Trusted w := ⟨fun _ _ found => upheld.complete found, upheld.kept⟩

theorem fresh_upheld {t : Tree} (new : s.NewRoot t) : s.Upheld (fresh t : History ι) := by
  refine ⟨⟨new.1, fun i => .inl (new.2 _ (by simp))⟩, by simp [fresh], by simp [fresh]⟩

end Upheld

/-- In every history from a new root whose steps meet the condition, a version directory with a product was extracted
    completely from verified bytes, a product that is returned lies in such a directory, and a call that fails leaves
    every version directory as it was. -/
theorem history_trusted (t : Tree) (acts : List (Act ι)) (new : s.NewRoot t)
    (allowed : Allowed s.step s.Meets (fresh t) acts) : s.Trusted (run s.step (fresh t) acts) := by
  have keeps : ∀ (w : History ι) (a : Act ι), s.Upheld w → s.Meets w a → s.Upheld (s.step w a) :=
    fun _ a upheld meets => step_upheld a upheld meets
  exact (run_keeps keeps (fresh_upheld new) allowed).trusted

end Installer

/-! ### Two archives for one version -/

/-- A compiler, as `tar -c zig | xz`. -/
def compiler_archive : List UInt8 :=
  [253, 55, 122, 88, 90, 0, 0, 1, 105, 34, 222, 54, 2, 0, 33, 1, 22, 0, 0, 0, 116, 47, 229, 163, 224, 7, 255, 0, 59,
   93, 0, 61, 26, 73, 18, 114, 250, 26, 219, 194, 74, 61, 75, 145, 42, 122, 31, 80, 58, 169, 46, 237, 205, 253, 17,
   116, 154, 46, 243, 247, 177, 89, 212, 113, 234, 136, 138, 219, 13, 246, 64, 14, 151, 226, 139, 180, 116, 209, 243,
   198, 207, 153, 227, 243, 205, 243, 245, 127, 1, 0, 0, 0, 181, 238, 116, 48, 0, 1, 83, 128, 16, 0, 0, 0, 137, 73,
   176, 168, 62, 48, 13, 139, 2, 0, 0, 0, 0, 1, 89, 90]

/-- A link to the destination root, and a file of the other version below the link. -/
def leading_archive : List UInt8 :=
  [253, 55, 122, 88, 90, 0, 0, 1, 105, 34, 222, 54, 2, 0, 33, 1, 22, 0, 0, 0, 116, 47, 229, 163, 224, 9, 255, 0, 107,
   93, 0, 50, 0, 51, 80, 24, 104, 137, 131, 1, 220, 226, 110, 52, 10, 227, 210, 180, 229, 122, 132, 81, 206, 83, 102,
   15, 61, 164, 140, 194, 89, 136, 242, 230, 160, 102, 12, 157, 87, 84, 160, 79, 44, 122, 165, 80, 87, 60, 250, 113,
   223, 81, 10, 184, 4, 246, 76, 89, 23, 132, 139, 37, 113, 175, 95, 114, 67, 55, 123, 243, 30, 124, 213, 90, 146,
   160, 170, 71, 175, 126, 3, 199, 150, 132, 52, 33, 156, 225, 87, 153, 208, 59, 29, 233, 171, 227, 147, 151, 54,
   243, 140, 189, 137, 193, 236, 245, 231, 0, 0, 0, 114, 12, 26, 156, 0, 1, 131, 1, 128, 20, 0, 0, 140, 38, 103, 144,
   62, 48, 13, 139, 2, 0, 0, 0, 0, 1, 89, 90]

def compiler_entries : List (Except String TarEntry) := [.ok ⟨.ok "zig", .file [1] none⟩]
def leading_entries : List (Except String TarEntry) :=
  [.ok ⟨.ok "d", .symlink "/opt"⟩, .ok ⟨.ok "d/15.2.0-1/riscv-none-elf-gcc", .file [1] none⟩]

def compiler_sum : String := "e83ec259d2c1abc5c06b56f04d373e67f410b0e812af2988a4ff3d8ff464af31"
def leading_sum : String := "e3819200ec8706b1b4a7da13c99bbfa68751310c348b78f429d8e491537cbbf6"

def offered (sum : String) : Toolchain → DownloadSpec
  | .C => ⟨"15.2.0-1", "https://host/gcc.tar.gz", sum, .TarGz, .C, by decide, by decide, by decide⟩
  | .Zig => ⟨"0.16.0", "https://host/zig.tar.xz", sum, .TarXz, .Zig, by decide, by decide, by decide⟩
  | .Rust => ⟨"1.98.1", "https://host/rust-std.tar.xz", sum, .TarXz, .Rust, by decide, by decide, by decide⟩

/-- A host with the destination root `/opt` that is offered a version with the given checksum. -/
def host (sum : String) : Installer Toolchain where
  dest_root := ["opt"]
  cwd := ["home"]
  describe _ := "denied"
  sha256 bytes := if bytes.length = compiler_archive.length then compiler_sum else leading_sum
  decode _ bytes := .ok (if bytes.length = compiler_archive.length then compiler_entries else leading_entries)
  listing t loc := ["d", "zig"].filter fun name => t.node (loc ++ [name]) ≠ none
  spec := offered sum
  one_each := by
    intro i j same
    cases i <;> cases j <;> simp_all [offered]

/-- The destination root, and nothing else. -/
def empty_root : Tree where
  names loc := if loc = ["opt"] then some .dir else none
  files _ := ⟨[], 0⟩
  next := 0
  permits _ := true
  unused loc inode named := by split at named <;> cases named

/-- A step where nothing fails, and the network sends the bytes. -/
def calm (bytes : List UInt8) : Moment := ⟨fun _ => true, false, none, .ok bytes, none, none⟩

theorem empty_root_new (sum : String) : (host sum).NewRoot empty_root := by
  have only {loc : Loc} (there : empty_root.node loc ≠ none) : loc = [] ∨ loc = ["opt"] := by
    rw [FileTree.Tree.node] at there
    by_cases top : loc = []
    · exact .inl top
    · by_cases same : loc = ["opt"]
      · exact .inr same
      · simp [top, empty_root, same] at there
  refine ⟨⟨fun loc _ target made linked => ?_, fun loc rest _ below there => ?_⟩, fun below some_name => ?_⟩
  · have there : empty_root.node loc ≠ none := by simp [linked]
    rcases only there with rfl | rfl <;> cases linked
  · rcases only there with none_left | one
    · exact absurd (List.append_eq_nil_iff.mp none_left).2 below
    · rcases List.append_eq_singleton_iff.mp one with ⟨rfl, -⟩ | ⟨-, rfl⟩
      · rfl
      · exact absurd rfl below
  · by_contra there
    rcases only there with none_left | one
    · cases none_left
    · exact some_name (List.append_right_eq_self.mp one)

section Meets
variable {s : Installer Toolchain} {w : Installer.History Toolchain} {i : Toolchain} {m : Moment}

/-- Points that ask for nothing. -/
def unconditional : Option (Toolchain × Point) → Bool
  | some (_, .Prepared) | some (_, .Extracting (_ :: _)) | some (_, .Found _) | some (_, .Replacing _) => false
  | _ => true

theorem meets_unconditional (plain : unconditional w.running = true) (a : Installer.Act Toolchain) : s.Meets w a := by
  cases a with
  | go m =>
    rw [Installer.Meets]
    split <;> simp_all [unconditional]
  | _ => trivial

theorem meets_prepared (running : w.running = some (i, .Prepared)) (free : w.tree.node (s.archive i) = none) :
    s.Meets w (.go m) := by
  simp [Installer.Meets, running, free]

theorem meets_found {relative : Loc} (running : w.running = some (i, .Found relative))
    (free : w.tree.node (s.install_dir i) = none) : s.Meets w (.go m) := by
  simp [Installer.Meets, running, free]

theorem meets_replacing {relative : Loc} (running : w.running = some (i, .Replacing relative))
    (free : w.before.node (s.install_dir i) = none) : s.Meets w (.go m) := by
  simp [Installer.Meets, running, free]

/-- A file is made right where its name is, in a directory that is there. -/
theorem meets_new_file {entry : Except String TarEntry} {left : List (Except String TarEntry)} {out here : Loc}
    {content : List UInt8} {broken : Option String} (running : w.running = some (i, .Extracting (entry :: left)))
    (passes : s.setting.checked ⟨m.cancelled, m.reads entry⟩ = .ok (out, .file content broken))
    (landed : (w.tree.allow m.permits).landing out.dropLast.reverse = .ok (here, []))
    (placed : (w.tree.allow m.permits).place (path_of out) = .ok out)
    (free : w.tree.node out = none) (inside : s.staging <+: out) : s.Meets w (.go m) := by
  simp only [Installer.Meets, running]
  intro other kind its
  cases passes.symm.trans its
  refine ⟨fun place name rest found => ?_, fun u parents => ?_⟩
  · cases landed.symm.trans found
  · rw [create_dir_all, landed] at parents
    cases parents
    intro loc found _
    have same : loc = out := by
      cases found.symm.trans placed
      rfl
    subst same
    exact ⟨fun _ => inside, fun inode standing => by cases free.symm.trans standing⟩

end Meets

set_option maxRecDepth 4000 in
/-- The compiler is installed, and found where it is said to be. -/
theorem compiler_installed : ∃ call ∈ (run (host compiler_sum).step (Installer.fresh empty_root)
      (.call .Zig :: .replicate 12 (.go (calm compiler_archive)))).ended,
    call.result = .ok ["opt", "0.16.0", "zig"] ∧ (host compiler_sum).Complete .Zig ["opt", "0.16.0"] call.after := by
  have allowed : Allowed (host compiler_sum).step (host compiler_sum).Meets (Installer.fresh empty_root)
      (.call .Zig :: .replicate 12 (.go (calm compiler_archive))) := by
    refine ⟨meets_unconditional (by decide +kernel) _, meets_unconditional (by decide +kernel) _, ?prepared,
      meets_unconditional (by decide +kernel) _, meets_unconditional (by decide +kernel) _,
      meets_unconditional (by decide +kernel) _, meets_unconditional (by decide +kernel) _, ?extracting,
      meets_unconditional (by decide +kernel) _, ?found, ?replacing,
      meets_unconditional (by decide +kernel) _, meets_unconditional (by decide +kernel) _, trivial⟩
    case prepared => exact @meets_prepared _ _ .Zig _ (by decide +kernel) (by decide +kernel)
    case extracting =>
      exact @meets_new_file _ _ .Zig _ (.ok ⟨.ok "zig", .file [1] none⟩) [] ["opt", ".extract-tmp", "zig"]
        ["opt", ".extract-tmp"] [1] none (by decide +kernel) (by decide +kernel) (by decide +kernel) (by decide +kernel)
        (by decide +kernel) (by decide +kernel)
    case found => exact @meets_found _ _ .Zig _ ["zig"] (by decide +kernel) (by decide +kernel)
    case replacing => exact @meets_replacing _ _ .Zig _ ["zig"] (by decide +kernel) (by decide +kernel)
  have trusted := (host compiler_sum).history_trusted empty_root _ (empty_root_new compiler_sum) allowed
  have found : (run (host compiler_sum).step (Installer.fresh empty_root)
      (.call .Zig :: .replicate 12 (.go (calm compiler_archive)))).ended.map (fun call => (call.spec, call.result)) =
        [(.Zig, .ok ["opt", "0.16.0", "zig"])] := by
    decide +kernel
  obtain ⟨call, ended, same⟩ := List.map_eq_singleton_iff.mp found
  simp only [Prod.mk.injEq] at same
  obtain ⟨its, product⟩ := same
  have member : call ∈ (run (host compiler_sum).step (Installer.fresh empty_root)
      (.call .Zig :: .replicate 12 (.go (calm compiler_archive)))).ended := by
    rw [ended]
    exact List.mem_singleton_self call
  have promise := trusted.2 call member
  rw [Installer.Kept, product, its] at promise
  exact ⟨call, member, product, promise.2⟩

/-- The file of the other version is made where nothing was, by a call that fails. -/
theorem failed_call_leads_out :
    ¬ ∀ (s : Installer Toolchain) (t : Tree) (acts : List (Installer.Act Toolchain)), s.NewRoot t →
      s.Trusted (run s.step (Installer.fresh t) acts) := by
  intro trusted
  have kept := (trusted (host leading_sum) empty_root (.call .Zig :: .replicate 11 (.go (calm leading_archive)))
    (empty_root_new leading_sum)).2
  have found : (run (host leading_sum).step (Installer.fresh empty_root)
      (.call .Zig :: .replicate 11 (.go (calm leading_archive)))).ended.map
      (fun call => (call.result.isOk, call.before.node ["opt", "15.2.0-1", "riscv-none-elf-gcc"],
        call.after.node ["opt", "15.2.0-1", "riscv-none-elf-gcc"])) = [(false, none, some (.file 1))] := by
    decide +kernel
  obtain ⟨call, ended, same⟩ := List.map_eq_singleton_iff.mp found
  simp only [Prod.mk.injEq] at same
  obtain ⟨failed, before, after⟩ := same
  have promise := kept call (by rw [ended]; exact List.mem_singleton_self call)
  rw [Installer.Kept] at promise
  cases result : call.result with
  | ok product => simp [result, Except.isOk, Except.toBool] at failed
  | error error =>
    rw [result] at promise
    have seen := call.before.node_of_view (promise .C ["opt", "15.2.0-1", "riscv-none-elf-gcc"] (by decide))
    rw [before, after] at seen
    cases seen

end Riscdom.ToolchainDownload
