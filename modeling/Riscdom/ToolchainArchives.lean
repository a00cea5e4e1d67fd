import Riscdom.FileTree

/-!
The extraction of a toolchain's archive into its staging directory. The guard
looks at an entry's own name. What the name leads to is settled by the links
that entries before it left, and so is whether anything outside is touched.
Paths are POSIX ones.
-/
namespace Riscdom.ToolchainDownload
open Riscdom.Agent (Component components)
open Riscdom.FileTree Fallible.Act

inductive ToolchainDownloadError
  | Http (message : String)
  | Io (error : IoError)
  | ChecksumMismatch (expected actual : String)
  | Cancelled
  | UnsafeEntry (raw : String)
  | Archive (message : String)
  | NoCompilerInArchive
deriving DecidableEq

/-- What an entry of a tar unpacks to. The bytes of a file may break off within the archive. -/
inductive Kind
  | file (content : List UInt8) (broken : Option String)
  | directory
  | symlink (target : String)
  | hard_link (target : String)
deriving DecidableEq

/-- An entry, its path as far as it can be read. -/
structure TarEntry where
  path : Except String String
  kind : Kind
deriving DecidableEq

/-- A round of the loop: whether the download was cancelled by then, and the entry that is read. -/
structure Round where
  cancelled : Bool
  entry : Except String TarEntry

/-- The rounds of an archive, if it can be opened. -/
abbrev TarArchive : Type := Except ToolchainDownloadError (List Round)

/-- The destination, the directory a relative name of a hard link is looked up in, and the texts of the file system's errors. -/
structure Setting where
  dest : Loc
  cwd : Loc
  describe : IoError → String

abbrev Extraction (α : Type) : Type := Fallible.Act Tree ToolchainDownloadError α

/-- Reject any entry whose relative path could escape the destination. -/
def safe_relative (raw : String) (dest : Loc) : Except ToolchainDownloadError Loc :=
  if (components raw).any fun c => c == .ParentDir || c == .RootDir then .error (.UnsafeEntry raw)
  else .ok (dest ++ (components raw).filterMap fun
    | .Normal name => some name
    | _ => none)

/-- A call of the file system, its error told as one of the extraction. -/
def io {α : Type} (told : IoError → ToolchainDownloadError) (call : Call α) : Extraction α := fun t =>
  ((call t).1.mapError told, (call t).2)

def path_of (loc : Loc) : List Component := loc.map .Normal

/-- The entry written at the path, a link made as the entry says. The source of a hard link is named as the archive names it. -/
def unpack (cwd out : Loc) : Kind → Call Unit
  | .file content broken => write_file content broken (path_of out)
  | .directory => create_dir (path_of out)
  | .symlink target => symlink target (path_of out)
  | .hard_link target => FileTree.hard_link (path_of cwd ++ components target) (path_of out)

namespace Setting
variable (s : Setting)

/-- The part of a round that touches no file: where the entry goes, and what it is. -/
def checked (round : Round) : Except ToolchainDownloadError (Loc × Kind) := do
  if round.cancelled then throw .Cancelled
  let entry ← round.entry.mapError .Archive
  let name ← entry.path.mapError .Archive
  let out ← safe_relative name s.dest
  return (out, entry.kind)

def extract_entry (round : Round) : Extraction Unit := do
  let admitted ← ofExcept (s.checked round)
  io .Io (create_dir_all admitted.1.dropLast)
  io (fun error => .Archive (s.describe error)) (unpack s.cwd admitted.1 admitted.2)

def extract_entries : List Round → Extraction Unit
  | [] => return ()
  | round :: rest => do
    s.extract_entry round
    extract_entries rest

def extract_tar_gz (archive : TarArchive) : Extraction Unit := do s.extract_entries (← ofExcept archive)
/-- The mirror of `extract_tar_gz` with another decoder. -/
def extract_tar_xz (archive : TarArchive) : Extraction Unit := do s.extract_entries (← ofExcept archive)

/-! ### Where the entries lead -/

/-- What an entry makes or writes lies inside the destination, as the tree is when its parent directories are there. -/
def Leads (t : Tree) (out : Loc) : Kind → Prop
  | .file _ _ => WritesInside s.dest t (path_of out)
  | .directory => NamesInside s.dest t (path_of out)
  | .symlink _ => LinksInside s.dest t (path_of out)
  | .hard_link target =>
    ∀ node, t.shared (path_of s.cwd ++ components target) = .ok node → NamesInside s.dest t (path_of out)

/-- The directories made for an entry that is admitted lie inside, and so does what it makes or writes then. -/
def StaysInside (t : Tree) (round : Round) : Prop :=
  ∀ out kind, s.checked round = .ok (out, kind) → MakesInside s.dest t out.dropLast ∧
    ∀ u, create_dir_all out.dropLast t = (.ok (), u) → s.Leads u out kind

/-- Every entry that the extraction comes to stays inside, in the tree the entries before it left. -/
def AllStayInside (t : Tree) : List Round → Prop
  | [] => True
  | round :: rest => s.StaysInside t round ∧ ∀ u, s.extract_entry round t = (.ok (), u) → AllStayInside u rest

/-- However far the extraction gets, and however it ends, everything outside the destination is as it was. -/
def Contained (extract : TarArchive → Extraction Unit) (t : Tree) (archive : TarArchive) : Prop :=
  ∀ n, SameOutside s.dest t (extract (archive.map (List.take n)) t).2

theorem unpack_same_iff (t : Tree) (out : Loc) (kind : Kind) :
    SameOutside s.dest t (unpack s.cwd out kind t).2 ↔ s.Leads t out kind := by
  cases kind with
  | file content broken => exact write_file_same_iff content broken _
  | directory => exact create_dir_same_iff _
  | symlink target => exact symlink_same_iff target _
  | hard_link target => exact hard_link_same_iff _ _

theorem unpack_keeps (cwd out : Loc) (kind : Kind) (t : Tree) : KeepsDirs t (unpack cwd out kind t).2 := by
  cases kind with
  | file content broken => exact write_file_keeps content broken _ t
  | directory => exact create_dir_keeps _ t
  | symlink target => exact symlink_keeps target _ t
  | hard_link target => exact hard_link_keeps _ _ t

/-- Directories that were made outside are still to be seen when the entry is unpacked. -/
theorem same_before {root : Loc} {t u v : Tree} (made : Extends t u) (keeps : KeepsDirs u v) (same : SameOutside root t v) :
    SameOutside root t u := by
  intro loc outside
  rcases made.2 loc with kept | ⟨missing, dir⟩
  · exact made.view kept
  · have seen := t.node_of_view (same loc outside)
    rw [keeps loc dir, missing] at seen
    cases seen

theorem extract_entry_same_iff (t : Tree) (round : Round) :
    SameOutside s.dest t (s.extract_entry round t).2 ↔ s.StaysInside t round := by
  rw [extract_entry, StaysInside]
  cases admitted : s.checked round with
  | error error =>
    rw [bind_of_error (ofExcept_run _ t)]
    simp [SameOutside.refl]
  | ok entry =>
    obtain ⟨out, kind⟩ := entry
    rw [bind_of_ok (ofExcept_run _ t), bind_run, io]
    simp only [Except.ok.injEq, Prod.mk.injEq]
    have makes := @create_dir_all_same_iff s.dest t out.dropLast
    have made := create_dir_all_extends out.dropLast t
    cases parents : create_dir_all out.dropLast t with
    | mk result u =>
      rw [parents] at makes made
      cases result with
      | error error =>
        simp only [Except.mapError]
        constructor
        · rintro same _ _ ⟨rfl, rfl⟩
          refine ⟨makes.mp same, fun _ ended => ?_⟩
          cases parents.symm.trans ended
        · intro inside
          exact makes.mpr (inside out kind ⟨rfl, rfl⟩).1
      | ok _ =>
        simp only [Except.mapError, io]
        have put := s.unpack_same_iff u out kind
        constructor
        · rintro same _ _ ⟨rfl, rfl⟩
          have before := same_before made (unpack_keeps s.cwd out kind u) same
          refine ⟨makes.mp before, fun _ ended => ?_⟩
          cases parents.symm.trans ended
          exact put.mp (before.symm.trans same)
        · intro inside
          obtain ⟨directories, entry⟩ := inside out kind ⟨rfl, rfl⟩
          exact (makes.mpr directories).trans (put.mpr (entry u parents))

/-- Directories stay, whatever becomes of the entry. -/
theorem extract_entry_keeps (round : Round) (t : Tree) : KeepsDirs t (s.extract_entry round t).2 := by
  intro loc dir
  rw [extract_entry]
  cases admitted : s.checked round with
  | error error =>
    rw [bind_of_error (ofExcept_run _ t)]
    exact dir
  | ok entry =>
    rw [bind_of_ok (ofExcept_run _ t), bind_run, io]
    have made := create_dir_all_extends entry.1.dropLast t
    cases parents : create_dir_all entry.1.dropLast t with
    | mk result u =>
      rw [parents] at made
      have kept : u.node loc = some .dir := by
        rcases made.2 loc with same | ⟨missing, -⟩
        · rw [same]
          exact dir
        · rw [dir] at missing
          cases missing
      cases result with
      | error error => exact kept
      | ok _ => exact unpack_keeps s.cwd entry.1 entry.2 u loc kept

theorem checked_of_ok {round : Round} {out : Loc} {kind : Kind} (passes : s.checked round = .ok (out, kind)) :
    round.cancelled = false ∧ ∃ entry, round.entry = .ok entry ∧ entry.kind = kind := by
  obtain ⟨cancelled, read⟩ := round
  cases cancelled with
  | true => cases passes
  | false =>
    refine ⟨rfl, ?_⟩
    cases read with
    | error message => cases passes
    | ok entry =>
      obtain ⟨path, its⟩ := entry
      cases path with
      | error message => cases passes
      | ok name =>
        simp only [checked] at passes
        cases safe : safe_relative name s.dest with
        | error error => simp [safe, Except.mapError, bind, Except.bind] at passes
        | ok place =>
          simp only [safe, Except.mapError, bind, Except.bind, pure, Except.pure, Bool.false_eq_true, if_false,
            Except.ok.injEq, Prod.mk.injEq] at passes
          exact ⟨⟨.ok name, its⟩, rfl, passes.2⟩

/-- An entry that was extracted was read to its end. -/
theorem extract_entry_of_ok {round : Round} {t u : Tree} (done : s.extract_entry round t = (.ok (), u)) :
    round.cancelled = false ∧ ∀ path content message, round.entry ≠ .ok ⟨path, .file content (some message)⟩ := by
  rw [extract_entry, bind_eq_ok] at done
  obtain ⟨⟨out, kind⟩, v, passes, parents⟩ := done
  rw [ofExcept_run] at passes
  obtain ⟨clear, entry, read, rfl⟩ := s.checked_of_ok (congrArg Prod.fst passes)
  refine ⟨clear, fun path content message spoiled => ?_⟩
  cases read.symm.trans spoiled
  rw [bind_eq_ok] at parents
  obtain ⟨_, w, -, unpacked⟩ := parents
  have ended := congrArg Prod.fst unpacked
  simp only [io, unpack] at ended
  cases wrote : (write_file content (some message) (path_of out) w).1 with
  | error error => simp [wrote, Except.mapError] at ended
  | ok _ => exact write_file_broken content message _ w wrote

theorem extract_entries_same_iff (t : Tree) (rounds : List Round) :
    (∀ n, SameOutside s.dest t (s.extract_entries (rounds.take n) t).2) ↔ s.AllStayInside t rounds := by
  induction rounds generalizing t with
  | nil => simp [extract_entries, AllStayInside, SameOutside.refl]
  | cons round rest ih =>
    have entry := s.extract_entry_same_iff t round
    rw [AllStayInside]
    cases extracted : s.extract_entry round t with
    | mk result u =>
      rw [extracted] at entry
      cases result with
      | error error =>
        have stops (n : Nat) : (s.extract_entries ((round :: rest).take (n + 1)) t).2 = u := by
          rw [List.take_succ_cons, extract_entries, bind_of_error extracted]
        constructor
        · intro same
          refine ⟨entry.mp (stops 0 ▸ same 1), ?_⟩
          rintro v ⟨⟩
        · rintro ⟨inside, -⟩ n
          cases n with
          | zero => exact .refl t
          | succ n =>
            rw [stops]
            exact entry.mpr inside
      | ok _ =>
        have goes (n : Nat) : (s.extract_entries ((round :: rest).take (n + 1)) t).2 = (s.extract_entries (rest.take n) u).2 := by
          rw [List.take_succ_cons, extract_entries, bind_of_ok extracted]
        constructor
        · intro same
          have first : SameOutside s.dest t u := by
            have one := same 1
            rw [goes] at one
            exact one
          refine ⟨entry.mp first, ?_⟩
          rintro v ⟨⟩
          exact (ih u).mp fun n => first.symm.trans (goes n ▸ same (n + 1))
        · rintro ⟨inside, later⟩ n
          cases n with
          | zero => exact .refl t
          | succ n =>
            rw [goes]
            exact (entry.mpr inside).trans ((ih u).mpr (later u rfl) n)

/-- Nothing outside the staging directory is made or changed exactly where every entry that is come to leads to a place inside,
    through the links that the entries before it left. -/
theorem extraction_contained_iff (t : Tree) (rounds : List Round) :
    (s.Contained s.extract_tar_gz t (.ok rounds) ↔ s.AllStayInside t rounds) ∧
      (s.Contained s.extract_tar_xz t (.ok rounds) ↔ s.AllStayInside t rounds) :=
  ⟨s.extract_entries_same_iff t rounds, s.extract_entries_same_iff t rounds⟩

end Setting

/-! ### A link out of the staging directory -/

def staging : Setting := ⟨["opt", "staging"], ["home"], fun _ => "denied"⟩

/-- The staging directory beside another, both empty. -/
def bench : Tree where
  names loc := if loc ∈ [["opt"], ["opt", "staging"], ["etc"]] then some .dir else none
  files _ := ⟨[], 0⟩
  next := 0
  permits _ := true
  unused loc inode named := by split at named <;> cases named

/-- A link to the other directory, and a file named below the link. -/
def led_out : List Round :=
  [⟨false, .ok ⟨.ok "d", .symlink "/etc"⟩⟩, ⟨false, .ok ⟨.ok "d/x", .file [1] none⟩⟩]

/-- The file is made outside. -/
theorem link_leads_out :
    ¬ ∀ (s : Setting) (t : Tree) (rounds : List Round), s.Contained s.extract_tar_gz t (.ok rounds) := by
  intro contained
  have same := contained staging bench led_out 2 ["etc", "x"] (by decide)
  exact absurd (bench.node_of_view same) (by decide)

end Riscdom.ToolchainDownload
