import Riscdom.FileMoves
import Riscdom.WorkspaceFiles

/-!
An import on the files themselves: every entry of an archive is written through a
name beside its own and then renamed. The name is made from the entry's name alone,
so what stands there already is written over.
-/
namespace Riscdom.WorkspaceIo
open Riscdom.Agent (Component)
open Riscdom.FileTree Riscdom.Fallible Fallible.Act
open Riscdom.Workspace (HostError ZipEntry TarEntry Admitted UnpackReport MAX_ARCHIVE_ENTRIES MAX_UNPACKED_BYTES
  admit_zip admit_tar check_unpacked normalised part_file file_name dotted)

/-! ### What an archive holds -/

/-- An entry, with the bytes that can be read for it, and why they break off if they do. -/
structure Held (Entry : Type) where
  entry : Entry
  content : List UInt8
  broken : Option String

/-- An archive in its format: what its reader fails with, or its entries in their order, each with what reading it fails with. -/
inductive Archive
  | Zip (entries : Except String (List (Except String (Held ZipEntry))))
  | Tar (entries : Except String (List (Except String (Held TarEntry))))
  | TarGz (entries : Except String (List (Except String (Held TarEntry))))

/-- What stands behind the last name of a path: nothing, separators, or the current directory. -/
inductive Ending
  | Name
  | Separator
  | CurDir
deriving DecidableEq

/-- How the path of an entry ends. -/
def ending (raw : String) : Ending :=
  let behind := ((normalised raw).toList.splitOn '/').reverse.takeWhile fun part => decide (part = [] ∨ part = ['.'])
  if ['.'] ∈ behind then .CurDir else if behind = [] then .Name else .Separator

/-- What is to be done for an entry. -/
inductive Job
  | Directory (out : Loc) (ending : Ending)
  | File (out : Loc) (ending : Ending) (size : UInt64) (content : List UInt8) (broken : Option String)
deriving DecidableEq

def names_of (path : List Component) : Loc := path.filterMap fun
  | .Normal name => some name
  | _ => none

/-- An entry that passes its checks, with what it holds. -/
def job {Entry : Type} (admission : Entry → Except HostError Admitted) (held : Held Entry) : Except HostError Job :=
  (admission held.entry).map fun
    | .Directory name out => .Directory (names_of out) (ending name)
    | .File name out size => .File (names_of out) (ending name) size held.content held.broken

def zip_jobs (dest : Loc) (entries : Except String (List (Except String (Held ZipEntry)))) :
    Except HostError (List (Except HostError Job)) :=
  match entries with
  | .error e => .error (.Archive ("not a readable zip: " ++ e))
  | .ok entries =>
    if MAX_ARCHIVE_ENTRIES < entries.length then
      .error (.Archive ("the archive has " ++ toString entries.length ++ " entries, more than the " ++
        toString MAX_ARCHIVE_ENTRIES ++ " this host accepts"))
    else .ok (entries.mapIdx fun index read =>
      match read with
      | .error e => .error (.Archive ("cannot read entry " ++ toString index ++ ": " ++ e))
      | .ok held => job (admit_zip (path_to dest)) held)

def tar_jobs (dest : Loc) (entries : Except String (List (Except String (Held TarEntry)))) :
    Except HostError (List (Except HostError Job)) :=
  match entries with
  | .error e => .error (.Archive ("not a readable tar.gz: " ++ e))
  | .ok entries => .ok (entries.map fun
      | .error e => .error (.Archive ("cannot read tar entry: " ++ e))
      | .ok held => job (admit_tar (path_to dest)) held)

def Archive.jobs (dest : Loc) : Archive → Except HostError (List (Except HostError Job))
  | .Zip entries => zip_jobs dest entries
  | .Tar entries => tar_jobs dest entries
  | .TarGz entries => tar_jobs dest entries

/-! ### Paths that go on behind their last name -/

/-- Is there something at a path? Behind its last name only a directory is. -/
def stands (t : Tree) (out : Loc) : Ending → Bool
  | .Name => t.path_exists (path_to out)
  | _ => t.is_dir (path_to out)

/-- A directory with those above it that are missing. The current directory of one that is missing is not made, but those
    above it are. -/
def make_dir (out : Loc) : Ending → Call Unit
  | .CurDir => fun t =>
    match t.enter (path_to out) with
    | .ok _ => (.ok (), t)
    | .error .NotFound => (do
        create_dir_all out.dropLast
        fail .NotFound : Call Unit) t
    | .error error => (.error error, t)
  | _ => create_dir_all out

/-- A file's name changed to a path, at which behind its last name no file can be. -/
def rename_to (source : List Component) (out : Loc) : Ending → Call Unit
  | .Name => rename source (path_to out)
  | .Separator => fail .NotADirectory
  | .CurDir => fun t =>
    match t.enter (path_to out) with
    | .ok _ => (.error .IsADirectory, t)
    | .error error => (.error error, t)

/-! ### Unpacking -/

abbrev Import (α : Type) : Type := Fallible.Act Tree HostError α

/-- Where an archive goes, the texts of the file system's errors, and for which entries a removal goes through. -/
structure Setting where
  dest : Loc
  describe : IoError → String
  removes : Loc → Bool

namespace Setting
variable (s : Setting)

def io {α : Type} (call : Call α) : Import α := fun t =>
  ((call t).1.mapError fun error => .Io (s.describe error), (call t).2)

/-- The name next to an entry's own. -/
def tmp (out : Loc) : List Component := part_file (path_to out)

/-- The name next to an entry's own taken away, if that goes through. -/
def discard (out : Loc) : Call Unit := fun t =>
  if s.removes out then remove_file (tmp out) t else (.error .PermissionDenied, t)

/-- Write one entry, honouring `force`. -/
def write_entry (force : Bool) (out : Loc) (ending : Ending) (content : List UInt8) (broken : Option String) : Import Unit := do
  s.io (create_dir_all out.dropLast)
  let there ← get fun t => stands t out ending
  if there && !force then fail (.WorkspaceEntryExists (file_name (path_to out)))
  else
    let file ← s.io (create_file (tmp out))
    match ← attempt (s.io (copy_to file content broken)) with
    | .error e =>
      let _ ← attempt (s.io (s.discard out))
      fail e
    | .ok _ =>
      match ← attempt (s.io (rename_to (tmp out) out ending)) with
      | .error e =>
        let _ ← attempt (s.io (s.discard out))
        fail e
      | .ok _ => return ()

def unpack_job (force : Bool) (report : UnpackReport) : Job → Import UnpackReport
  | .Directory out ending => do
    s.io (make_dir out ending)
    return report
  | .File out ending size content broken => do
    s.write_entry force out ending content broken
    ofExcept (check_unpacked ⟨report.files + 1, report.bytes + size⟩)
    return ⟨report.files + 1, report.bytes + size⟩

/-- The entries in their order, up to the first that fails. -/
def unpack_jobs (force : Bool) (report : UnpackReport) : List (Except HostError Job) → Import UnpackReport
  | [] => return report
  | read :: rest => do
    let job ← ofExcept read
    let report ← s.unpack_job force report job
    unpack_jobs force report rest

/-- The import up to so many entries. -/
def unpack_first (count : Nat) (archive : Archive) (force : Bool) : Import UnpackReport := do
  s.io (create_dir_all s.dest)
  let jobs ← ofExcept (archive.jobs s.dest)
  s.unpack_jobs force ⟨0, 0⟩ (jobs.take count)

def unpack_archive (archive : Archive) (force : Bool) : Import UnpackReport := do
  s.io (create_dir_all s.dest)
  let jobs ← ofExcept (archive.jobs s.dest)
  s.unpack_jobs force ⟨0, 0⟩ jobs

end Setting

/-! ### The name beside an entry's own -/

theorem split_once_text {c : Char} {text before after : List Char} (split : Text.split_once [c] text = some (before, after)) :
    text = before ++ c :: after := by
  induction text generalizing before with
  | nil => simp [Text.split_once] at split
  | cons first rest ih =>
    rw [Text.split_once] at split
    by_cases here : [c].isPrefixOf (first :: rest) = true
    · rw [if_pos here] at split
      cases split
      have same : c = first := by simpa using here
      simp [same]
    · rw [if_neg here] at split
      cases later : Text.split_once [c] rest with
      | none => simp [later] at split
      | some pair =>
        obtain ⟨start, tail⟩ := pair
        rw [later] at split
        change some (first :: start, tail) = some (before, after) at split
        cases split
        rw [List.cons_append, ← ih later]

/-- A name and its extension make up the name again, with a dot at its end if it has none. -/
theorem dotted_text (name : String) : ∃ dots, dotted name = name ++ dots := by
  rw [dotted]
  cases split : Text.rsplit_once '.' name.toList with
  | none => exact ⟨".", rfl⟩
  | some pair =>
    obtain ⟨before, after⟩ := pair
    rw [Text.rsplit_once, Option.map_eq_some_iff] at split
    obtain ⟨⟨start, tail⟩, found, same⟩ := split
    change (tail.reverse, start.reverse) = (before, after) at same
    cases same
    have whole : name.toList = tail.reverse ++ '.' :: start.reverse := by
      have text := congrArg List.reverse (split_once_text found)
      simpa using text
    dsimp only
    split
    · exact ⟨".", rfl⟩
    · refine ⟨"", String.toList_inj.mp ?_⟩
      have dot : (".": String).toList = ['.'] := rfl
      simp [whole, dot]

/-- The name beside a name is longer. -/
theorem part_text (name : String) : ∃ more, more ≠ "" ∧ dotted name ++ ".part" = name ++ more := by
  obtain ⟨dots, text⟩ := dotted_text name
  refine ⟨dots ++ ".part", fun empty => ?_, by rw [text, String.append_assoc]⟩
  have five : (".part" : String).toList ≠ [] := by decide
  exact five (List.append_eq_nil_iff.mp ((String.toList_append).symm.trans (congrArg String.toList empty))).2

theorem part_ne (name : String) : dotted name ++ ".part" ≠ name := by
  obtain ⟨more, some_more, text⟩ := part_text name
  rw [text]
  intro same
  have chars : name.toList ++ more.toList = name.toList := (String.toList_append).symm.trans (congrArg String.toList same)
  exact some_more (String.toList_inj.mp (List.append_right_eq_self.mp chars))

theorem tmp_snoc (parent : Loc) (name : String) :
    Setting.tmp (parent ++ [name]) = path_to (parent ++ [dotted name ++ ".part"]) := by
  simp [Setting.tmp, part_file, path_to]

/-! ### What writing an entry can do -/

section Writing
variable {s : Setting} {t u : Tree}

/-- A file is opened where its path leads. -/
theorem create_file_of_ok {path : List Component} {inode : Nat} {v : Tree} (opened : create_file path u = (.ok inode, v)) :
    ∃ loc, u.place path = .ok loc ∧ u.permits loc ∧ u.node loc ≠ some .dir ∧
      ((u.node loc = none ∧ inode = u.next ∧ v = u.create loc []) ∨ (u.node loc = some (.file inode) ∧ v = u.write inode [])) := by
  rw [create_file] at opened
  cases placed : u.place path with
  | error error =>
    rw [placed] at opened
    cases opened
  | ok loc =>
    simp only [placed] at opened
    by_cases permitted : u.permits loc
    · rw [if_pos permitted] at opened
      cases standing : u.node loc with
      | none =>
        rw [standing] at opened
        cases opened
        exact ⟨loc, rfl, permitted, by simp [standing], .inl ⟨standing, rfl, rfl⟩⟩
      | some node =>
        rw [standing] at opened
        cases node <;> cases opened
        exact ⟨loc, rfl, permitted, by simp [standing], .inr ⟨standing, rfl⟩⟩
    · rw [if_neg permitted] at opened
      cases opened

theorem create_file_of_error {path : List Component} {error : IoError} {v : Tree}
    (failed : create_file path u = (.error error, v)) : v = u := by
  rw [create_file] at failed
  cases placed : u.place path with
  | error _ =>
    rw [placed] at failed
    cases failed
    rfl
  | ok loc =>
    simp only [placed] at failed
    by_cases permitted : u.permits loc
    · rw [if_pos permitted] at failed
      cases standing : u.node loc with
      | none =>
        rw [standing] at failed
        cases failed
      | some node =>
        rw [standing] at failed
        cases node <;> cases failed <;> rfl
    · rw [if_neg permitted] at failed
      cases failed
      rfl

/-- A file takes the name of an entry, or everything is as it was. -/
theorem rename_to_result (source : List Component) (out : Loc) (ending : Ending) (t : Tree) :
    (∃ error, rename_to source out ending t = (.error error, t)) ∨
      ending = .Name ∧ ∃ u, rename_to source out ending t = (.ok (), u) := by
  cases ending with
  | Name =>
    rcases rename_result source (path_to out) t with ⟨error, failed⟩ | ⟨_, _, -, -, -, done⟩
    · exact .inl ⟨error, failed⟩
    · exact .inr ⟨rfl, _, done⟩
  | Separator => exact .inl ⟨_, rfl⟩
  | CurDir =>
    cases entered : t.enter (path_to out) with
    | ok here => exact .inl ⟨.IsADirectory, by simp only [rename_to, entered]⟩
    | error error => exact .inl ⟨error, by simp only [rename_to, entered]⟩

/-- Where a file takes the name of an entry, nothing stands behind that name, and both places are reached. -/
theorem rename_to_ok {source : List Component} {out : Loc} {ending : Ending} (renamed : rename_to source out ending t = (.ok (), u)) :
    ending = .Name ∧ ∃ from_loc to_loc, t.spot source = .ok from_loc ∧ t.spot (path_to out) = .ok to_loc ∧
      u = t.move from_loc to_loc := by
  rcases rename_to_result source out ending t with ⟨error, failed⟩ | ⟨rfl, -⟩
  · cases failed.symm.trans renamed
  · rcases rename_result source (path_to out) t with ⟨error, failed⟩ | ⟨from_loc, to_loc, first, second, -, done⟩
    · cases failed.symm.trans renamed
    · cases done.symm.trans renamed
      exact ⟨rfl, from_loc, to_loc, first, second, rfl⟩

/-- Once the file is open, its name is taken away again, or given to the entry. -/
theorem write_entry_opened {force : Bool} {out : Loc} {ending : Ending} {content : List UInt8} (broken : Option String)
    {inode : Nat} {v : Tree} (made : create_dir_all out.dropLast t = (.ok (), u))
    (goes_on : force = false → stands u out ending = false) (opened : create_file (Setting.tmp out) u = (.ok inode, v)) :
    (broken = none → ∃ error, rename_to (Setting.tmp out) out ending (v.write inode content) =
          (.error error, v.write inode content)) ∧
        (∃ error, s.write_entry force out ending content broken t = (.error error, (s.discard out (v.write inode content)).2)) ∨
      ∃ w, rename_to (Setting.tmp out) out ending (v.write inode content) = (.ok (), w) ∧
        s.write_entry force out ending content broken t = (.ok (), w) := by
  rw [Setting.write_entry, bind_run, Setting.io, made]
  simp only [Except.mapError]
  rw [bind_run, get_run]
  have admitted : (stands u out ending && !force) = false := by
    cases force with
    | true => simp
    | false => simp [goes_on rfl]
  simp only [admitted]
  rw [if_neg (by simp), bind_run, Setting.io, opened]
  simp only [Except.mapError]
  rw [bind_run, attempt_run, Setting.io, copy_to]
  cases broken with
  | some message => exact .inl ⟨fun whole => (by cases whole), _, rfl⟩
  | none =>
    simp only [written, Except.mapError]
    rw [bind_run, attempt_run, Setting.io]
    rcases rename_to_result (Setting.tmp out) out ending (v.write inode content) with ⟨error, failed⟩ | ⟨-, w, done⟩
    · rw [failed]
      exact .inl ⟨fun _ => ⟨error, rfl⟩, _, rfl⟩
    · rw [done]
      exact .inr ⟨_, rfl, rfl⟩

/-- Either no more than directories were made, or the file was opened. -/
theorem write_entry_cases (force : Bool) (out : Loc) (ending : Ending) (content : List UInt8) (broken : Option String) (t : Tree) :
    (∃ error, s.write_entry force out ending content broken t = (.error error, (create_dir_all out.dropLast t).2)) ∨
      ∃ u inode v, create_dir_all out.dropLast t = (.ok (), u) ∧ (force = false → stands u out ending = false) ∧
        create_file (Setting.tmp out) u = (.ok inode, v) := by
  rw [Setting.write_entry, bind_run, Setting.io]
  cases made : create_dir_all out.dropLast t with
  | mk result u =>
    cases result with
    | error error => exact .inl ⟨_, rfl⟩
    | ok _ =>
      simp only [Except.mapError]
      rw [bind_run, get_run]
      by_cases refused : (stands u out ending && !force) = true
      · simp only [refused, if_true]
        exact .inl ⟨_, rfl⟩
      · simp only [refused]
        rw [if_neg (by simp)]
        cases opened : create_file (Setting.tmp out) u with
        | mk file v =>
          rw [bind_run, Setting.io, opened]
          cases file with
          | error error =>
            have same : v = u := create_file_of_error opened
            rw [same]
            exact .inl ⟨_, rfl⟩
          | ok inode => exact .inr ⟨u, inode, v, rfl, fun unforced => by simpa [unforced] using refused, opened⟩

end Writing

/-! ### What an import must not do -/

/-- Every file that was there has its old bytes. -/
def Kept (before after : Tree) : Prop :=
  ∀ loc inode, before.node loc = some (.file inode) →
    ∃ other, after.node loc = some (.file other) ∧ (after.files other).content = (before.files inode).content

/-- Every file that was there has its old bytes, and every other file stands where an entry says. -/
def Intact (before after : Tree) (named : Loc → Prop) : Prop :=
  Kept before after ∧
    ∀ loc inode, after.node loc = some (.file inode) → (∃ other, before.node loc = some (.file other)) ∨ named loc

/-- Where the name of a file stands, once the directories above it were made. -/
def Job.NamedAt (t : Tree) (loc : Loc) : Job → Prop
  | .File out .Name _ _ _ => ∃ u, create_dir_all out.dropLast t = (.ok (), u) ∧ u.spot (path_to out) = .ok loc
  | _ => False

/-- The file for an entry can be opened, through the name beside the entry's own, which stands at the place. -/
def Opens (u : Tree) (out : Loc) (ending : Ending) (loc : Loc) : Prop :=
  stands u out ending = false ∧ u.spot (Setting.tmp out) = .ok loc ∧
    ∃ place, u.place (Setting.tmp out) = .ok place ∧ u.permits place ∧ u.node place ≠ some .dir

/-- Where the file for an entry can be opened, nothing of the kinds that was there before the import stands at its name. -/
def Job.Clear (kinds : Node → Prop) (before t : Tree) : Job → Prop
  | .Directory _ _ => True
  | .File out ending _ _ _ => ∀ u loc node, create_dir_all out.dropLast t = (.ok (), u) → Opens u out ending loc →
      u.node loc = some node → kinds node → before.node loc ≠ some node

namespace Setting
variable (s : Setting)

/-- What is written for an entry can be written to its end, or else taken away. -/
def Discards (t : Tree) : Job → Prop
  | .Directory _ _ => True
  | .File out ending _ _ broken => ∀ u loc place, create_dir_all out.dropLast t = (.ok (), u) → Opens u out ending loc →
      u.spot (path_to out) = .ok place → s.removes out = true ∨ ending = .Name ∧ broken = none ∧ u.permits place

/-- The places that are named by the entries that are come to. -/
def Names (loc : Loc) : Tree → UnpackReport → List (Except HostError Job) → Prop
  | _, _, [] => False
  | t, report, read :: rest => ∃ job, read = .ok job ∧
      (job.NamedAt t loc ∨ ∃ further u, s.unpack_job false report job t = (.ok further, u) ∧ Names loc u further rest)

/-- What holds of every entry that is come to, in the tree the entries before it left. -/
def Along (holds : Tree → Job → Prop) : Tree → UnpackReport → List (Except HostError Job) → Prop
  | _, _, [] => True
  | t, report, read :: rest => ∀ job, read = .ok job → holds t job ∧
      ∀ further u, s.unpack_job false report job t = (.ok further, u) → Along holds u further rest

/-- The places that the first entries name. -/
def NamedFirst (count : Nat) (archive : Archive) (t : Tree) (loc : Loc) : Prop :=
  ∃ u jobs, create_dir_all s.dest t = (.ok (), u) ∧ archive.jobs s.dest = .ok jobs ∧ s.Names loc u ⟨0, 0⟩ (jobs.take count)

/-- What holds of every entry that an import comes to. -/
def Throughout (holds : Tree → Job → Prop) (archive : Archive) (t : Tree) : Prop :=
  ∀ u jobs, create_dir_all s.dest t = (.ok (), u) → archive.jobs s.dest = .ok jobs → s.Along holds u ⟨0, 0⟩ jobs

/-- Nothing that was there before stands at a name an entry is written through, and nothing written there has to stay. -/
def Unobstructed (before t : Tree) (job : Job) : Prop := job.Clear (fun _ => True) before t ∧ s.Discards t job

end Setting

/-! ### One entry -/

/-- What holds of the files after some entries: those that were there are as they were, the others are new, and named by
    the entries; no link is new. -/
structure Sound (before t : Tree) (named : Loc → Prop) : Prop where
  rooted : Rooted t
  kept : ∀ loc inode, before.node loc = some (.file inode) → t.node loc = some (.file inode) ∧ t.files inode = before.files inode
  fresh : ∀ loc inode, t.node loc = some (.file inode) →
    before.node loc = some (.file inode) ∨ named loc ∧ ∀ other, before.node other ≠ some (.file inode)
  links : ∀ loc target made, t.node loc = some (.link target made) → before.node loc = some (.link target made)

section Entry
variable {before t u w : Tree} {named : Loc → Prop}

theorem Sound.intact (sound : Sound before t named) : Intact before t named := by
  refine ⟨fun loc inode was => ?_, fun loc inode there => ?_⟩
  · obtain ⟨still, same⟩ := sound.kept loc inode was
    exact ⟨inode, still, by rw [same]⟩
  · rcases sound.fresh loc inode there with was | ⟨its, -⟩
    · exact .inl ⟨inode, was⟩
    · exact .inr its

theorem Sound.more (sound : Sound before t named) {also : Loc → Prop} (wider : ∀ loc, named loc → also loc) : Sound before t also :=
  ⟨sound.rooted, sound.kept, fun loc inode there => (sound.fresh loc inode there).imp_right fun new => ⟨wider loc new.1, new.2⟩,
    sound.links⟩

/-- Directories made on the way are no files. -/
theorem Sound.directories (sound : Sound before t named) (path : Loc) : Sound before (create_dir_all path t).2 named := by
  obtain ⟨files, nodes⟩ := create_dir_all_extends path t
  have same (loc : Loc) (node : Node) (plain : node ≠ .dir) :
      (create_dir_all path t).2.node loc = some node ↔ t.node loc = some node := by
    rcases nodes loc with same | ⟨missing, made⟩
    · rw [same]
    · rw [missing, made]
      simp [Ne.symm plain]
  refine ⟨sound.rooted.create_dir_all path, fun loc inode was => ?_, fun loc inode there => ?_, fun loc target made there => ?_⟩
  · rw [same loc _ (by simp), files]
    exact sound.kept loc inode was
  · exact sound.fresh loc inode ((same loc _ (by simp)).mp there)
  · exact sound.links loc target made ((same loc _ (by simp)).mp there)

/-- A file is open right below a directory, at a name where nothing from before stands; all else is as it was. -/
structure Beside (before u w : Tree) (here : Loc) (name : String) (inode : Nat) : Prop where
  dir : u.node here = some .dir
  plain : u.node (here ++ [name]) = none ∨ u.node (here ++ [name]) = some (.file inode)
  its : w.node (here ++ [name]) = some (.file inode)
  elsewhere : ∀ loc, loc ≠ here ++ [name] → w.node loc = u.node loc
  new : ∀ other, before.node other ≠ some (.file inode)
  files : ∀ other, other ≠ inode → w.files other = u.files other
  permits : w.permits = u.permits
  permitted : w.permits (here ++ [name])

section Beside
variable {here : Loc} {name : String} {inode : Nat} (beside : Beside before u w here name inode)
include beside

theorem Beside.grown : Grown u w := by
  intro loc node standing
  by_cases same : loc = here ++ [name]
  · subst same
    rcases beside.plain with vacant | file
    · cases vacant.symm.trans standing
    · rw [beside.its, ← file, standing]
  · rw [beside.elsewhere loc same]
    exact standing

theorem Beside.dir_after : w.node here = some .dir := beside.grown here _ beside.dir

theorem Beside.rooted (rooted : Rooted u) : Rooted w := by
  intro loc last there
  by_cases same : loc ++ [last] = here ++ [name]
  · obtain ⟨rfl, -⟩ := List.append_inj' same rfl
    exact beside.dir_after
  · rw [beside.elsewhere _ same] at there
    exact beside.grown loc _ (rooted loc last there)

theorem Beside.vacant (rooted : Rooted w) {rest : Loc} (some_name : rest ≠ []) : w.node (here ++ [name] ++ rest) = none := by
  by_contra standing
  cases beside.its.symm.trans (rooted.below some_name standing)

/-- The name is taken away again. -/
theorem Beside.removed (sound : Sound before u named) : Sound before (w.prune [here ++ [name]]) named := by
  have rooted := beside.rooted sound.rooted
  have below {loc : Loc} {node : Node} (there : u.node loc = some node) (other : loc ≠ here ++ [name]) :
      (w.prune [here ++ [name]]).node loc = some node := by
    have standing : w.node loc = some node := (beside.elsewhere loc other).trans there
    by_cases top : loc = []
    · subst top
      exact standing
    · rw [w.prune_node _ top, if_neg]
      · exact standing
      · rintro ⟨g, member, above⟩
        obtain rfl := List.mem_singleton.mp member
        obtain ⟨rest, rfl⟩ := above
        have some_name : rest ≠ [] := by
          rintro rfl
          simp at other
        cases standing.symm.trans (beside.vacant rooted some_name)
  have still {loc : Loc} {node : Node} (there : (w.prune [here ++ [name]]).node loc = some node) :
      u.node loc = some node := by
    have standing := w.prune_node_of_some there
    by_cases same : loc = here ++ [name]
    · subst same
      rw [w.prune_node _ (by simp), if_pos ⟨_, List.mem_singleton_self _, List.prefix_refl _⟩] at there
      cases there
    · rwa [beside.elsewhere loc same] at standing
  refine ⟨rooted.prune _, fun loc i was => ?_, fun loc i there => sound.fresh loc i (still there),
    fun loc target made there => sound.links loc target made (still there)⟩
  obtain ⟨there, same⟩ := sound.kept loc i was
  have other : i ≠ inode := by
    rintro rfl
    exact beside.new loc was
  refine ⟨below there ?_, (beside.files i other).trans same⟩
  rintro rfl
  rcases beside.plain with vacant | file
  · cases vacant.symm.trans there
  · cases file.symm.trans there
    exact other rfl

/-- The name becomes that of the entry, where no file stood. -/
theorem Beside.moved (sound : Sound before u named) {other : String} (ne : name ≠ other)
    (free : ∀ i, u.node (here ++ [other]) ≠ some (.file i)) (plain : u.node (here ++ [other]) ≠ some .dir) :
    Sound before (w.move (here ++ [name]) (here ++ [other])) fun loc => named loc ∨ loc = here ++ [other] := by
  have rooted := beside.rooted sound.rooted
  have apart : here ++ [other] ≠ here ++ [name] := by
    intro same
    simp at same
    exact ne same.symm
  have target := beside.elsewhere _ apart
  have seen := w.move_node (by simp : here ++ [name] ≠ []) (by simp : here ++ [other] ≠ [])
  have below {loc : Loc} {i : Nat} (there : u.node loc = some (.file i)) (first : loc ≠ here ++ [name]) :
      (w.move (here ++ [name]) (here ++ [other])).node loc = some (.file i) := by
    have standing : w.node loc = some (.file i) := (beside.elsewhere loc first).trans there
    rw [seen, if_neg, if_neg]
    · exact standing
    · rintro ⟨rest, rfl⟩
      have some_name : rest ≠ [] := by
        rintro rfl
        simp at first
      cases standing.symm.trans (beside.vacant rooted some_name)
    · rintro ⟨rest, rfl⟩
      by_cases last : rest = []
      · subst last
        exact free i (by simpa using there)
      · have dir := rooted.below last (by rw [standing]; simp)
        exact plain (target.symm.trans dir)
  have still {loc : Loc} {node : Node} (there : (w.move (here ++ [name]) (here ++ [other])).node loc = some node) :
      loc = here ++ [other] ∧ node = .file inode ∨ u.node loc = some node := by
    rw [seen] at there
    by_cases inside : here ++ [other] <+: loc
    · obtain ⟨rest, rfl⟩ := inside
      rw [if_pos (List.prefix_append _ rest), List.drop_left] at there
      by_cases last : rest = []
      · subst last
        rw [List.append_nil, beside.its] at there
        exact .inl ⟨List.append_nil _, (Option.some.inj there).symm⟩
      · rw [beside.vacant rooted last] at there
        cases there
    · rw [if_neg inside] at there
      by_cases gone : here ++ [name] <+: loc
      · rw [if_pos gone] at there
        cases there
      · rw [if_neg gone] at there
        rw [beside.elsewhere] at there
        · exact .inr there
        · rintro rfl
          exact gone (List.prefix_refl _)
  refine ⟨rooted.move_file beside.dir_after beside.its, fun loc i was => ?_, fun loc i there => ?_, fun loc link made there => ?_⟩
  · obtain ⟨there, same⟩ := sound.kept loc i was
    have older : i ≠ inode := by
      rintro rfl
      exact beside.new loc was
    refine ⟨below there ?_, (beside.files i older).trans same⟩
    rintro rfl
    rcases beside.plain with none_there | file
    · cases none_there.symm.trans there
    · cases file.symm.trans there
      exact older rfl
  · rcases still there with ⟨rfl, same⟩ | was
    · cases same
      exact .inr ⟨.inr rfl, beside.new⟩
    · rcases sound.fresh loc i was with old | ⟨its, new⟩
      · exact .inl old
      · exact .inr ⟨.inl its, new⟩
  · rcases still there with ⟨-, same⟩ | was
    · cases same
    · exact sound.links loc link made was

end Beside

theorem node_lt {loc : Loc} {inode : Nat} (there : t.node loc = some (.file inode)) : inode < t.next := by
  rw [FileTree.Tree.node] at there
  by_cases top : loc = []
  · rw [if_pos top] at there
    cases there
  · rw [if_neg top] at there
    exact t.unused loc inode there

/-- Where a path's own name holds a file or a directory, the path is there. -/
theorem exists_of_spot {path : List Component} {loc : Loc} {node : Node} (found : u.spot path = .ok loc)
    (standing : u.node loc = some node) (plain : ∀ target made, node ≠ .link target made) : u.path_exists path = true := by
  have placed := place_of_spot found fun target made linked => plain target made (Option.some.inj (standing.symm.trans linked))
  simp [Tree.path_exists, placed, standing]

section Opened
variable {out : Loc} {ending : Ending} {content : List UInt8} {inode : Nat} {v : Tree}

/-- An entry that is written has a name, right below a directory. -/
theorem out_snoc (made : create_dir_all out.dropLast t = (.ok (), u)) (missing : stands u out ending = false) :
    ∃ parent name here, out = parent ++ [name] ∧ u.enter (path_to parent) = .ok here ∧
      u.spot (path_to out) = .ok (here ++ [name]) ∧ u.spot (Setting.tmp out) = .ok (here ++ [dotted name ++ ".part"]) := by
  rcases List.eq_nil_or_concat' out with rfl | ⟨parent, name, rfl⟩
  · cases ending <;> cases missing
  · rw [List.dropLast_concat] at made
    obtain ⟨here, entered⟩ := create_dir_all_entered made
    refine ⟨parent, name, here, rfl, entered, ?_, ?_⟩
    · simp only [path_to, Tree.spot, List.map_append, List.map_cons, List.map_nil, List.getLast?_concat, List.dropLast_concat]
      rw [entered]
      rfl
    · simp only [tmp_snoc, path_to, Tree.spot, List.map_append, List.map_cons, List.map_nil, List.getLast?_concat,
        List.dropLast_concat]
      rw [entered]
      rfl

/-- With nothing in the way, the file is opened at the name beside the entry's own, and is a new one. -/
theorem opened_beside {size : UInt64} {broken : Option String} {here : Loc} {part : String} (sound : Sound before u named)
    (made : create_dir_all out.dropLast t = (.ok (), u)) (missing : stands u out ending = false)
    (dir : u.node here = some .dir) (spot : u.spot (Setting.tmp out) = .ok (here ++ [part]))
    (opened : create_file (Setting.tmp out) u = (.ok inode, v))
    (clear : (Job.File out ending size content broken).Clear (fun _ => True) before t) :
    Beside before u (v.write inode content) here part inode := by
  obtain ⟨loc, placed, permitted, nodir, came⟩ := create_file_of_ok opened
  have named : here ++ [part] ≠ [] := by simp
  have unlike (node : Node) (standing : u.node (here ++ [part]) = some node) : before.node (here ++ [part]) ≠ some node :=
    clear u _ node made ⟨missing, spot, loc, placed, permitted, nodir⟩ standing trivial
  have straight : loc = here ++ [part] := by
    have leads := place_of_spot spot fun target made linked => unlike _ linked (sound.links _ target made linked)
    cases placed.symm.trans leads
    rfl
  subst straight
  rcases came with ⟨vacant, rfl, rfl⟩ | ⟨file, rfl⟩
  · have node (other : Loc) : (u.create (here ++ [part]) []).node other =
        if other = here ++ [part] then some (.file u.next) else u.node other := u.put_node named (.file u.next) other
    refine ⟨dir, .inl vacant, (node _).trans (if_pos rfl), fun other elsewhere => (node other).trans (if_neg elsewhere),
      fun other was => ?_, fun other older => ?_, rfl, permitted⟩
    · exact absurd (node_lt (sound.kept other _ was).1) (Nat.lt_irrefl _)
    · simp [Tree.write, Tree.create, older]
  · refine ⟨dir, .inr file, file, fun other _ => rfl, ?_, fun other older => ?_, rfl, permitted⟩
    · rcases sound.fresh _ _ file with was | ⟨-, new⟩
      · exact absurd was (unlike _ file)
      · exact new
    · simp [Tree.write, older]

/-- An entry with nothing in its way. -/
theorem write_entry_sound {s : Setting} {size : UInt64} {broken : Option String} (sound : Sound before t named)
    (clear : s.Unobstructed before t (.File out ending size content broken)) :
    Sound before (s.write_entry false out ending content broken t).2 fun loc =>
      named loc ∨ (Job.File out ending size content broken).NamedAt t loc := by
  have dirs := sound.directories out.dropLast
  rcases @write_entry_cases s false out ending content broken t with ⟨error, ended⟩ | ⟨u, inode, v, made, missing, opened⟩
  · rw [ended]
    exact dirs.more fun _ => .inl
  · rw [made] at dirs
    obtain ⟨parent, name, here, rfl, entered, its, tmp⟩ := out_snoc made (missing rfl)
    have dir := (enter_eq_ok.mp entered).2
    have beside := opened_beside dirs made (missing rfl) dir tmp opened clear.1
    have spot_tmp := spot_grown beside.grown tmp
    have spot_out := spot_grown beside.grown its
    -- Where a file can take the name, neither a file nor a directory has it.
    have free (bare : ending = .Name) (node : Node) (plain : ∀ target made, node ≠ .link target made) :
        u.node (here ++ [name]) ≠ some node := by
      intro standing
      subst bare
      cases (exists_of_spot its standing plain).symm.trans (missing rfl)
    have apart : u.node (here ++ [name]) = (v.write inode content).node (here ++ [name]) := by
      refine (beside.elsewhere _ fun same => part_ne name ?_).symm
      simpa using same.symm
    rcases @write_entry_opened s t u false _ ending content broken inode v made missing opened with
      ⟨failed, error, ended⟩ | ⟨w, renamed, ended⟩
    · have removes : s.removes (parent ++ [name]) = true := by
        obtain ⟨place, placed, permitted, nodir, -⟩ := create_file_of_ok opened
        rcases clear.2 u _ _ made ⟨missing rfl, tmp, place, placed, permitted, nodir⟩ its with removes | ⟨rfl, whole, may⟩
        · exact removes
        · obtain ⟨refused, same⟩ := failed whole
          have goes := rename_file spot_tmp beside.its spot_out (apart ▸ free rfl .dir (by simp)) (beside.permits ▸ may)
          cases same.symm.trans goes
      have removed : (s.discard (parent ++ [name]) (v.write inode content)).2 =
          (v.write inode content).prune [here ++ [dotted name ++ ".part"]] := by
        rw [Setting.discard, if_pos removes, remove_file, spot_tmp]
        simp only [beside.its, beside.permitted, if_true]
      rw [ended]
      simp only [removed]
      exact (beside.removed dirs).more fun _ => .inl
    · obtain ⟨rfl, source, target, first, second, rfl⟩ := rename_to_ok renamed
      cases first.symm.trans spot_tmp
      cases second.symm.trans spot_out
      rw [ended]
      refine (beside.moved dirs (part_ne name) (fun i => free rfl _ (by simp)) (free rfl _ (by simp))).more ?_
      rintro loc (earlier | rfl)
      · exact .inl earlier
      · exact .inr ⟨u, made, its⟩

end Opened

/-- A directory is made with those above it, or those above it alone. -/
theorem make_dir_tree (out : Loc) (ending : Ending) (t : Tree) :
    ∃ path, (make_dir out ending t).2 = t ∨ (make_dir out ending t).2 = (create_dir_all path t).2 := by
  cases ending with
  | Name => exact ⟨out, .inr rfl⟩
  | Separator => exact ⟨out, .inr rfl⟩
  | CurDir =>
    refine ⟨out.dropLast, ?_⟩
    unfold make_dir
    cases entered : t.enter (path_to out) with
    | ok here => simp only [entered, true_or]
    | error error =>
      cases error with
      | NotFound =>
        right
        simp only [entered]
        rw [bind_run]
        cases create_dir_all out.dropLast t with
        | mk result u => cases result <;> rfl
      | _ => simp only [entered, true_or]

/-- The tree after a file is that which writing it leaves, whatever its sizes come to. -/
theorem unpack_file_tree (s : Setting) (force : Bool) (report : UnpackReport) (out : Loc) (ending : Ending) (size : UInt64)
    (content : List UInt8) (broken : Option String) (t : Tree) :
    (s.unpack_job force report (.File out ending size content broken) t).2 =
      (s.write_entry force out ending content broken t).2 := by
  rw [Setting.unpack_job, bind_run]
  cases s.write_entry force out ending content broken t with
  | mk result u =>
    cases result with
    | error error => rfl
    | ok _ =>
      simp only
      rw [bind_run, ofExcept_run]
      cases check_unpacked ⟨report.files + 1, report.bytes + size⟩ <;> rfl

theorem unpack_job_sound {s : Setting} {report : UnpackReport} {job : Job} (sound : Sound before t named)
    (clear : s.Unobstructed before t job) :
    Sound before (s.unpack_job false report job t).2 fun loc => named loc ∨ job.NamedAt t loc := by
  cases job with
  | Directory out ending =>
    have dirs : Sound before (make_dir out ending t).2 named := by
      obtain ⟨path, same | same⟩ := make_dir_tree out ending t
      · rwa [same]
      · rw [same]
        exact sound.directories path
    have dirs := dirs.more (fun (loc : Loc) its => (Or.inl its : named loc ∨ (Job.Directory out ending).NamedAt t loc))
    rw [Setting.unpack_job, bind_run, Setting.io]
    cases made : make_dir out ending t with
    | mk result u =>
      rw [made] at dirs
      cases result <;> exact dirs
  | File out ending size content broken =>
    rw [unpack_file_tree]
    exact write_entry_sound sound clear

/-! ### A whole import -/

/-- However many entries are unpacked, with nothing in the way of any. -/
theorem unpack_jobs_sound {s : Setting} (jobs : List (Except HostError Job)) {report : UnpackReport}
    (sound : Sound before t named) (clear : s.Along (s.Unobstructed before) t report jobs) :
    Sound before (s.unpack_jobs false report jobs t).2 fun loc => named loc ∨ s.Names loc t report jobs := by
  induction jobs generalizing t report named with
  | nil => exact sound.more fun _ => .inl
  | cons read rest ih =>
    rw [Setting.unpack_jobs]
    cases read with
    | error error => exact sound.more fun _ => .inl
    | ok job =>
      obtain ⟨first, later⟩ := clear job rfl
      have step := @unpack_job_sound before t named s report job sound first
      rw [bind_of_ok (ofExcept_run _ t), bind_run]
      cases ended : s.unpack_job false report job t with
      | mk result u =>
        rw [ended] at step
        cases result with
        | error error =>
          refine step.more fun loc its => ?_
          exact its.imp_right fun here => ⟨job, rfl, .inl here⟩
        | ok further =>
          refine (ih step (later further u ended)).more fun loc its => ?_
          rcases its with (earlier | here) | after
          · exact .inl earlier
          · exact .inr ⟨job, rfl, .inl here⟩
          · exact .inr ⟨job, rfl, .inr ⟨further, u, ended, after⟩⟩

/-! ### A file in the way -/

/-- A file that stands at the name an entry is written through does not stand there afterwards. -/
theorem write_entry_destroys {s : Setting} {out loc : Loc} {ending : Ending} {content : List UInt8} {broken : Option String}
    {inode : Nat} (removes : s.removes out = true) (made : create_dir_all out.dropLast t = (.ok (), u))
    (opens : Opens u out ending loc) (file : u.node loc = some (.file inode)) :
    (s.write_entry false out ending content broken t).2.node loc = none := by
  obtain ⟨missing, spot, place, placed, permitted, -⟩ := opens
  cases placed.symm.trans (place_of_spot spot (by simp [file]))
  have opened : create_file (Setting.tmp out) u = (.ok inode, u.write inode []) := by
    rw [create_file, placed]
    simp only [permitted, file, if_true]
  obtain ⟨parent, name, here, rfl, -, its, tmp⟩ := out_snoc made missing
  cases spot.symm.trans tmp
  have same : Grown u ((u.write inode []).write inode content) := fun _ _ there => there
  have there : ((u.write inode []).write inode content).node (here ++ [dotted name ++ ".part"]) = some (.file inode) := file
  have named : here ++ [dotted name ++ ".part"] ≠ [] := by simp
  have spot_tmp := spot_grown same spot
  rcases @write_entry_opened s t u false _ ending content broken inode _ made (fun _ => missing) opened with
    ⟨-, error, ended⟩ | ⟨w, renamed, ended⟩
  · rw [ended, Setting.discard, if_pos removes, remove_file, spot_tmp]
    have may : ((u.write inode []).write inode content).permits (here ++ [dotted name ++ ".part"]) := permitted
    simp only [there, may, if_true]
    rw [Tree.prune_node _ _ named, if_pos ⟨_, List.mem_singleton_self _, List.prefix_refl _⟩]
  · rw [ended]
    obtain ⟨rfl, source, target, first, second, rfl⟩ := rename_to_ok renamed
    cases first.symm.trans spot_tmp
    cases second.symm.trans (spot_grown same its)
    have apart : ¬ here ++ [name] <+: here ++ [dotted name ++ ".part"] := by
      intro within
      exact apart_of_ne (Ne.symm (part_ne name)) [] (by rwa [List.append_nil])
    rw [Tree.move_node _ named (by simp), if_neg apart, if_pos (List.prefix_refl _)]

def IsFile (node : Node) : Prop := ∃ inode, node = .file inode

theorem unpack_one {s : Setting} (report : UnpackReport) (job : Job) (t : Tree) :
    (s.unpack_jobs false report [.ok job] t).2 = (s.unpack_job false report job t).2 := by
  rw [Setting.unpack_jobs, bind_of_ok (ofExcept_run _ t), bind_run]
  cases s.unpack_job false report job t with
  | mk result u => cases result <;> rfl

/-- Where every file keeps its bytes however far the import gets, none was in the way. -/
theorem clear_of_kept {s : Setting} (removes : ∀ out, s.removes out = true) (jobs : List (Except HostError Job))
    {report : UnpackReport} (kept : ∀ count, Kept before (s.unpack_jobs false report (jobs.take count) t).2) :
    s.Along (fun t job => job.Clear IsFile before t) t report jobs := by
  induction jobs generalizing t report with
  | nil => trivial
  | cons read rest ih =>
    rintro job rfl
    constructor
    · cases job with
      | Directory out ending => trivial
      | File out ending size content broken =>
        rintro u loc node made opens standing ⟨inode, rfl⟩ was
        have gone := @write_entry_destroys t u s out loc ending content broken inode (removes out) made opens standing
        obtain ⟨other, there, -⟩ := kept 1 loc inode was
        rw [List.take_succ_cons, List.take_zero, unpack_one, unpack_file_tree, gone] at there
        cases there
    · intro further u ended
      refine ih fun count => ?_
      have later := kept (count + 1)
      rwa [List.take_succ_cons, Setting.unpack_jobs, bind_of_ok (ofExcept_run _ t), bind_of_ok ended] at later

end Entry

/-- A tree as a disk holds it: what stands below a name stands in a directory. -/
abbrev Disk : Type := { t : Tree // Rooted t }

namespace Setting
variable (s : Setting)

/-- The places that the entries name. -/
def Named (archive : Archive) (t : Tree) (loc : Loc) : Prop :=
  ∃ u jobs, create_dir_all s.dest t = (.ok (), u) ∧ archive.jobs s.dest = .ok jobs ∧ s.Names loc u ⟨0, 0⟩ jobs

/-- The destination made, and then some of the entries. -/
theorem import_sound (disk : Disk) (archive : Archive) (cut : List (Except HostError Job) → List (Except HostError Job))
    (clear : ∀ u jobs, create_dir_all s.dest disk.val = (.ok (), u) → archive.jobs s.dest = .ok jobs →
      s.Along (s.Unobstructed disk.val) u ⟨0, 0⟩ (cut jobs)) :
    Sound disk.val ((do
        s.io (create_dir_all s.dest)
        let jobs ← ofExcept (archive.jobs s.dest)
        s.unpack_jobs false ⟨0, 0⟩ (cut jobs) : Import UnpackReport) disk.val).2 fun loc =>
      ∃ u jobs, create_dir_all s.dest disk.val = (.ok (), u) ∧ archive.jobs s.dest = .ok jobs ∧
        s.Names loc u ⟨0, 0⟩ (cut jobs) := by
  have start : Sound disk.val disk.val fun _ => False :=
    ⟨disk.property, fun _ _ was => ⟨was, rfl⟩, fun _ _ was => .inl was, fun _ _ _ was => was⟩
  have dirs := start.directories s.dest
  rw [bind_run, io]
  cases made : create_dir_all s.dest disk.val with
  | mk result u =>
    rw [made] at dirs
    cases result with
    | error error => exact dirs.more fun _ => False.elim
    | ok _ =>
      simp only [Except.mapError]
      cases its : archive.jobs s.dest with
      | error error =>
        rw [bind_of_error (ofExcept_run _ u)]
        exact dirs.more fun _ => False.elim
      | ok jobs =>
        rw [bind_of_ok (ofExcept_run _ u)]
        refine (unpack_jobs_sound (cut jobs) dirs (clear u jobs made its)).more fun loc named => ?_
        rcases named with never | named
        · exact never.elim
        · exact ⟨u, jobs, rfl, rfl, named⟩

theorem along_take {holds : Tree → Job → Prop} (count : Nat) (jobs : List (Except HostError Job)) {t : Tree}
    {report : UnpackReport} (clear : s.Along holds t report jobs) : s.Along holds t report (jobs.take count) := by
  induction jobs generalizing t report count with
  | nil =>
    rw [List.take_nil]
    trivial
  | cons read rest ih =>
    cases count with
    | zero => trivial
    | succ count =>
      intro job same
      obtain ⟨first, later⟩ := clear job same
      exact ⟨first, fun further u ended => ih count (later further u ended)⟩

/-- With nothing in the way of an entry, an import without force leaves every file as it was, whatever it ends with; and
    where it does, however far it gets, no file was in the way. -/
theorem import_intact (disk : Disk) (archive : Archive) :
    (s.Throughout (s.Unobstructed disk.val) archive disk.val →
      Intact disk.val (s.unpack_archive archive false disk.val).2 (s.Named archive disk.val) ∧
        ∀ count, Intact disk.val (s.unpack_first count archive false disk.val).2 (s.NamedFirst count archive disk.val)) ∧
      ((∀ out, s.removes out = true) → (∀ count, Kept disk.val (s.unpack_first count archive false disk.val).2) →
        s.Throughout (fun t job => job.Clear IsFile disk.val t) archive disk.val) := by
  refine ⟨fun clear => ⟨?_, fun count => ?_⟩, fun removes kept u jobs made its => ?_⟩
  · exact (s.import_sound disk archive id clear).intact
  · exact (s.import_sound disk archive (List.take count) fun u jobs made its =>
      s.along_take count jobs (clear u jobs made its)).intact
  · refine clear_of_kept removes jobs fun count => ?_
    have partly := kept count
    rw [unpack_first, bind_run, io, made] at partly
    simp only [Except.mapError] at partly
    rwa [its, bind_of_ok (ofExcept_run _ u)] at partly

end Setting

/-! ### Two imports -/

def workspace : Setting := ⟨["w"], fun _ => "denied", fun _ => true⟩

/-- A workspace with one file, whose name ends as those do that entries are written through. -/
def drafts : Tree where
  names loc := if loc = ["w"] then some .dir else if loc = ["w", "a.c.part"] then some (.file 0) else none
  files _ := ⟨[1], 0⟩
  next := 1
  permits _ := true
  unused loc inode named := by
    split at named
    · cases named
    · split at named <;> cases named
      exact Nat.one_pos

theorem drafts_rooted : Rooted drafts := by
  intro loc name there
  rw [FileTree.Tree.node, if_neg (by simp)] at there
  simp only [drafts] at there
  by_cases top : loc ++ [name] = ["w"]
  · cases loc with
    | nil => rfl
    | cons first rest => simp at top
  · rw [if_neg top] at there
    by_cases file : loc ++ [name] = ["w", "a.c.part"]
    · obtain ⟨rfl, -⟩ := List.append_inj' (file.trans (rfl : _ = ["w"] ++ ["a.c.part"])) rfl
      rfl
    · rw [if_neg file] at there
      exact absurd rfl there

theorem workspace_made : create_dir_all workspace.dest drafts = (.ok (), drafts) := by
  have found : drafts.landing ["w"] = .ok (["w"], []) := by decide +kernel
  change create_dir_all ["w"] drafts = (.ok (), drafts)
  rw [create_dir_all]
  simp only [List.reverse_singleton, found]
  rfl

/-- A tar with one file. -/
def one_file (name : String) : Archive := .Tar (.ok [.ok ⟨⟨.Regular, .ok name, some 1⟩, [2], none⟩])

/-- A file beside the name it is written through stays as it is. -/
theorem other_import_intact : Intact drafts (workspace.unpack_archive (one_file "b.c") false drafts).2
    (workspace.Named (one_file "b.c") drafts) := by
  have made : create_dir_all ["w"] drafts = (.ok (), drafts) := workspace_made
  have free : drafts.spot (Setting.tmp ["w", "b.c"]) = .ok ["w", "b.c.part"] := by decide +kernel
  refine ((workspace.import_intact ⟨drafts, drafts_rooted⟩ (one_file "b.c")).1 ?_).1
  intro u jobs dirs its
  cases made.symm.trans dirs
  have only : (one_file "b.c").jobs workspace.dest = .ok [.ok (.File ["w", "b.c"] .Name 1 [2] none)] := by decide +kernel
  cases only.symm.trans its
  rintro job same
  cases same
  refine ⟨⟨?_, fun _ _ _ _ _ _ => .inl rfl⟩, fun _ _ _ => trivial⟩
  rintro u loc node again ⟨-, spot, -⟩ standing - -
  cases made.symm.trans again
  cases free.symm.trans spot
  cases standing

/-- The file is gone: an entry was written through its name. -/
theorem part_file_lost : ¬ ∀ (s : Setting) (disk : Disk) (archive : Archive),
    Intact disk.val (s.unpack_archive archive false disk.val).2 (s.Named archive disk.val) := by
  intro intact
  obtain ⟨other, there, -⟩ := (intact workspace ⟨drafts, drafts_rooted⟩ (one_file "a.c")).1 ["w", "a.c.part"] 0 (by decide)
  have gone : (workspace.unpack_archive (one_file "a.c") false drafts).2.node ["w", "a.c.part"] = none := by decide +kernel
  cases gone.symm.trans there

end Riscdom.WorkspaceIo
