import Riscdom.Policy

/-!
What comes into a workspace and what goes out of it: archives are unpacked one
entry after another, and the exports write one file each. Beside the project the
workspace holds the host's own state, in a directory of its own. Paths are POSIX
ones.
-/
namespace Riscdom.Workspace
open Agent Text

def HOST_STATE_DIR : String := ".riscdom"
def MAX_ARCHIVE_ENTRIES : Nat := 100000
def MAX_UNPACKED_BYTES : UInt64 := 512 * 1024 * 1024

inductive HostError
  | Policy (message : String)
  | Archive (message : String)
  | WorkspaceEntryExists (name : String)
  | Io (message : String)
  | Audit (message : String)
  | Other (message : String)
deriving DecidableEq

/-! ### Archives, as their libraries read them -/

structure ZipEntry where
  name : String
  is_dir : Bool
  unix_mode : Option UInt32
  size : UInt64

inductive EntryType
  | Regular
  | Directory
  | Symlink
  | Link
  | Special (kind : String)
deriving DecidableEq

def EntryType.debug : EntryType → String
  | .Regular => "Regular"
  | .Directory => "Directory"
  | .Symlink => "Symlink"
  | .Link => "Link"
  | .Special kind => kind

structure TarEntry where
  entry_type : EntryType
  path : Except String String
  size : Option UInt64

/-- An archive in its format: what its reader fails with, or its entries in their
order, each with what reading it fails with. -/
inductive Archive
  | Zip (entries : Except String (List (Except String ZipEntry)))
  | Tar (entries : Except String (List (Except String TarEntry)))
  | TarGz (entries : Except String (List (Except String TarEntry)))

structure UnpackReport where
  files : Nat
  bytes : UInt64
deriving DecidableEq

/-! ### The guard of an entry -/

/-- A backslash is a separator. -/
def normalised (raw : String) : String := .ofList (raw.toList.map fun c => if c = '\\' then '/' else c)

/-- What a path names, the current directories in it left out. -/
def named_parts (path : List Component) : List Component := path.filter fun c => c ≠ .CurDir

/-- An entry's path inside the destination. -/
def safe_relative (raw : String) (dest : List Component) : Except HostError (List Component) :=
  let rel := normalised raw
  if .ParentDir ∈ components rel ∨ .RootDir ∈ components rel then
    .error (.Archive ("entry escapes the workspace: " ++ raw))
  else if rel = "" then .error (.Archive "entry has no name")
  else if (rel.toList.splitOn '/').head? = some HOST_STATE_DIR.toList then
    .error (.Archive ("entry is the host's own state, not project content: " ++ raw))
  else .ok (dest ++ named_parts (components rel))

def is_link_mode (mode : Option UInt32) : Bool :=
  match mode with
  | some mode => mode &&& 0o170000 == 0o120000
  | none => false

/-- An entry that may be unpacked: a directory, or a file of a size. -/
inductive Admitted
  | Directory (name : String) (out : List Component)
  | File (name : String) (out : List Component) (size : UInt64)

def admit_zip (dest : List Component) (entry : ZipEntry) : Except HostError Admitted :=
  if entry.is_dir then (safe_relative entry.name dest).map (.Directory entry.name)
  else if is_link_mode entry.unix_mode then
    .error (.Archive ("entry is a link, which an import does not follow: " ++ entry.name))
  else (safe_relative entry.name dest).map fun out => .File entry.name out entry.size

def admit_tar (dest : List Component) (entry : TarEntry) : Except HostError Admitted :=
  match entry.entry_type with
  | .Symlink => .error (.Archive "entry is a link, which an import does not follow")
  | .Link => .error (.Archive "entry is a link, which an import does not follow")
  | .Special kind => .error (.Archive ("entry is not a file or a directory (" ++ kind ++ ")"))
  | .Directory =>
    match entry.path with
    | .error e => .error (.Archive ("cannot read entry path: " ++ e))
    | .ok name => (safe_relative name dest).map (.Directory name)
  | .Regular =>
    match entry.path with
    | .error e => .error (.Archive ("cannot read entry path: " ++ e))
    | .ok name => (safe_relative name dest).map fun out => .File name out (entry.size.getD 0)

/-! ### Unpacking -/

/-- What the file system answers while one entry is unpacked: to the directories
made for it, whether its file is there, and to the three steps of writing it. -/
structure Outcome where
  parents : Option String
  there : Bool
  create : Option String
  copy : Option String
  rename : Option String

def file_name (out : List Component) : String :=
  match out.getLast? with
  | some (.Normal name) => name
  | _ => display out

/-- The stem of a name, a dot and its extension, which may be none. -/
def dotted (name : String) : String :=
  match rsplit_once '.' name.toList with
  | some (before, after) => if before = [] then name ++ "." else .ofList before ++ "." ++ .ofList after
  | none => name ++ "."

/-- The file next to the target that is renamed to it. -/
def part_file (out : List Component) : List Component :=
  match out.getLast? with
  | some (.Normal name) => out.dropLast ++ [.Normal (dotted name ++ ".part")]
  | _ => out

/-- The files that were created or overwritten, and what came of it. -/
abbrev Written (α : Type) : Type := List (List Component) × Except HostError α

def write_entry (answer : Outcome) (force : Bool) (out : List Component) : Written Unit :=
  match answer.parents with
  | some e => ([], .error (.Io e))
  | none =>
    if answer.there && !force then ([], .error (.WorkspaceEntryExists (file_name out))) else
    match answer.create, answer.copy, answer.rename with
    | some e, _, _ => ([], .error (.Io e))
    | none, some e, _ => ([part_file out], .error (.Io e))
    | none, none, some e => ([part_file out], .error (.Io e))
    | none, none, none => ([part_file out, out], .ok ())

def check_unpacked (report : UnpackReport) : Except HostError Unit :=
  if MAX_UNPACKED_BYTES < report.bytes then
    .error (.Archive ("the archive unpacks to more than " ++ toString MAX_UNPACKED_BYTES ++ " bytes"))
  else .ok ()

section
variable {Entry : Type} (judge : Entry → Except HostError Admitted) (unreadable : Nat → String → HostError)
  (force : Bool) (answers : Nat → Outcome)

/-- The entries in their order, up to the first that is refused. -/
def unpack_entries (index : Nat) (report : UnpackReport) : List (Except String Entry) → Written UnpackReport
  | [] => ([], .ok report)
  | .error e :: _ => ([], .error (unreadable index e))
  | .ok entry :: rest =>
    match judge entry with
    | .error e => ([], .error e)
    | .ok (.Directory _ _) =>
      match (answers index).parents with
      | some e => ([], .error (.Io e))
      | none => unpack_entries (index + 1) report rest
    | .ok (.File _ out size) =>
      let (touched, result) := write_entry (answers index) force out
      let report : UnpackReport := ⟨report.files + 1, report.bytes + size⟩
      match result, check_unpacked report with
      | .error e, _ => (touched, .error e)
      | .ok (), .error e => (touched, .error e)
      | .ok (), .ok () =>
        let (later, result) := unpack_entries (index + 1) report rest
        (touched ++ later, result)

end

def unpack_zip (entries : Except String (List (Except String ZipEntry))) (dest : List Component) (force : Bool)
    (answers : Nat → Outcome) : Written UnpackReport :=
  match entries with
  | .error e => ([], .error (.Archive ("not a readable zip: " ++ e)))
  | .ok entries =>
    if MAX_ARCHIVE_ENTRIES < entries.length then
      ([], .error (.Archive ("the archive has " ++ toString entries.length ++ " entries, more than the " ++
        toString MAX_ARCHIVE_ENTRIES ++ " this host accepts")))
    else
      unpack_entries (admit_zip dest)
        (fun index e => .Archive ("cannot read entry " ++ toString index ++ ": " ++ e)) force answers 0 ⟨0, 0⟩ entries

def unpack_tar (entries : Except String (List (Except String TarEntry))) (dest : List Component) (force : Bool)
    (answers : Nat → Outcome) : Written UnpackReport :=
  match entries with
  | .error e => ([], .error (.Archive ("not a readable tar.gz: " ++ e)))
  | .ok entries =>
    unpack_entries (admit_tar dest) (fun _ e => .Archive ("cannot read tar entry: " ++ e)) force answers 0 ⟨0, 0⟩ entries

/-- A project brought in, the workspace made first. -/
def import_workspace (workspace_root : String) (archive : Archive) (force : Bool) (made : Option String)
    (answers : Nat → Outcome) : Written UnpackReport :=
  let dest := components workspace_root
  match made, archive with
  | some e, _ => ([], .error (.Io e))
  | none, .Zip entries => unpack_zip entries dest force answers
  | none, .Tar entries => unpack_tar entries dest force answers
  | none, .TarGz entries => unpack_tar entries dest force answers

/-! ### Exports -/

/-- A file written whole: not opened, or broken off after it was opened. -/
inductive FileWrite
  | Done
  | NotOpened (why : String)
  | BrokenOff (why : String)

def FileWrite.to (abs : List Component) {α : Type} (value : α) (failed : String → HostError) : FileWrite → Written α
  | .Done => ([abs], .ok value)
  | .NotOpened why => ([], .error (failed why))
  | .BrokenOff why => ([abs], .error (failed why))

/-- A path for reading, which is all that an export is checked for. -/
def check_export (workspace_root path : String) : Except HostError (List Component) :=
  match (WorkspacePolicy.new workspace_root).check_read path with
  | .error e => .error (.Policy e.display)
  | .ok abs => .ok abs

/-- The whole log, of so many events where the store can be read. -/
def export_audit_jsonl (workspace_root path : String) (all : Except String Nat) (write : FileWrite) : Written Nat :=
  match check_export workspace_root path, all with
  | .error e, _ => ([], .error e)
  | .ok _, .error e => ([], .error (.Audit e))
  | .ok abs, .ok events => write.to abs events .Audit

/-- One run's part of the log: the record of the run is looked up, then where it
ends, then the events up to there. -/
def export_run_audit (workspace_root run_id path : String) (get_run : Except String Bool) (run_end : Except String Int)
    (list : Except String Nat) (write : FileWrite) : Written Nat :=
  match check_export workspace_root path, get_run, run_end, list with
  | .error e, _, _, _ => ([], .error e)
  | .ok _, .error e, _, _ => ([], .error (.Audit e))
  | .ok _, .ok false, _, _ => ([], .error (.Other ("unknown run: " ++ run_id)))
  | .ok _, .ok true, .error e, _ => ([], .error (.Other e))
  | .ok _, .ok true, .ok _, .error e => ([], .error (.Audit e))
  | .ok abs, .ok true, .ok _, .ok events => write.to abs events .Audit

def export_serial_log (workspace_root path serial_buffer : String) (write : FileWrite) : Written Nat :=
  match check_export workspace_root path with
  | .error e => ([], .error e)
  | .ok abs => write.to abs serial_buffer.utf8ByteSize .Io

/-! ### The places that paths name -/

/-- The place a path names on the disk, seen from the working directory. -/
def named (cwd path : List Component) : List Component :=
  normalize (if path.head? = some .RootDir then path else cwd ++ path)

/-- The directory of the host's own state. -/
def state_dir (cwd : List Component) (workspace_root : String) : List Component :=
  named cwd (components workspace_root ++ [.Normal HOST_STATE_DIR])

/-- None of the files is the host's state directory or below it. -/
def SparesState (cwd : List Component) (workspace_root : String) (files : List (List Component)) : Prop :=
  ∀ file ∈ files, ¬ state_dir cwd workspace_root <+: named cwd file

def Plain (parts : List Component) : Prop := ∀ c ∈ parts, ∃ name, c = .Normal name

theorem normalize_append {path parts : List Component} (plain : Plain parts) :
    normalize (path ++ parts) = normalize path ++ parts := by
  induction parts generalizing path with
  | nil => simp
  | cons c parts ih =>
    obtain ⟨name, rfl⟩ := plain c List.mem_cons_self
    have rest : Plain parts := fun d inside => plain d (List.mem_cons_of_mem _ inside)
    have one : Agent.normalize (path ++ [.Normal name]) = Agent.normalize path ++ [.Normal name] := by
      simp [Agent.normalize, List.foldl_append, push]
    rw [← List.singleton_append, ← List.append_assoc, ih rest, one, List.append_assoc]

/-- Plain parts joined to a path are joined to the place it names. -/
theorem named_append (cwd path : List Component) {parts : List Component} (plain : Plain parts) :
    named cwd (path ++ parts) = named cwd path ++ parts := by
  cases path with
  | nil =>
    have relative : parts.head? ≠ some .RootDir := by
      intro absolute
      obtain ⟨name, other⟩ := plain _ (List.mem_of_mem_head? absolute)
      cases other
    simp only [named, List.nil_append, relative, if_false, List.head?_nil, List.append_nil, reduceCtorEq]
    exact normalize_append plain
  | cons c path =>
    unfold named
    by_cases absolute : c = .RootDir
    · rw [if_pos (by simp [absolute]), if_pos (by simp [absolute]), normalize_append plain]
    · rw [if_neg (by simp [absolute]), if_neg (by simp [absolute]), ← List.append_assoc, normalize_append plain]

theorem state_dir_eq (cwd : List Component) (workspace_root : String) :
    state_dir cwd workspace_root = named cwd (components workspace_root) ++ [.Normal HOST_STATE_DIR] :=
  named_append _ _ (by simp [Plain])

/-- Plain parts inside the workspace lie in the state directory when they start with its name. -/
theorem below_state (cwd : List Component) (workspace_root : String) {parts : List Component} (plain : Plain parts) :
    state_dir cwd workspace_root <+: named cwd (components workspace_root ++ parts) ↔
      parts.head? = some (.Normal HOST_STATE_DIR) := by
  rw [state_dir_eq, named_append _ _ plain, List.prefix_append_right_inj]
  cases parts with
  | nil => simp
  | cons c parts => simp [List.cons_prefix_cons, eq_comm]

/-! ### Names that slip past the guard -/

/-- A name that begins with the current directory and goes on with the host's own. -/
def Disguised (name : String) : Prop :=
  ((normalised name).toList.splitOn '/').head? = some ['.'] ∧
    (named_parts (components (normalised name))).head? = some (.Normal HOST_STATE_DIR)

instance (name : String) : Decidable (Disguised name) := inferInstanceAs (Decidable (_ ∧ _))

theorem splitOn_head_nil {text : List Char} (first : (text.splitOn '/').head? = some []) :
    text = [] ∨ text.head? = some '/' := by
  cases text with
  | nil => exact .inl rfl
  | cons c rest =>
    rw [List.splitOn_cons_eq_if_modifyHead] at first
    by_cases slash : (c == '/') = true
    · exact .inr (by simpa using slash)
    · rw [if_neg slash] at first
      cases parts : rest.splitOn '/' with
      | nil => exact absurd parts (List.splitOn_ne_nil _ _)
      | cons part parts => simp [parts] at first

/-- The first part of a relative path that climbs nowhere. -/
theorem components_first {path : String} {first : List Char} (head : (path.toList.splitOn '/').head? = some first)
    (relative : .RootDir ∉ components path) (stays : .ParentDir ∉ components path) (there : path ≠ "") :
    first = ['.'] ∨ (named_parts (components path)).head? = some (.Normal (.ofList first)) := by
  obtain ⟨rest, split⟩ : ∃ rest, path.toList.splitOn '/' = first :: rest := by
    cases parts : path.toList.splitOn '/' with
    | nil => exact absurd parts (List.splitOn_ne_nil _ _)
    | cons part later =>
      rw [parts, List.head?_cons, Option.some.injEq] at head
      exact ⟨later, by rw [head]⟩
  have not_absolute : is_absolute path = false := by
    by_contra absolute
    exact relative (by simp [components, absolute])
  have filled : first ≠ [] := by
    rintro rfl
    rcases splitOn_head_nil head with nothing | slash
    · exact there (String.toList_inj.mp (by simpa using nothing))
    · simp [is_absolute, slash] at not_absolute
  by_cases dot : first = ['.']
  · exact .inl dot
  · refine .inr ?_
    have climbs : first ≠ ['.', '.'] := by
      rintro rfl
      exact stays (by simp [components, not_absolute, split, Component.of_part])
    simp [components, not_absolute, split, Component.of_part, filled, dot, climbs, named_parts]

/-- What the guard lets through: plain parts inside the destination, which are in the
host's own directory for disguised names alone. -/
theorem safe_relative_ok {raw : String} {dest out : List Component} (passed : safe_relative raw dest = .ok out) :
    ∃ parts, out = dest ++ parts ∧ Plain parts ∧ (parts.head? = some (.Normal HOST_STATE_DIR) ↔ Disguised raw) := by
  unfold safe_relative at passed
  simp only at passed
  split_ifs at passed with escapes empty state
  obtain rfl := Except.ok.inj passed
  rw [not_or] at escapes
  refine ⟨_, rfl, ?_, fun inside => ⟨?_, inside⟩, fun disguised => disguised.2⟩
  · intro c inside
    obtain ⟨there, other⟩ := List.mem_filter.mp inside
    cases c with
    | Normal name => exact ⟨name, rfl⟩
    | CurDir => simp at other
    | RootDir => exact absurd there escapes.2
    | ParentDir => exact absurd there escapes.1
  · cases head : ((normalised raw).toList.splitOn '/').head? with
    | none => exact absurd (List.head?_eq_none_iff.mp head) (List.splitOn_ne_nil _ _)
    | some first =>
      rcases components_first head escapes.2 escapes.1 empty with rfl | plain
      · rfl
      · rw [plain, Option.some.injEq, Component.Normal.injEq] at inside
        exact absurd (by rw [head, ← inside, String.toList_ofList]) state

theorem part_name_ne (stem : String) : stem ++ ".part" ≠ HOST_STATE_DIR := by
  intro same
  have last := congrArg (fun s : String => s.toList.getLast?) same
  simp [HOST_STATE_DIR, String.toList_append, List.getLast?_append] at last

theorem part_file_concat (init : List Component) (name : String) :
    part_file (init ++ [.Normal name]) = init ++ [.Normal (dotted name ++ ".part")] := by simp [part_file]

/-- The place of the file next to a target is as deep as the target's. -/
theorem named_part_file (cwd out : List Component) : (named cwd (part_file out)).length = (named cwd out).length := by
  rcases List.eq_nil_or_concat' out with rfl | ⟨init, c, rfl⟩
  · rfl
  · cases c with
    | Normal name =>
      rw [part_file_concat, named_append _ _ (by simp [Plain]), named_append _ _ (by simp [Plain])]
      simp
    | RootDir | CurDir | ParentDir => simp [part_file]

/-- The file next to a target outside the state directory is outside as well. -/
theorem part_file_spares {cwd parts : List Component} {workspace_root : String} (plain : Plain parts)
    (outside : parts.head? ≠ some (.Normal HOST_STATE_DIR)) :
    ¬ state_dir cwd workspace_root <+: named cwd (part_file (components workspace_root ++ parts)) := by
  rcases List.eq_nil_or_concat' parts with rfl | ⟨init, c, rfl⟩
  · -- the target is the workspace itself, and the state directory lies deeper
    intro below
    have longer := below.length_le
    rw [state_dir_eq, List.append_nil, named_part_file, List.length_append, List.length_singleton] at longer
    omega
  · obtain ⟨name, rfl⟩ := plain c (by simp)
    have before : Plain init := fun d inside => plain d (by simp [inside])
    rw [← List.append_assoc, part_file_concat, List.append_assoc, below_state]
    · cases init with
      | nil => simpa using part_name_ne _
      | cons d init => simpa using outside
    · intro d inside
      rcases List.mem_append.mp inside with early | final
      · exact before d early
      · exact ⟨_, List.mem_singleton.mp final⟩

/-! ### Runs over the entries -/

section
variable {Entry : Type} {judge : Entry → Except HostError Admitted} {unreadable : Nat → String → HostError}
  {force : Bool} {cwd : List Component} {workspace_root : String}

/-- No file that is come to has a disguised name: those are come to before which no
entry is unreadable or refused, nor more than the ceiling is unpacked. -/
def NoneDisguised (judge : Entry → Except HostError Admitted) : UInt64 → List (Except String Entry) → Prop
  | _, [] => True
  | _, .error _ :: _ => True
  | bytes, .ok entry :: rest =>
    match judge entry with
    | .error _ => True
    | .ok (.Directory _ _) => NoneDisguised judge bytes rest
    | .ok (.File name _ size) =>
      ¬ Disguised name ∧ (¬ MAX_UNPACKED_BYTES < bytes + size → NoneDisguised judge (bytes + size) rest)

/-- One file, whatever the file system answers: both paths it writes spare the state. -/
theorem write_entry_spares {name : String} {out : List Component} (answer : Outcome)
    (passed : safe_relative name (components workspace_root) = .ok out) (honest : ¬ Disguised name) :
    SparesState cwd workspace_root (write_entry answer force out).1 := by
  obtain ⟨parts, rfl, plain, inside⟩ := safe_relative_ok passed
  have outside : parts.head? ≠ some (.Normal HOST_STATE_DIR) := fun there => honest (inside.mp there)
  have target : ¬ state_dir cwd workspace_root <+: named cwd (components workspace_root ++ parts) := by
    rwa [below_state _ _ plain]
  have part := @part_file_spares cwd parts workspace_root plain outside
  unfold write_entry
  intro file there
  split at there
  · simp at there
  · split_ifs at there
    · simp at there
    · split at there
      · simp at there
      · exact List.mem_singleton.mp there ▸ part
      · exact List.mem_singleton.mp there ▸ part
      · rcases List.mem_pair.mp there with rfl | rfl
        · exact part
        · exact target

/-- Where everything succeeds, a file is written under its own name. -/
def willing : Outcome := ⟨none, false, none, none, none⟩

theorem write_entry_willing (force : Bool) (out : List Component) :
    write_entry willing force out = ([part_file out, out], .ok ()) := by simp [write_entry, willing]

/-- Every file that is let in is let in by the guard of names. -/
def Guarded (judge : Entry → Except HostError Admitted) (dest : List Component) : Prop :=
  ∀ entry name out size, judge entry = .ok (.File name out size) → safe_relative name dest = .ok out

theorem unpack_entries_spares (guarded : Guarded judge (components workspace_root)) (answers : Nat → Outcome)
    (index : Nat) (report : UnpackReport) (entries : List (Except String Entry))
    (honest : NoneDisguised judge report.bytes entries) :
    SparesState cwd workspace_root (unpack_entries judge unreadable force answers index report entries).1 := by
  induction entries generalizing index report with
  | nil => simp [unpack_entries, SparesState]
  | cons entry rest ih =>
    cases entry with
    | error e => simp [unpack_entries, SparesState]
    | ok entry =>
      cases admission : judge entry with
      | error e => simp [unpack_entries, admission, SparesState]
      | ok admitted =>
        cases admitted with
        | Directory name out =>
          simp only [NoneDisguised, admission] at honest
          cases made : (answers index).parents with
          | some e => simp [unpack_entries, admission, made, SparesState]
          | none =>
            simp only [unpack_entries, admission, made]
            exact ih _ _ honest
        | File name out size =>
          simp only [NoneDisguised, admission] at honest
          have spares := @write_entry_spares force cwd workspace_root name out (answers index)
            (guarded entry name out size admission) honest.1
          simp only [unpack_entries, admission]
          generalize write_entry (answers index) force out = written at spares ⊢
          obtain ⟨touched, result⟩ := written
          cases result with
          | error e => exact spares
          | ok _ =>
            by_cases full : MAX_UNPACKED_BYTES < report.bytes + size
            · simp only [check_unpacked, full, if_true]
              exact spares
            · simp only [check_unpacked, full, if_false]
              intro file inside
              rcases List.mem_append.mp inside with here | later
              · exact spares file here
              · exact ih _ _ (honest.2 full) file later

/-- Where everything succeeds, the first disguised file that is come to is written. -/
theorem unpack_entries_willing (guarded : Guarded judge (components workspace_root)) (index : Nat)
    (report : UnpackReport) (entries : List (Except String Entry))
    (spares : SparesState cwd workspace_root
      (unpack_entries judge unreadable force (fun _ => willing) index report entries).1) :
    NoneDisguised judge report.bytes entries := by
  induction entries generalizing index report with
  | nil => trivial
  | cons entry rest ih =>
    cases entry with
    | error e => trivial
    | ok entry =>
      cases admission : judge entry with
      | error e => simp [NoneDisguised, admission]
      | ok admitted =>
        cases admitted with
        | Directory name out =>
          simp only [NoneDisguised, admission]
          simp only [unpack_entries, admission, willing] at spares
          exact ih _ _ spares
        | File name out size =>
          simp only [NoneDisguised, admission]
          simp only [unpack_entries, admission, write_entry_willing] at spares
          constructor
          · intro disguised
            obtain ⟨parts, rfl, plain, inside⟩ := safe_relative_ok (guarded entry name out size admission)
            have below := (below_state cwd workspace_root plain).mpr (inside.mpr disguised)
            refine spares _ ?_ below
            cases check_unpacked ⟨report.files + 1, report.bytes + size⟩ <;> simp
          · intro room
            simp only [check_unpacked, room, if_false] at spares
            exact ih _ ⟨report.files + 1, report.bytes + size⟩ fun file inside =>
              spares file (List.mem_append_right _ inside)

end

theorem admit_zip_guarded (dest : List Component) : Guarded (admit_zip dest) dest := by
  intro entry name out size admission
  unfold admit_zip at admission
  split_ifs at admission
  · cases passed : safe_relative entry.name dest <;> simp [passed, Except.map] at admission
  · cases passed : safe_relative entry.name dest with
    | error e => simp [passed, Except.map] at admission
    | ok inside =>
      simp only [passed, Except.map, Except.ok.injEq, Admitted.File.injEq] at admission
      obtain ⟨rfl, rfl, _⟩ := admission
      exact passed

theorem admit_tar_guarded (dest : List Component) : Guarded (admit_tar dest) dest := by
  intro entry name out size admission
  unfold admit_tar at admission
  split at admission
  · cases admission
  · cases admission
  · cases admission
  · split at admission
    · cases admission
    · rename_i path _
      cases passed : safe_relative path dest <;> simp [passed, Except.map] at admission
  · split at admission
    · cases admission
    · rename_i path _
      cases passed : safe_relative path dest with
      | error e => simp [passed, Except.map] at admission
      | ok inside =>
        simp only [passed, Except.map, Except.ok.injEq, Admitted.File.injEq] at admission
        obtain ⟨rfl, rfl, _⟩ := admission
        exact passed

/-! ### The host's own state -/

/-- No file of the archive that is come to goes by a disguised name. -/
def Archive.Honest (workspace_root : String) : Archive → Prop
  | .Zip (.ok entries) => entries.length ≤ MAX_ARCHIVE_ENTRIES → NoneDisguised (admit_zip (components workspace_root)) 0 entries
  | .Tar (.ok entries) => NoneDisguised (admit_tar (components workspace_root)) 0 entries
  | .TarGz (.ok entries) => NoneDisguised (admit_tar (components workspace_root)) 0 entries
  | _ => True

/-- A path taken against the root of the workspace. -/
def against (root : List Component) (path : String) : List Component :=
  normalize (if is_absolute path then components path else root ++ components path)

/-- A path that climbs nowhere, stays inside the workspace and leads into the state directory. -/
structure ReachesState (cwd : List Component) (workspace_root path : String) : Prop where
  stays : .ParentDir ∉ components path
  inside : (WorkspacePolicy.new workspace_root).root <+: against (WorkspacePolicy.new workspace_root).root path
  state : state_dir cwd workspace_root <+: named cwd (against (WorkspacePolicy.new workspace_root).root path)

/-- What an export is checked for, and the path it then writes. -/
theorem check_export_ok {workspace_root path : String} {abs : List Component} :
    check_export workspace_root path = .ok abs ↔
      .ParentDir ∉ components path ∧ (WorkspacePolicy.new workspace_root).root <+: abs ∧
        abs = against (WorkspacePolicy.new workspace_root).root path := by
  unfold check_export WorkspacePolicy.check_read WorkspacePolicy.resolve
  have resolved : (if is_absolute path then normalize (components path)
      else normalize ((WorkspacePolicy.new workspace_root).root ++ components path)) =
      against (WorkspacePolicy.new workspace_root).root path := by
    unfold against
    split_ifs <;> rfl
  simp only [resolved]
  by_cases climbs : .ParentDir ∈ components path
  · simp [climbs]
  · by_cases inside : (WorkspacePolicy.new workspace_root).root <+: against (WorkspacePolicy.new workspace_root).root path
    · rw [if_neg climbs, if_pos (List.isPrefixOf_iff_prefix.mpr inside)]
      constructor
      · intro passed
        obtain rfl := Except.ok.inj passed
        exact ⟨climbs, inside, rfl⟩
      · rintro ⟨_, _, rfl⟩
        rfl
    · rw [if_neg climbs, if_neg (fun held => inside (List.isPrefixOf_iff_prefix.mp held))]
      constructor
      · intro passed
        cases passed
      · rintro ⟨_, held, rfl⟩
        exact absurd held inside

/-- An export writes the path that passed its check, if anything. -/
theorem spares_export {cwd : List Component} {workspace_root path : String} {Answers : Type}
    {export_file : Answers → List (List Component)}
    (writes : ∀ answers, ∀ file ∈ export_file answers, check_export workspace_root path = .ok file)
    (opened : ∀ abs, check_export workspace_root path = .ok abs → ∃ answers, abs ∈ export_file answers) :
    (∀ answers, SparesState cwd workspace_root (export_file answers)) ↔ ¬ ReachesState cwd workspace_root path := by
  constructor
  · rintro spares ⟨stays, inside, state⟩
    obtain ⟨answers, written⟩ := opened _ (check_export_ok.mpr ⟨stays, inside, rfl⟩)
    exact spares answers _ written state
  · intro outside answers file written state
    obtain ⟨stays, inside, rfl⟩ := check_export_ok.mp (writes answers file written)
    exact outside ⟨stays, inside, state⟩

theorem mem_to {α : Type} {write : FileWrite} {abs file : List Component} {value : α} {failed : String → HostError}
    (inside : file ∈ (write.to abs value failed).1) : file = abs := by
  cases write with
  | NotOpened why => simp [FileWrite.to] at inside
  | Done | BrokenOff => exact List.mem_singleton.mp inside

theorem import_spares (cwd : List Component) (workspace_root : String) (archive : Archive) (force : Bool) :
    (∀ made answers, SparesState cwd workspace_root (import_workspace workspace_root archive force made answers).1) ↔
      archive.Honest workspace_root := by
  have zip := admit_zip_guarded (components workspace_root)
  have tar := admit_tar_guarded (components workspace_root)
  constructor
  · intro spares
    have willingly := spares none fun _ => willing
    match archive with
    | .Zip (.error e) => trivial
    | .Tar (.error e) => trivial
    | .TarGz (.error e) => trivial
    | .Zip (.ok entries) =>
      intro few
      simp only [import_workspace, unpack_zip, Nat.not_lt.mpr few, if_false] at willingly
      exact unpack_entries_willing zip 0 ⟨0, 0⟩ entries willingly
    | .Tar (.ok entries) => exact unpack_entries_willing tar 0 ⟨0, 0⟩ entries willingly
    | .TarGz (.ok entries) => exact unpack_entries_willing tar 0 ⟨0, 0⟩ entries willingly
  · intro honest made answers
    cases made with
    | some e => simp [import_workspace, SparesState]
    | none =>
      match archive with
      | .Zip (.error e) => simp [import_workspace, unpack_zip, SparesState]
      | .Tar (.error e) => simp [import_workspace, unpack_tar, SparesState]
      | .TarGz (.error e) => simp [import_workspace, unpack_tar, SparesState]
      | .Zip (.ok entries) =>
        by_cases many : MAX_ARCHIVE_ENTRIES < entries.length
        · simp [import_workspace, unpack_zip, many, SparesState]
        · simp only [import_workspace, unpack_zip, many, if_false]
          exact unpack_entries_spares zip answers 0 ⟨0, 0⟩ entries (honest (Nat.not_lt.mp many))
      | .Tar (.ok entries) => exact unpack_entries_spares tar answers 0 ⟨0, 0⟩ entries honest
      | .TarGz (.ok entries) => exact unpack_entries_spares tar answers 0 ⟨0, 0⟩ entries honest

section
variable {workspace_root path : String} {file : List Component} {write : FileWrite}

theorem export_audit_writes {all : Except String Nat}
    (inside : file ∈ (export_audit_jsonl workspace_root path all write).1) : check_export workspace_root path = .ok file := by
  unfold export_audit_jsonl at inside
  cases passed : check_export workspace_root path with
  | error e =>
    rw [passed] at inside
    cases inside
  | ok abs =>
    rw [passed] at inside
    cases all with
    | error e => cases inside
    | ok events => rw [mem_to inside]

theorem export_run_writes {run_id : String} {get_run : Except String Bool} {run_end : Except String Int}
    {list : Except String Nat} (inside : file ∈ (export_run_audit workspace_root run_id path get_run run_end list write).1) :
    check_export workspace_root path = .ok file := by
  unfold export_run_audit at inside
  cases passed : check_export workspace_root path with
  | error e =>
    rw [passed] at inside
    cases inside
  | ok abs =>
    rw [passed] at inside
    match get_run, run_end, list with
    | .error e, _, _ => cases inside
    | .ok false, _, _ => cases inside
    | .ok true, .error e, _ => cases inside
    | .ok true, .ok last, .error e => cases inside
    | .ok true, .ok last, .ok events => rw [mem_to inside]

theorem export_serial_writes {serial_buffer : String}
    (inside : file ∈ (export_serial_log workspace_root path serial_buffer write).1) :
    check_export workspace_root path = .ok file := by
  unfold export_serial_log at inside
  cases passed : check_export workspace_root path with
  | error e =>
    rw [passed] at inside
    cases inside
  | ok abs =>
    rw [passed] at inside
    rw [mem_to inside]

end

/-- An import spares the host's own state, whatever the file system answers, exactly
where no file that is come to has a disguised name; an export, exactly where its
path does not lead there, for which it is not checked. -/
theorem spares_state (cwd : List Component) (workspace_root : String) :
    (∀ archive force, (∀ made answers,
        SparesState cwd workspace_root (import_workspace workspace_root archive force made answers).1) ↔
      archive.Honest workspace_root) ∧
    (∀ path, (∀ all write, SparesState cwd workspace_root (export_audit_jsonl workspace_root path all write).1) ↔
      ¬ ReachesState cwd workspace_root path) ∧
    (∀ run_id path, (∀ get_run run_end list write, SparesState cwd workspace_root
        (export_run_audit workspace_root run_id path get_run run_end list write).1) ↔
      ¬ ReachesState cwd workspace_root path) ∧
    (∀ path serial_buffer, (∀ write, SparesState cwd workspace_root
        (export_serial_log workspace_root path serial_buffer write).1) ↔
      ¬ ReachesState cwd workspace_root path) := by
  refine ⟨import_spares cwd workspace_root, fun path => ?_, fun run_id path => ?_, fun path serial_buffer => ?_⟩
  · rw [← @spares_export cwd workspace_root path (Except String Nat × FileWrite)
      (fun a => (export_audit_jsonl workspace_root path a.1 a.2).1) (fun _ _ => export_audit_writes)
      (fun abs passed => ⟨(.ok 0, .Done), by unfold export_audit_jsonl; rw [passed]; exact List.mem_singleton_self abs⟩)]
    exact ⟨fun spares a => spares a.1 a.2, fun spares all write => spares (all, write)⟩
  · rw [← @spares_export cwd workspace_root path (Except String Bool × Except String Int × Except String Nat × FileWrite)
      (fun a => (export_run_audit workspace_root run_id path a.1 a.2.1 a.2.2.1 a.2.2.2).1) (fun _ _ => export_run_writes)
      (fun abs passed => ⟨(.ok true, .ok 0, .ok 0, .Done), by unfold export_run_audit; rw [passed]; exact List.mem_singleton_self abs⟩)]
    exact ⟨fun spares a => spares a.1 a.2.1 a.2.2.1 a.2.2.2,
      fun spares get_run run_end list write => spares (get_run, run_end, list, write)⟩
  · rw [← @spares_export cwd workspace_root path FileWrite
      (fun a => (export_serial_log workspace_root path serial_buffer a).1) (fun _ _ => export_serial_writes)
      (fun abs passed => ⟨.Done, by unfold export_serial_log; rw [passed]; exact List.mem_singleton_self abs⟩)]

/-- An archive whose one entry names the log of the host from the current directory
on, and an export to the path of that log. -/
theorem log_overwritten :
    ¬ SparesState [.RootDir] "/work" (import_workspace "/work"
      (.Zip (.ok [.ok ⟨"./.riscdom/audit.db", false, none, 4⟩])) true none fun _ => ⟨none, true, none, none, none⟩).1 ∧
    ¬ SparesState [.RootDir] "/work" (export_audit_jsonl "/work" ".riscdom/audit.db" (.ok 1) .Done).1 ∧
    ¬ SparesState [.RootDir] "/work" (export_run_audit "/work" "run-1" ".riscdom/audit.db" (.ok true) (.ok 1) (.ok 1) .Done).1 ∧
    ¬ SparesState [.RootDir] "/work" (export_serial_log "/work" "/work/.riscdom/audit.db" "ok" .Done).1 := by
  unfold SparesState
  decide +kernel

end Riscdom.Workspace
