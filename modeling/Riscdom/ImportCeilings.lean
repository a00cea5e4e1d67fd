import Riscdom.WorkspaceImports

/-!
What an import has written, counted beside it: entries, files and bytes. A zip is
refused for the number of its entries; the bytes are counted as the headers say, and
looked at after they were written.
-/
namespace Riscdom.WorkspaceIo
open Riscdom.FileTree Riscdom.Fallible Fallible.Act
open Riscdom.Workspace (HostError UnpackReport MAX_ARCHIVE_ENTRIES MAX_UNPACKED_BYTES check_unpacked)

/-- What has been written: entries to their end, files among them, and bytes, whatever became of their file. -/
structure Ledger where
  entries : Nat
  files : Nat
  bytes : Nat
deriving DecidableEq

def Ledger.add (l more : Ledger) : Ledger := ⟨l.entries + more.entries, l.files + more.files, l.bytes + more.bytes⟩

/-- The size in the header of an entry. -/
def Job.declared : Job → UInt64
  | .Directory _ _ => 0
  | .File _ _ size _ _ => size

/-- How many bytes an entry holds. -/
def Job.holds : Job → Nat
  | .Directory _ _ => 0
  | .File _ _ _ content _ => content.length

def Archive.is_zip : Archive → Bool
  | .Zip _ => true
  | _ => false

namespace Setting
variable (s : Setting) (force : Bool)

/-- The file that an entry's bytes come to be written to, just opened. -/
def opened (out : Loc) (ending : Ending) (t : Tree) : Option (Nat × Tree) :=
  match create_dir_all out.dropLast t with
  | (.error _, _) => none
  | (.ok _, u) =>
    if stands u out ending && !force then none
    else
      match create_file (tmp out) u with
      | (.error _, _) => none
      | (.ok inode, v) => some (inode, v)

/-- A directory can be made; a file can be opened, its bytes read to their end, and its name given to it. -/
def CanWrite (t : Tree) : Job → Prop
  | .Directory out ending => (make_dir out ending t).1.isOk
  | .File out ending _ content broken => broken = none ∧ ∃ inode v, opened force out ending t = some (inode, v) ∧
      (rename_to (tmp out) out ending (v.write inode content)).1.isOk

/-- The entry's bytes come to be written. -/
def CanOpen (t : Tree) : Job → Prop
  | .Directory _ _ => False
  | .File out ending _ _ _ => (opened force out ending t).isSome

/-- What an entry adds. A file is written to its end where its bytes are, and it has its name. -/
def adds (t : Tree) : Job → Ledger
  | .Directory out ending => if (make_dir out ending t).1.isOk then ⟨1, 0, 0⟩ else ⟨0, 0, 0⟩
  | .File out ending _ content broken =>
    let whole := if (s.write_entry force out ending content broken t).1.isOk then 1 else 0
    ⟨whole, whole, if (opened force out ending t).isSome then content.length else 0⟩

/-- What has been written when the import ends. -/
def ledger : Ledger → Tree → UnpackReport → List (Except HostError Job) → Ledger
  | l, _, _, [] => l
  | l, _, _, .error _ :: _ => l
  | l, t, report, .ok job :: rest =>
    match s.unpack_job force report job t with
    | (.ok further, u) => ledger (l.add (s.adds force t job)) u further rest
    | (.error _, _) => l.add (s.adds force t job)

/-- What is written stays below the ceilings after every number of entries, hence while one is copied; and the report of
    an import that ends well tells what was written. -/
def Within (l : Ledger) (t : Tree) (report : UnpackReport) (jobs : List (Except HostError Job)) : Prop :=
  (∀ count, (s.ledger force l t report (jobs.take count)).entries ≤ MAX_ARCHIVE_ENTRIES ∧
    (s.ledger force l t report (jobs.take count)).bytes ≤ MAX_UNPACKED_BYTES.toNat) ∧
  ∀ told u, s.unpack_jobs force report jobs t = (.ok told, u) →
    told.files = (s.ledger force l t report jobs).files ∧ told.bytes.toNat = (s.ledger force l t report jobs).bytes

/-- An import within the ceilings. -/
def KeepsCeilings (archive : Archive) (t : Tree) : Prop :=
  ∀ u jobs, create_dir_all s.dest t = (.ok (), u) → archive.jobs s.dest = .ok jobs → s.Within force ⟨0, 0, 0⟩ u ⟨0, 0⟩ jobs

/-! ### What every entry has to leave room for -/

/-- After so many entries, of so many bytes, and so many by their headers: where the entries are not counted, the last one
    that can be written is still below the ceiling; the bytes of every entry that can be opened fit into what is left; and
    the sizes in the headers, once all entries are written, sum up to the bytes. -/
def Fits (counted : Bool) (count bytes : Nat) (declared : UInt64) :
    Tree → UnpackReport → List (Except HostError Job) → Prop
  | _, _, [] => declared.toNat = bytes
  | t, report, read :: rest => ∀ job, read = .ok job →
      (counted = false → CanWrite force t job → count < MAX_ARCHIVE_ENTRIES) ∧
        (CanOpen force t job → bytes + job.holds ≤ MAX_UNPACKED_BYTES.toNat) ∧
        ∀ further u, s.unpack_job force report job t = (.ok further, u) →
          Fits counted (count + 1) (bytes + job.holds) (declared + job.declared) u further rest

section Ceilings
variable {s force} {t u : Tree} {report further : UnpackReport} {job : Job}

/-- An entry is written to its end just where the file system lets it. -/
theorem write_entry_isOk {out : Loc} {ending : Ending} {size : UInt64} {content : List UInt8} {broken : Option String} :
    (s.write_entry force out ending content broken t).1.isOk ↔ CanWrite force t (.File out ending size content broken) := by
  rw [write_entry, bind_run, io, CanWrite, opened]
  cases create_dir_all out.dropLast t with
  | mk result u =>
    cases result with
    | error error => simp [Except.mapError, Except.isOk, Except.toBool]
    | ok _ =>
      simp only [Except.mapError]
      rw [bind_run, get_run]
      by_cases refused : (stands u out ending && !force) = true
      · simp [refused, Except.isOk, Except.toBool]
      · simp only [refused]
        rw [if_neg (by simp), if_neg (by simp), bind_run, io]
        cases create_file (tmp out) u with
        | mk file v =>
          cases file with
          | error error => simp [Except.mapError, Except.isOk, Except.toBool]
          | ok inode =>
            simp only [Except.mapError]
            rw [bind_run, attempt_run, io, copy_to]
            cases broken with
            | some message => simp [written, Except.mapError, bind_run, Except.isOk, Except.toBool]
            | none =>
              simp only [written, Except.mapError]
              rw [bind_run, attempt_run, io]
              cases moved : rename_to (tmp out) out ending (v.write inode content) with
              | mk done w => cases done <;> simp [moved, Except.mapError, bind_run, Except.isOk, Except.toBool]

section Room
variable (s force) (l : Ledger) (t : Tree)

/-- There is room for one more entry, if it can be written. -/
theorem room_for_entry (job : Job) (below : l.entries ≤ MAX_ARCHIVE_ENTRIES) :
    (l.add (s.adds force t job)).entries ≤ MAX_ARCHIVE_ENTRIES ↔ (CanWrite force t job → l.entries < MAX_ARCHIVE_ENTRIES) := by
  cases job with
  | Directory out ending =>
    rw [adds, CanWrite, Ledger.add]
    by_cases made : (make_dir out ending t).1.isOk = true
    · simp only [made, if_true, forall_const]
      omega
    · simp [made, below]
  | File out ending size content broken =>
    rw [adds, Ledger.add, ← @write_entry_isOk s force t out ending size content broken]
    by_cases wrote : (s.write_entry force out ending content broken t).1.isOk = true
    · simp only [wrote, if_true, forall_const]
      omega
    · simp [wrote, below]

/-- There is room for the bytes of an entry, if it can be opened. -/
theorem room_for_bytes (job : Job) (below : l.bytes ≤ MAX_UNPACKED_BYTES.toNat) :
    (l.add (s.adds force t job)).bytes ≤ MAX_UNPACKED_BYTES.toNat ↔
      (CanOpen force t job → l.bytes + job.holds ≤ MAX_UNPACKED_BYTES.toNat) := by
  cases job with
  | Directory out ending =>
    rw [adds, CanOpen, Ledger.add]
    by_cases made : (make_dir out ending t).1.isOk = true <;> simp [made, below]
  | File out ending size content broken =>
    rw [adds, CanOpen, Ledger.add, Job.holds]
    by_cases open_there : (opened force out ending t).isSome = true
    · simp [open_there]
    · simp [open_there, below]

end Room

/-- What an entry that is written to its end adds. -/
theorem adds_of_ok (done : s.unpack_job force report job t = (.ok further, u)) :
    (s.adds force t job).entries = 1 ∧ (s.adds force t job).bytes = job.holds := by
  cases job with
  | Directory out ending =>
    rw [unpack_job, bind_eq_ok] at done
    obtain ⟨_, v, made, -⟩ := done
    rw [io] at made
    cases dirs : make_dir out ending t with
    | mk result w =>
      rw [dirs] at made
      cases result with
      | error error => cases made
      | ok _ =>
        rw [adds, dirs]
        exact ⟨rfl, rfl⟩
  | File out ending size content broken =>
    rw [unpack_job, bind_eq_ok] at done
    obtain ⟨_, v, wrote, -⟩ := done
    have isOk : (s.write_entry force out ending content broken t).1.isOk = true := by
      rw [wrote]
      rfl
    obtain ⟨-, inode, w, file, -⟩ := (@write_entry_isOk s force t out ending size content broken).mp isOk
    simp only [adds, isOk, file]
    exact ⟨rfl, rfl⟩

/-- What the report gains with an entry. -/
theorem unpack_job_report (done : s.unpack_job force report job t = (.ok further, u)) :
    further.files = report.files + (s.adds force t job).files ∧ further.bytes = report.bytes + job.declared := by
  cases job with
  | Directory out ending =>
    rw [unpack_job, bind_eq_ok] at done
    obtain ⟨_, v, -, returned⟩ := done
    cases returned
    refine ⟨?_, (UInt64.add_zero _).symm⟩
    rw [adds]
    split <;> rfl
  | File out ending size content broken =>
    rw [unpack_job, bind_eq_ok] at done
    obtain ⟨_, v, wrote, rest⟩ := done
    rw [bind_eq_ok] at rest
    obtain ⟨_, w, -, returned⟩ := rest
    cases returned
    refine ⟨?_, rfl⟩
    simp only [adds, wrote]
    rfl

theorem ledger_error (l : Ledger) (t : Tree) (report : UnpackReport) (error : HostError) (rest : List (Except HostError Job))
    (count : Nat) : s.ledger force l t report ((.error error :: rest).take count) = l := by
  cases count <;> rfl

theorem unpack_jobs_cons (report : UnpackReport) (job : Job) (rest : List (Except HostError Job)) (t : Tree) :
    s.unpack_jobs force report (.ok job :: rest) t =
      match s.unpack_job force report job t with
      | (.ok further, u) => s.unpack_jobs force further rest u
      | (.error e, u) => (.error e, u) := by
  rw [unpack_jobs, bind_of_ok (ofExcept_run _ t), bind_run]
  cases s.unpack_job force report job t with
  | mk result u => cases result <;> rfl

/-- The ceilings where an entry is come to that fails: what it wrote is all that is written. -/
theorem within_of_error {l : Ledger} {e : HostError} (rest : List (Except HostError Job))
    (below : l.entries ≤ MAX_ARCHIVE_ENTRIES ∧ l.bytes ≤ MAX_UNPACKED_BYTES.toNat)
    (failed : s.unpack_job force report job t = (.error e, u)) :
    s.Within force l t report (.ok job :: rest) ↔
      (l.add (s.adds force t job)).entries ≤ MAX_ARCHIVE_ENTRIES ∧
        (l.add (s.adds force t job)).bytes ≤ MAX_UNPACKED_BYTES.toNat := by
  have ends (rest : List (Except HostError Job)) :
      s.ledger force l t report (.ok job :: rest) = l.add (s.adds force t job) := by rw [ledger, failed]
  constructor
  · intro within
    have first := within.1 1
    rwa [List.take_succ_cons, ends] at first
  · intro room
    refine ⟨fun count => ?_, fun told v done => ?_⟩
    · cases count with
      | zero => exact below
      | succ count => rwa [List.take_succ_cons, ends]
    · rw [unpack_jobs_cons, failed] at done
      cases done

/-- The ceilings where an entry is written: those of what comes after it. -/
theorem within_of_ok {l : Ledger} (rest : List (Except HostError Job))
    (below : l.entries ≤ MAX_ARCHIVE_ENTRIES ∧ l.bytes ≤ MAX_UNPACKED_BYTES.toNat)
    (done : s.unpack_job force report job t = (.ok further, u)) :
    s.Within force l t report (.ok job :: rest) ↔ s.Within force (l.add (s.adds force t job)) u further rest := by
  have goes_on (rest : List (Except HostError Job)) :
      s.ledger force l t report (.ok job :: rest) = s.ledger force (l.add (s.adds force t job)) u further rest := by
    rw [ledger, done]
  have runs : s.unpack_jobs force report (.ok job :: rest) t = s.unpack_jobs force further rest u := by
    rw [unpack_jobs_cons, done]
  constructor
  · rintro ⟨bounds, told⟩
    rw [goes_on, runs] at told
    refine ⟨fun count => ?_, told⟩
    have later := bounds (count + 1)
    rwa [List.take_succ_cons, goes_on] at later
  · rintro ⟨bounds, told⟩
    rw [Within, goes_on, runs]
    refine ⟨fun count => ?_, told⟩
    cases count with
    | zero => exact below
    | succ count =>
      rw [List.take_succ_cons, goes_on]
      exact bounds count

/-- What has been written already is below the ceilings of what is to come. -/
theorem Within.now {l : Ledger} {jobs : List (Except HostError Job)} (within : s.Within force l t report jobs) :
    l.entries ≤ MAX_ARCHIVE_ENTRIES ∧ l.bytes ≤ MAX_UNPACKED_BYTES.toNat := within.1 0

/-- The ceilings are kept where every entry that is come to fits. -/
theorem within_iff {counted : Bool} (jobs : List (Except HostError Job)) {l : Ledger} {declared : UInt64}
    (files : report.files = l.files) (bytes : report.bytes = declared)
    (below : l.entries ≤ MAX_ARCHIVE_ENTRIES ∧ l.bytes ≤ MAX_UNPACKED_BYTES.toNat)
    (room : counted = true → l.entries + jobs.length ≤ MAX_ARCHIVE_ENTRIES) :
    s.Within force l t report jobs ↔ s.Fits force counted l.entries l.bytes declared t report jobs := by
  induction jobs generalizing l declared t report with
  | nil =>
    constructor
    · intro within
      rw [Fits, ← bytes]
      exact (within.2 report t rfl).2
    · intro sums
      refine ⟨fun count => by rwa [List.take_nil], fun told u done => ?_⟩
      cases done
      exact ⟨files, bytes ▸ sums⟩
  | cons read rest ih =>
    cases read with
    | error error =>
      constructor
      · intro _ job never
        cases never
      · intro _
        refine ⟨fun count => by rwa [ledger_error], fun told u done => ?_⟩
        cases done
    | ok job =>
      have many := room_for_entry s force l t job below.1
      have much := room_for_bytes s force l t job below.2
      -- An entry of a zip was counted.
      have zip : counted = true → l.entries < MAX_ARCHIVE_ENTRIES := by
        intro counts
        have all := room counts
        rw [List.length_cons] at all
        omega
      have entry (fits : s.Fits force counted l.entries l.bytes declared t report (.ok job :: rest)) :
          (l.add (s.adds force t job)).entries ≤ MAX_ARCHIVE_ENTRIES ∧
            (l.add (s.adds force t job)).bytes ≤ MAX_UNPACKED_BYTES.toNat := by
        obtain ⟨entries, holds, -⟩ := fits job rfl
        refine ⟨many.mpr fun can => ?_, much.mpr holds⟩
        cases counted with
        | false => exact entries rfl can
        | true => exact zip rfl
      cases step : s.unpack_job force report job t with
      | mk result u =>
        cases result with
        | error e =>
          rw [within_of_error rest below step]
          constructor
          · rintro ⟨entries, holds⟩ _ same
            cases same
            refine ⟨fun _ => many.mp entries, much.mp holds, fun further v done => ?_⟩
            cases step.symm.trans done
          · exact entry
        | ok further =>
          rw [within_of_ok rest below step]
          obtain ⟨gained, size⟩ := unpack_job_report step
          obtain ⟨one, its⟩ := adds_of_ok step
          have next (below' : (l.add (s.adds force t job)).entries ≤ MAX_ARCHIVE_ENTRIES ∧
              (l.add (s.adds force t job)).bytes ≤ MAX_UNPACKED_BYTES.toNat) :
              s.Within force (l.add (s.adds force t job)) u further rest ↔
                s.Fits force counted (l.entries + 1) (l.bytes + job.holds) (declared + job.declared) u further rest := by
            rw [← one, ← its]
            refine ih ?_ ?_ below' ?_
            · rw [gained, files]
              rfl
            · rw [size, bytes]
            · intro counts
              have all := room counts
              rw [List.length_cons] at all
              simp only [Ledger.add]
              omega
          constructor
          · intro within
            have now := within.now
            rintro _ same
            cases same
            refine ⟨fun _ => many.mp now.1, much.mp now.2, fun more v done => ?_⟩
            cases step.symm.trans done
            exact (next now).mp within
          · intro fits
            obtain ⟨-, -, later⟩ := fits job rfl
            exact (next (entry fits)).mpr (later further u step)

end Ceilings

/-- What an import of a zip comes to is counted before. -/
theorem zip_room {dest : Loc} {archive : Archive} {jobs : List (Except HostError Job)} (zip : archive.is_zip = true)
    (read : archive.jobs dest = .ok jobs) : jobs.length ≤ MAX_ARCHIVE_ENTRIES := by
  cases archive with
  | Zip entries =>
    cases entries with
    | error e => cases read
    | ok entries =>
      rw [Archive.jobs, zip_jobs] at read
      by_cases many : MAX_ARCHIVE_ENTRIES < entries.length
      · rw [if_pos many] at read
        cases read
      · rw [if_neg many] at read
        cases read
        simpa using many
  | Tar _ => cases zip
  | TarGz _ => cases zip

/-- An import keeps the ceilings just where the entries it comes to fit: no more of a tar can be written than a zip may have;
    the bytes of a file that can be opened are no more than what is left; and the headers of a whole archive tell its bytes. -/
theorem keeps_ceilings_iff (force : Bool) (archive : Archive) (t : Tree) :
    s.KeepsCeilings force archive t ↔
      ∀ u jobs, create_dir_all s.dest t = (.ok (), u) → archive.jobs s.dest = .ok jobs →
        s.Fits force archive.is_zip 0 0 0 u ⟨0, 0⟩ jobs := by
  have each (u : Tree) (jobs : List (Except HostError Job)) (read : archive.jobs s.dest = .ok jobs) :
      s.Within force ⟨0, 0, 0⟩ u ⟨0, 0⟩ jobs ↔ s.Fits force archive.is_zip 0 0 0 u ⟨0, 0⟩ jobs := by
    refine within_iff jobs rfl rfl ⟨Nat.zero_le _, Nat.zero_le _⟩ ?_
    intro zip
    simpa using zip_room zip read
  constructor
  · intro keeps u jobs made read
    exact (each u jobs read).mp (keeps u jobs made read)
  · intro fits u jobs made read
    exact (each u jobs read).mpr (fits u jobs made read)

end Setting

/-- A zip with one file, whose header says that it is empty. -/
def empty_by_header : Archive := .Zip (.ok [.ok ⟨⟨"b.c", false, none, 0⟩, [2], none⟩])

/-- The import reports no byte, and one was written. -/
theorem header_lies : ¬ ∀ (s : Setting) (force : Bool) (archive : Archive) (t : Tree), s.KeepsCeilings force archive t := by
  intro keeps
  have only : empty_by_header.jobs workspace.dest = .ok [.ok (.File ["w", "b.c"] .Name 0 [2] none)] := by decide +kernel
  obtain ⟨-, told⟩ := keeps workspace false empty_by_header drafts drafts _ workspace_made only
  have ends : (workspace.unpack_jobs false ⟨0, 0⟩ [.ok (.File ["w", "b.c"] .Name 0 [2] none)] drafts).1 = .ok ⟨1, 0⟩ := by
    decide +kernel
  have wrote : (workspace.ledger false ⟨0, 0, 0⟩ drafts ⟨0, 0⟩ [.ok (.File ["w", "b.c"] .Name 0 [2] none)]).bytes = 1 := by
    decide +kernel
  obtain ⟨-, bytes⟩ := told ⟨1, 0⟩ _ (Prod.ext ends rfl)
  rw [wrote] at bytes
  cases bytes

end Riscdom.WorkspaceIo
