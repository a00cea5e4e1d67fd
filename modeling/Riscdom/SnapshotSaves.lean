import Riscdom.SnapshotNames

/-!
A snapshot on its way to its file: QEMU sends the stream over a local connection,
the receiver writes what it reads, and the migration is followed on another. Each
goes on at any time and may fail at any time; a file that was begun stays, also
when the save fails.
-/
namespace Riscdom.Sandbox
open Machine Agent Instances

abbrev Files := List Component → Option (List UInt8)

/-- The answers before anything is received: the directory is there, and a port can be had. -/
structure Asked where
  snapshot_dir : List Component
  create_dir_all : Except String Unit
  bind_local : Except SandboxError Unit

inductive Receiver
  | Waiting
  | Accepted
  | Receiving (total : Nat)
  | Done (received : Except SandboxError Nat)

/-- A save under way: what QEMU has sent on the connection that is received, what of it is not read yet, whether that
    connection is closed, what was sent on another after a second command, and how the migration came out. -/
structure Save where
  path : List Component
  files : Files
  receiver : Receiver
  sent : List UInt8
  unread : List UInt8
  closed : Bool
  again : Option (List UInt8)
  migrate_result : Option (Except SandboxError Unit)

inductive SaveAct
  | Send (bytes : List UInt8)
  | Close
  | Remigrate
  | Migrated (result : Except SandboxError Unit)
  | Accept (accepted : Except SandboxError Unit)
  | Create (created : Except String Unit)
  | Read (count : Nat) (written : Except (Nat × String) Unit)
  | EndOfStream (flushed : Except String Unit)
  | Pause (late : Bool) (flushed : Except String Unit)
  | Reset (why : String)

/-- A save that may begin: its directory is there, its file is not, and a port was bound. -/
def begin_save (asked : Asked) (files : Files) (name : String) : Except SandboxError Save :=
  match asked.create_dir_all with
  | .error why => .error (.Snapshot why)
  | .ok () =>
    let path := Instances.join asked.snapshot_dir (snapshot_file name SNAPSHOT_MIG_EXT)
    if (files path).isSome then
      .error (.Snapshot ("snapshot already exists: " ++ display path ++ " (refusing to overwrite)"))
    else
      match asked.bind_local with
      | .error error => .error error
      | .ok () => .ok ⟨path, files, .Waiting, [], [], false, none, none⟩

namespace Save

def write (s : Save) (bytes : List UInt8) : Files := Function.update s.files s.path (some ((s.files s.path).getD [] ++ bytes))

/-- The end of the loop: what was written is flushed. -/
def finish (s : Save) (total : Nat) (flushed : Except String Unit) : Save :=
  { s with receiver := .Done (match flushed with | .ok () => .ok total | .error why => .error (.Io why)) }

def step (s : Save) : SaveAct → Save
  | .Send bytes =>
    match s.again with
    | some elsewhere => { s with again := some (elsewhere ++ bytes) }
    | none => { s with sent := s.sent ++ bytes, unread := s.unread ++ bytes }
  | .Close => { s with closed := true }
  | .Remigrate => { s with again := some [] }
  | .Migrated result => { s with migrate_result := some result }
  | .Accept accepted =>
    match s.receiver, accepted with
    | .Waiting, .ok () => { s with receiver := .Accepted }
    | .Waiting, .error error => { s with receiver := .Done (.error error) }
    | _, _ => s
  | .Create created =>
    match s.receiver, created with
    | .Accepted, .ok () => { s with receiver := .Receiving 0, files := Function.update s.files s.path (some []) }
    | .Accepted, .error why => { s with receiver := .Done (.error (.Io why)) }
    | _, _ => s
  | .Read count written =>
    match s.receiver, written with
    | .Receiving total, .ok () =>
      { s with files := s.write (s.unread.take count), unread := s.unread.drop count, receiver := .Receiving (total + count) }
    | .Receiving _, .error (reached, why) =>
      { s with
        files := s.write ((s.unread.take count).take reached), unread := s.unread.drop count
        receiver := .Done (.error (.Io why)) }
    | _, _ => s
  | .EndOfStream flushed =>
    match s.receiver with
    | .Receiving total => s.finish total flushed
    | _ => s
  | .Pause late flushed =>
    match s.receiver with
    | .Receiving total =>
      -- the migration is over, so nothing more will come
      if s.migrate_result.isSome then s.finish total flushed
      else if late then
        { s with receiver := .Done (.error (.RelayTimeout
          ("receiving migration stream (got " ++ toString total ++ " bytes)"))) }
      else s
    | _ => s
  | .Reset why =>
    match s.receiver with
    | .Receiving _ => { s with receiver := .Done (.error (.Relay why)) }
    | _ => s

theorem step_path {s : Save} {a : SaveAct} : (s.step a).path = s.path := by
  cases a <;> simp only [step] <;> split <;> first | rfl | (split_ifs <;> rfl)

/-- What the save returns once the receiver and the migration are done. -/
def returned (s : Save) : Option (Except SandboxError Nat) :=
  match s.receiver, s.migrate_result with
  | .Done received, some (.ok ()) => some received
  | .Done _, some (.error error) => some (.error error)
  | _, _ => none

/-- The stream of the migration that was followed. -/
def stream (s : Save) : List UInt8 := s.again.getD s.sent

/-- What can happen next. What is sent over the local connection can be read at once, so a read waits only where nothing is
    left; and QEMU sends nothing after it has closed, or reported the migration complete. -/
def Possible (s : Save) : SaveAct → Prop
  | .Send _ => s.migrate_result ≠ some (.ok ()) ∧ (s.again = none → s.closed = false)
  | .Close => True
  | .Remigrate => s.migrate_result = none
  | .Migrated _ => s.migrate_result = none
  | .Accept _ => s.receiver = .Waiting
  | .Create _ => s.receiver = .Accepted
  | .Read count _ => (∃ total, s.receiver = .Receiving total) ∧ 0 < count ∧ count ≤ s.unread.length
  | .EndOfStream _ => (∃ total, s.receiver = .Receiving total) ∧ s.unread = [] ∧ s.closed = true
  | .Pause _ _ => (∃ total, s.receiver = .Receiving total) ∧ s.unread = [] ∧ s.closed = false
  | .Reset _ => ∃ total, s.receiver = .Receiving total

/-- The save's file is there. -/
def Begun (s : Save) : Prop := (s.files s.path).isSome

/-- A failure that leaves a file behind: of the receiver once its file is there, of the migration then, or a file begun after the
    migration failed. -/
def Strands (s : Save) : SaveAct → Prop
  | .Create (.ok ()) => ∃ error, s.migrate_result = some (.error error)
  | .Migrated (.error _) => s.Begun
  | .Read _ (.error _) => True
  | .EndOfStream (.error _) => True
  | .Pause late flushed => if s.migrate_result.isSome then flushed ≠ .ok () else late = true
  | .Reset _ => True
  | _ => False

end Save

/-- The save on the given course of events: what it returns, the files then, and the stream of the migration. -/
def save_snapshot_real (asked : Asked) (files : Files) (name : String) (acts : List SaveAct) :
    Option (Except SandboxError Nat × Files × List UInt8) :=
  match begin_save asked files name with
  | .error error => some (.error error, files, [])
  | .ok s =>
    let t := run Save.step s acts
    t.returned.map fun result => (result, t.files, t.stream)

/-- A failed save leaves the files as they were; a save that succeeds adds one, which holds the whole stream. -/
structure SavedRight (files : Files) (path : List Component) (result : Except SandboxError Nat) (after : Files)
    (stream : List UInt8) : Prop where
  failed : ∀ error, result = .error error → after = files
  saved : ∀ total, result = .ok total → after = Function.update files path (some stream)

/-! ### What a save does to the files -/

variable {files : Files} {s : Save} {a : SaveAct}

namespace Save

@[simp] theorem finish_path (total : Nat) (flushed : Except String Unit) : (s.finish total flushed).path = s.path := rfl

@[simp] theorem finish_files (total : Nat) (flushed : Except String Unit) : (s.finish total flushed).files = s.files := rfl

theorem write_begun (bytes : List UInt8) : (s.write bytes s.path).isSome := by simp [write]

/-- A file that was begun stays. -/
theorem step_begun (begun : s.Begun) : (s.step a).Begun := by
  have files_kept : (s.step a).files = s.files ∨ ((s.step a).files s.path).isSome := by
    cases a with
    | Create created => simp only [step]; split <;> simp
    | Read count written => simp only [step]; split <;> simp [write_begun]
    | Pause late flushed => simp only [step]; split <;> first | (split_ifs <;> simp) | simp
    | EndOfStream flushed => simp only [step]; split <;> simp
    | _ => simp only [step]; first | (split <;> simp) | simp
  rw [Begun, step_path]
  rcases files_kept with kept | there
  · rw [kept]
    exact begun
  · exact there

/-- A receiver that receives has its file. -/
def Opened (s : Save) : Prop := ∀ total, s.receiver = .Receiving total → s.Begun

theorem step_opened (opened : s.Opened) : (s.step a).Opened := by
  intro total receiving
  by_cases before : ∃ total, s.receiver = .Receiving total
  · obtain ⟨total, before⟩ := before
    exact step_begun (opened total before)
  · cases a with
    | Create created =>
      simp only [step] at receiving ⊢
      split at receiving <;> simp_all [Begun]
    | Read count written => simp only [step] at receiving; split at receiving <;> simp_all
    | EndOfStream flushed => simp only [step] at receiving; split at receiving <;> simp_all
    | Pause late flushed => simp only [step] at receiving; split at receiving <;> simp_all
    | Send bytes => simp only [step] at receiving; split at receiving <;> simp_all
    | Reset why => simp only [step] at receiving; split at receiving <;> simp_all
    | Accept accepted => simp only [step] at receiving; split at receiving <;> simp_all
    | Close => simp_all [step]
    | Remigrate => simp_all [step]
    | Migrated result => simp_all [step]

/-- The receiver or the migration has failed. -/
def Failed (s : Save) : Prop := (∃ error, s.receiver = .Done (.error error)) ∨ ∃ error, s.migrate_result = some (.error error)

/-- A failure is not taken back. -/
theorem step_failed (possible : s.Possible a) (failed : s.Failed) : (s.step a).Failed := by
  rcases failed with ⟨error, done⟩ | ⟨error, result⟩
  · left
    cases a with
    | Send bytes => simp only [step]; split <;> exact ⟨error, done⟩
    | _ => first | exact ⟨error, done⟩ | (simp only [step, done]; exact ⟨error, rfl⟩)
  · cases a with
    | Migrated other => simp [Possible, result] at possible
    | Send bytes => right; simp only [step]; split <;> exact ⟨error, result⟩
    | Pause late flushed => right; simp only [step]; split <;> first | (split_ifs <;> exact ⟨error, result⟩) | exact ⟨error, result⟩
    | Close => exact .inr ⟨error, result⟩
    | Remigrate => exact .inr ⟨error, result⟩
    | _ => right; simp only [step]; split <;> exact ⟨error, result⟩

/-- A failure that strands the file leaves it, and the save has failed. -/
theorem strands_spoils (opened : s.Opened) (possible : s.Possible a) (strands : s.Strands a) :
    (s.step a).Begun ∧ (s.step a).Failed := by
  cases a with
  | Create created =>
    cases created with
    | error why => cases strands
    | ok _ =>
      obtain ⟨error, result⟩ := strands
      have accepted : s.receiver = .Accepted := possible
      simp only [step, accepted]
      exact ⟨by simp [Begun], .inr ⟨error, result⟩⟩
  | Migrated result =>
    cases result with
    | ok _ => cases strands
    | error error => exact ⟨strands, .inr ⟨error, rfl⟩⟩
  | Read count written =>
    cases written with
    | ok _ => cases strands
    | error reached =>
      obtain ⟨⟨total, receiving⟩, -⟩ := possible
      refine ⟨step_begun (opened total receiving), .inl ⟨.Io reached.2, ?_⟩⟩
      simp only [step, receiving]
  | EndOfStream flushed =>
    cases flushed with
    | ok _ => cases strands
    | error why =>
      obtain ⟨⟨total, receiving⟩, -⟩ := possible
      refine ⟨step_begun (opened total receiving), .inl ⟨.Io why, ?_⟩⟩
      simp only [step, receiving, finish]
  | Pause late flushed =>
    obtain ⟨⟨total, receiving⟩, -⟩ := possible
    refine ⟨step_begun (opened total receiving), .inl ?_⟩
    simp only [Strands] at strands
    simp only [step, receiving]
    split_ifs at strands ⊢ with over_now
    · cases flushed with
      | ok _ => exact absurd rfl strands
      | error why => exact ⟨.Io why, rfl⟩
    · exact ⟨_, rfl⟩
  | Reset why =>
    obtain ⟨total, receiving⟩ := possible
    refine ⟨step_begun (opened total receiving), .inl ⟨.Relay why, ?_⟩⟩
    simp only [step, receiving]
  | _ => cases strands

/-- The file holds what was read of the stream, and the rest is still to be read. -/
def Holding (files : Files) (s : Save) : Prop :=
  ∃ file, s.files = Function.update files s.path (some file) ∧ file ++ s.unread = s.sent

/-- How a save stands that has not stranded its file. -/
def Sound (files : Files) (s : Save) : Prop :=
  match s.receiver with
  | .Waiting | .Accepted => s.files = files ∧ s.unread = s.sent
  | .Done (.error _) => s.files = files
  | .Receiving _ => s.Holding files ∧ ∀ error, s.migrate_result ≠ some (.error error)
  | .Done (.ok _) => (s.Holding files ∧ ∀ error, s.migrate_result ≠ some (.error error)) ∧
      s.unread = [] ∧ (s.closed = true ∨ s.migrate_result = some (.ok ()))

theorem Holding.begun (holding : s.Holding files) : s.Begun := by
  obtain ⟨file, held, -⟩ := holding
  simp [Begun, held]

/-- What is written goes from what is to be read to the end of the file. -/
theorem Holding.write {t : Save} (holding : s.Holding files) (count : Nat) (path : t.path = s.path)
    (written : t.files = s.write (s.unread.take count)) (unread : t.unread = s.unread.drop count) (sent : t.sent = s.sent) :
    t.Holding files := by
  obtain ⟨file, held, whole⟩ := holding
  refine ⟨file ++ s.unread.take count, ?_, ?_⟩
  · rw [written, path, Save.write, held, Function.update_self, Function.update_idem, Option.getD_some]
  · rw [unread, sent, List.append_assoc, List.take_append_drop, whole]

theorem sound_migrated {result : Except SandboxError Unit} (sound : s.Sound files) (possible : s.Possible (.Migrated result))
    (kept : ¬ s.Strands (.Migrated result)) : (s.step (.Migrated result)).Sound files := by
  have before : s.migrate_result = none := possible
  have steady : s.Holding files → ∀ error, some result ≠ some (.error error) := by
    rintro holding error same
    cases same
    exact kept holding.begun
  unfold Sound at sound ⊢
  simp only [step]
  cases receiver : s.receiver with
  | Waiting => simpa only [receiver] using sound
  | Accepted => simpa only [receiver] using sound
  | Receiving total =>
    simp only [receiver] at sound ⊢
    exact ⟨sound.1, steady sound.1⟩
  | Done received =>
    cases received with
    | error error => simpa only [receiver] using sound
    | ok total =>
      simp only [receiver] at sound ⊢
      obtain ⟨⟨holding, -⟩, all_read, finished⟩ := sound
      refine ⟨⟨holding, steady holding⟩, all_read, .inl ?_⟩
      rcases finished with closed | done
      · exact closed
      · rw [before] at done
        cases done

theorem sound_send {bytes : List UInt8} (sound : s.Sound files) (once : s.again = none) (possible : s.Possible (.Send bytes)) :
    (s.step (.Send bytes)).Sound files := by
  obtain ⟨running, opened⟩ := possible
  have more : s.Holding files →
      ({ s with sent := s.sent ++ bytes, unread := s.unread ++ bytes } : Save).Holding files := by
    rintro ⟨file, held, whole⟩
    exact ⟨file, held, by simp only; rw [← List.append_assoc, whole]⟩
  unfold Sound at sound ⊢
  simp only [step, once]
  cases receiver : s.receiver with
  | Waiting =>
    simp only [receiver] at sound ⊢
    exact ⟨sound.1, by rw [sound.2]⟩
  | Accepted =>
    simp only [receiver] at sound ⊢
    exact ⟨sound.1, by rw [sound.2]⟩
  | Receiving total =>
    simp only [receiver] at sound ⊢
    exact ⟨more sound.1, sound.2⟩
  | Done received =>
    cases received with
    | error error => simpa only [receiver] using sound
    | ok total =>
      simp only [receiver] at sound ⊢
      rcases sound.2.2 with closed | done
      · rw [opened once] at closed
        cases closed
      · exact absurd done running

theorem sound_created {created : Except String Unit} (sound : s.Sound files) (possible : s.Possible (.Create created))
    (kept : ¬ s.Strands (.Create created)) : (s.step (.Create created)).Sound files := by
  have accepted : s.receiver = .Accepted := possible
  simp only [Sound, accepted] at sound
  cases created with
  | error why =>
    simp only [Sound, step, accepted]
    exact sound.1
  | ok _ =>
    simp only [Sound, step, accepted]
    refine ⟨⟨[], ?_, ?_⟩, fun error failed => kept ⟨error, failed⟩⟩
    · rw [sound.1]
    · rw [List.nil_append, sound.2]

theorem sound_read {count : Nat} {written : Except (Nat × String) Unit} (sound : s.Sound files)
    (possible : s.Possible (.Read count written)) (kept : ¬ s.Strands (.Read count written)) :
    (s.step (.Read count written)).Sound files := by
  obtain ⟨⟨total, receiving⟩, -⟩ := possible
  simp only [Sound, receiving] at sound
  cases written with
  | error reached => exact absurd trivial kept
  | ok _ =>
    simp only [Sound, step, receiving]
    exact ⟨sound.1.write count rfl rfl rfl rfl, sound.2⟩

theorem sound_finished {flushed : Except String Unit} {total : Nat} (sound : s.Sound files)
    (receiving : s.receiver = .Receiving total) (written : flushed = .ok ()) (all_read : s.unread = [])
    (finished : s.closed = true ∨ s.migrate_result = some (.ok ())) : (s.finish total flushed).Sound files := by
  simp only [Sound, receiving] at sound
  subst written
  exact ⟨sound, all_read, finished⟩

theorem sound_paused {late : Bool} {flushed : Except String Unit} (sound : s.Sound files)
    (possible : s.Possible (.Pause late flushed)) (kept : ¬ s.Strands (.Pause late flushed)) :
    (s.step (.Pause late flushed)).Sound files := by
  obtain ⟨⟨total, receiving⟩, all_read, -⟩ := possible
  have steady : ∀ error, s.migrate_result ≠ some (.error error) := by
    simp only [Sound, receiving] at sound
    exact sound.2
  simp only [Strands] at kept
  simp only [step, receiving]
  split_ifs at kept ⊢ with over_now
  · refine sound_finished sound receiving (not_not.mp kept) all_read (.inr ?_)
    obtain ⟨result, reported⟩ := Option.isSome_iff_exists.mp over_now
    cases result with
    | ok _ => exact reported
    | error error => exact absurd reported (steady error)
  · exact sound

theorem sound_step (sound : s.Sound files) (once : s.again = none) (possible : s.Possible a) (kept : ¬ s.Strands a)
    (single : a ≠ .Remigrate) : (s.step a).Sound files := by
  cases a with
  | Send bytes => exact sound_send sound once possible
  | Remigrate => exact absurd rfl single
  | Migrated result => exact sound_migrated sound possible kept
  | Create created => exact sound_created sound possible kept
  | Read count written => exact sound_read sound possible kept
  | Pause late flushed => exact sound_paused sound possible kept
  | Reset why => exact absurd trivial kept
  | EndOfStream flushed =>
    obtain ⟨⟨total, receiving⟩, all_read, closed⟩ := possible
    simp only [step, receiving]
    cases flushed with
    | ok _ => exact sound_finished sound receiving rfl all_read (.inl closed)
    | error why => exact absurd trivial kept
  | Accept accepted =>
    have waiting : s.receiver = .Waiting := possible
    simp only [Sound, waiting] at sound
    simp only [step, waiting]
    cases accepted with
    | ok _ => exact sound
    | error error => exact sound.1
  | Close =>
    unfold Sound at sound ⊢
    simp only [step]
    cases receiver : s.receiver with
    | Done received =>
      cases received with
      | error error => simpa only [receiver] using sound
      | ok total =>
        simp only [receiver] at sound ⊢
        exact ⟨sound.1, sound.2.1, .inl trivial⟩
    | Receiving total =>
      simp only [receiver] at sound ⊢
      exact sound
    | _ => simpa only [receiver] using sound

theorem step_once (once : s.again = none) (single : a ≠ .Remigrate) : (s.step a).again = none := by
  cases a with
  | Remigrate => exact absurd rfl single
  | Send bytes => simp only [step, once]
  | Pause late flushed => simp only [step]; split <;> first | (split_ifs <;> exact once) | exact once
  | Close => exact once
  | Migrated result => exact once
  | _ => simp only [step]; split <;> exact once

end Save

/-! ### What the save returns -/

section
variable {asked : Asked} {name : String} {acts : List SaveAct} {result : Except SandboxError Nat} {after : Files}
  {sent : List UInt8}

theorem begin_save_ok (began : begin_save asked files name = .ok s) :
    s = ⟨Instances.join asked.snapshot_dir (snapshot_file name SNAPSHOT_MIG_EXT), files, .Waiting, [], [], false, none, none⟩ ∧
      files s.path = none := by
  unfold begin_save at began
  split at began
  · cases began
  · dsimp only at began
    split_ifs at began with taken
    split at began
    · cases began
    · cases began
      exact ⟨rfl, Option.not_isSome_iff_eq_none.mp taken⟩

/-- A sound save returns right. -/
theorem sound_returned {t : Save} (sound : t.Sound files) (once : t.again = none) (returned : t.returned = some result) :
    SavedRight files t.path result t.files t.stream := by
  unfold Save.returned at returned
  unfold Save.Sound at sound
  cases receiver : t.receiver with
  | Done received =>
    simp only [receiver] at returned sound
    cases received with
    | error error =>
      simp only at sound
      refine ⟨fun _ _ => sound, fun total saved => ?_⟩
      split at returned
      · rename_i same _
        cases same
        cases returned
        cases saved
      · cases returned
        cases saved
      · cases returned
    | ok total =>
      obtain ⟨⟨⟨file, held, whole⟩, steady⟩, all_read, -⟩ := sound
      rw [all_read, List.append_nil] at whole
      have stream : t.stream = file := by rw [Save.stream, once, Option.getD_none, whole]
      refine ⟨fun error failed => ?_, fun _ _ => by rw [held, stream]⟩
      split at returned
      · rename_i same _
        cases same
        cases returned
        cases failed
      · rename_i _ result
        exact absurd result (steady _)
      · cases returned
  | _ =>
    simp only [receiver] at returned
    cases returned

/-- A save that has failed with its file begun returns an error and leaves the file. -/
theorem spoilt_returned {t : Save} (vacant : files t.path = none) (begun : t.Begun) (failed : t.Failed)
    (returned : t.returned = some result) : ¬ SavedRight files t.path result t.files sent := by
  intro right
  have wrong : ∃ error, result = .error error := by
    unfold Save.returned at returned
    split at returned
    · rename_i received receiver migrated
      rcases failed with ⟨error, done⟩ | ⟨error, reported⟩
      · rw [receiver] at done
        cases done
        cases returned
        exact ⟨error, rfl⟩
      · rw [migrated] at reported
        cases reported
    · cases returned
      exact ⟨_, rfl⟩
    · cases returned
  obtain ⟨error, wrong⟩ := wrong
  have kept := right.failed error wrong
  rw [Save.Begun, kept, vacant] at begun
  cases begun

theorem run_path : (run Save.step s acts).path = s.path :=
  run_invariant (fun (t : Save) (_ : SaveAct) (kept : t.path = s.path) => Save.step_path.trans kept) rfl acts

/-- A run in which nothing strands the file leaves the save sound. -/
theorem run_sound (sound : s.Sound files) (once : s.again = none) (possible : Allowed Save.step Save.Possible s acts)
    (orderly : Allowed Save.step (fun s a => ¬ s.Strands a ∧ a ≠ .Remigrate) s acts) :
    (run Save.step s acts).Sound files ∧ (run Save.step s acts).again = none := by
  have both : Allowed Save.step (fun s a => s.Possible a ∧ ¬ s.Strands a ∧ a ≠ .Remigrate) s acts :=
    (allowed_iff s acts).mpr fun before a rest split =>
      ⟨(allowed_iff s acts).mp possible before a rest split, (allowed_iff s acts).mp orderly before a rest split⟩
  refine run_keeps (fun (t : Save) (a : SaveAct) (good : t.Sound files ∧ t.again = none) allowed => ?_) ⟨sound, once⟩ both
  obtain ⟨possible, kept, single⟩ := allowed
  exact ⟨Save.sound_step good.1 good.2 possible kept single, Save.step_once good.2 single⟩

/-- After a failure that strands the file, the save stays spoilt. -/
theorem run_spoilt (opened : s.Opened) (possible : Allowed Save.step Save.Possible s acts)
    (stranded : ¬ Allowed Save.step (fun s a => ¬ s.Strands a) s acts) :
    (run Save.step s acts).Begun ∧ (run Save.step s acts).Failed := by
  rw [allowed_iff] at stranded
  push Not at stranded
  obtain ⟨before, a, rest, rfl, strands⟩ := stranded
  obtain ⟨-, here, onwards⟩ := (allowed_append s before _).mp possible
  have spoilt := Save.strands_spoils (run_invariant (fun _ _ => Save.step_opened) opened before) here strands
  rw [run_append, run_cons]
  exact run_keeps (fun (t : Save) (a : SaveAct) (bad : t.Begun ∧ t.Failed) allowed =>
    ⟨Save.step_begun bad.1, Save.step_failed allowed bad.2⟩) spoilt onwards

/-- A save leaves the files right where its command is sent once and nothing fails that strands the file; and after a failure
    that strands the file it does not. -/
theorem save_snapshot_real_iff
    (possible : ∀ s, begin_save asked files name = .ok s → Allowed Save.step Save.Possible s acts)
    (returned : save_snapshot_real asked files name acts = some (result, after, sent)) :
    let path := Instances.join asked.snapshot_dir (snapshot_file name SNAPSHOT_MIG_EXT)
    ((∀ s, begin_save asked files name = .ok s → Allowed Save.step (fun s a => ¬ s.Strands a ∧ a ≠ .Remigrate) s acts) →
      SavedRight files path result after sent) ∧
    (SavedRight files path result after sent →
      ∀ s, begin_save asked files name = .ok s → Allowed Save.step (fun s a => ¬ s.Strands a) s acts) := by
  intro path
  unfold save_snapshot_real at returned
  cases began : begin_save asked files name with
  | error error =>
    simp only [began] at returned
    cases returned
    exact ⟨fun _ => ⟨fun _ _ => rfl, fun total saved => by cases saved⟩, fun _ s same => by cases same⟩
  | ok s =>
    obtain ⟨first, vacant⟩ := begin_save_ok began
    simp only [began, Option.map_eq_some_iff] at returned
    obtain ⟨result', ended, same⟩ := returned
    cases same
    have at_path : path = (run Save.step s acts).path := by rw [run_path, first]
    rw [at_path]
    constructor
    · intro orderly
      have sound : s.Sound files := by
        rw [first]
        exact ⟨rfl, rfl⟩
      have once : s.again = none := by rw [first]
      obtain ⟨sound, once⟩ := run_sound sound once (possible s began) (orderly s rfl)
      exact sound_returned sound once ended
    · rintro right s' same
      cases same
      by_contra stranded
      have opened : s.Opened := fun total receiving => by
        rw [first] at receiving
        cases receiving
      obtain ⟨begun, failed⟩ := run_spoilt opened (possible s began) stranded
      refine spoilt_returned ?_ begun failed ended right
      rw [run_path]
      exact vacant
end

/-- A save that QEMU sends in two parts, with a pause between them. -/
def paused_save : List SaveAct :=
  [.Accept (.ok ()), .Create (.ok ()), .Send [1, 2], .Read 2 (.ok ()), .Pause false (.ok ()), .Send [3], .Migrated (.ok ()),
    .Read 1 (.ok ()), .Pause false (.ok ())]

theorem paused_save_whole :
    SavedRight (fun _ => none) (Instances.join [] (snapshot_file "s" SNAPSHOT_MIG_EXT)) (.ok 3)
      (Function.update (fun _ => none) (Instances.join [] (snapshot_file "s" SNAPSHOT_MIG_EXT)) (some [1, 2, 3])) [1, 2, 3] := by
  have began : ∀ s, begin_save ⟨[], .ok (), .ok ()⟩ (fun _ => none) "s" = .ok s →
      s = ⟨Instances.join [] (snapshot_file "s" SNAPSHOT_MIG_EXT), fun _ => none, .Waiting, [], [], false, none, none⟩ :=
    fun s began => (begin_save_ok began).1
  refine (@save_snapshot_real_iff (fun _ => none) ⟨[], .ok (), .ok ()⟩ "s" paused_save (.ok 3) _ _ ?_ ?_).1 ?_
  · intro s same
    rw [began s same]
    simp [paused_save, Save.step, Save.Possible]
  · simp [save_snapshot_real, begin_save, paused_save, Save.step, Save.write, Save.finish, Save.returned, Save.stream]
  · intro s same
    rw [began s same]
    simp [paused_save, Save.step, Save.Strands]

/-- A save whose migration QEMU gives up after a part of the stream. -/
def given_up_save : List SaveAct :=
  [.Accept (.ok ()), .Create (.ok ()), .Send [1, 2], .Read 2 (.ok ()), .Migrated (.error (.Qmp "migration failed")), .Close,
    .EndOfStream (.ok ())]

/-- The save fails, and what was received stays under its name; the next save finds the name taken. -/
theorem given_up_save_stays : ∃ after,
    save_snapshot_real ⟨[], .ok (), .ok ()⟩ (fun _ => none) "s" given_up_save =
      some (.error (.Qmp "migration failed"), after, [1, 2]) ∧
    ¬ SavedRight (fun _ => none) (Instances.join [] (snapshot_file "s" SNAPSHOT_MIG_EXT)) (.error (.Qmp "migration failed"))
      after [1, 2] ∧
    (begin_save ⟨[], .ok (), .ok ()⟩ after "s").isOk = false ∧
    ∀ s, begin_save ⟨[], .ok (), .ok ()⟩ (fun _ => none) "s" = .ok s → Allowed Save.step Save.Possible s given_up_save := by
  refine ⟨Function.update (fun _ => none) (Instances.join [] (snapshot_file "s" SNAPSHOT_MIG_EXT)) (some [1, 2]), ?_, ?_, ?_, ?_⟩
  · simp [save_snapshot_real, begin_save, given_up_save, Save.step, Save.write, Save.finish, Save.returned, Save.stream]
  · intro right
    have kept := congrFun (right.failed _ rfl) (Instances.join [] (snapshot_file "s" SNAPSHOT_MIG_EXT))
    simp at kept
  · simp [begin_save, Except.isOk, Except.toBool]
  · intro s began
    rw [(begin_save_ok began).1]
    simp [given_up_save, Save.step, Save.Possible]

end Riscdom.Sandbox
