import Mathlib.Algebra.Order.BigOperators.Group.List
import Mathlib.Data.List.Destutter
import Riscdom.LexicalPaths
import Riscdom.SandboxSwitch

/-!
The files that a snapshot's name leads to. A snapshot is saved into the directory
of the current instance and looked for in the older directories as well; each
operation makes its paths of the name that it is given. Paths are POSIX ones.
-/
namespace Riscdom.Instances
open Json Agent Sandbox Provenance KeyedTable
open Riscdom.Sessions (HostError)

def SNAPSHOT_MIG_EXT : String := "mig"
def SNAPSHOT_JSON_EXT : String := "json"

/-- What an operation does with a path. -/
inductive FileAccess
  | CreateDir (path : List Component)
  | Exists (path : List Component)
  | IsFile (path : List Component)
  | Len (path : List Component)
  | Write (path : List Component)
  | Read (path : List Component)
  | Remove (path : List Component)
deriving DecidableEq

def FileAccess.path : FileAccess → List Component
  | .CreateDir path | .Exists path | .IsFile path | .Len path | .Write path | .Read path | .Remove path => path

/-- What the system answers while an operation goes on. -/
structure FileAnswers where
  is_file : List Component → Bool
  path_exists : List Component → Bool
  len : List Component → Nat
  remove_file : List Component → Except String Unit
  create_dir_all : Except String Unit
  bind_relay : Except SandboxError Unit
  migrated : Except SandboxError Unit
  /-- Whether there are ports and a kernel for the machine that is restored. -/
  prepared : Except HostError Unit
  restored : Except SandboxError Unit

def snapshot_file (name ext : String) : String := name ++ "." ++ ext

def validate_snapshot_name (name : String) : Except HostError Unit :=
  if name ≠ "" ∧ name.utf8ByteSize ≤ 64 ∧ name.toList.all fun c => c.isAlphanum || c == '-' || c == '_' then .ok ()
  else .error (.Other ("invalid snapshot name: " ++ name))

/-! ### The operations -/

/-- The first of the paths at which there is a file. -/
def find_file (files : FileAnswers) : List (List Component) → List FileAccess × Option (List Component)
  | [] => ([], none)
  | path :: rest =>
    if files.is_file path then ([.IsFile path], some path)
    else
      let (accesses, found) := find_file files rest
      (.IsFile path :: accesses, found)

/-- The files at the paths removed, until one cannot be. -/
def remove_files (files : FileAnswers) : List (List Component) → Bool → List FileAccess × Except HostError Bool
  | [], removed => ([], .ok removed)
  | path :: rest, removed =>
    if files.is_file path then
      match files.remove_file path with
      | .error why => ([.IsFile path, .Remove path], .error (.Io why))
      | .ok () =>
        let (accesses, result) := remove_files files rest true
        (.IsFile path :: .Remove path :: accesses, result)
    else
      let (accesses, result) := remove_files files rest removed
      (.IsFile path :: accesses, result)

/-- A machine's stream written into a new file of its directory. -/
def vm_save_snapshot_real (files : FileAnswers) (vm : RiscVVirtualMachine) (name : String) :
    List FileAccess × Except SandboxError Unit :=
  let dir := vm.config.snapshot_dir
  let path := join dir (snapshot_file name SNAPSHOT_MIG_EXT)
  match files.create_dir_all with
  | .error why => ([.CreateDir dir], .error (.Snapshot why))
  | .ok () =>
    if files.path_exists path then
      ([.CreateDir dir, .Exists path],
        .error (.Snapshot ("snapshot already exists: " ++ display path ++ " (refusing to overwrite)")))
    else
      match files.bind_relay with
      | .error error => ([.CreateDir dir, .Exists path], .error error)
      | .ok () => ([.CreateDir dir, .Exists path, .Write path], files.migrated)

namespace AppState
variable (files : FileAnswers) (s : AppState)

/-- Every directory a snapshot may live in, the newest layout first. -/
def snapshot_dirs : List (List Component) :=
  [s.snapshot_dir, join (snapshot_root s.node.workspace_root) s.agent_id, snapshot_root s.node.workspace_root].destutter
    (· ≠ ·)

def snapshot_paths (name : String) : List (List Component) :=
  s.snapshot_dirs.flatMap fun dir =>
    [SNAPSHOT_MIG_EXT, SNAPSHOT_JSON_EXT].map fun ext => join dir (snapshot_file name ext)

def save_snapshot_real (name : String) : List FileAccess × Except HostError Nat :=
  match validate_snapshot_name name with
  | .error error => ([], .error error)
  | .ok () =>
    match (s.instances.table.find s.current_instance_id).bind SandboxInstance.vm_slot with
    | none => ([], .error (.Other "no running vm"))
    | some vm =>
      match vm_save_snapshot_real files vm name with
      | (accesses, .error error) => (accesses, .error (.Other error.display))
      | (accesses, .ok ()) =>
        match find_file files (s.snapshot_paths name) with
        | (probes, none) => (accesses ++ probes, .ok 0)
        | (probes, some path) => (accesses ++ probes ++ [.Len path], .ok (files.len path))

def resume_from_snapshot_real (name : String) : List FileAccess × Except HostError Unit :=
  match validate_snapshot_name name with
  | .error error => ([], .error error)
  | .ok () =>
    match find_file files (s.snapshot_paths name) with
    | (probes, none) => (probes, .error (.Other ("snapshot not found: " ++ name)))
    | (probes, some path) =>
      match files.prepared with
      | .error error => (probes, .error error)
      | .ok () =>
        if files.path_exists path then
          (probes ++ [.Exists path, .Read path], files.restored.mapError fun error => .Other error.display)
        else
          (probes ++ [.Exists path], .error (.Other (SandboxError.Snapshot ("snapshot not found: " ++ display path)).display))

/-- No check of the name stands before this. -/
def delete_snapshot (name : String) : List FileAccess × Except HostError Bool :=
  remove_files files (s.snapshot_paths name) false

end AppState

inductive SnapshotOp
  | Save
  | Resume
  | Delete
deriving DecidableEq

/-- What an operation does with the paths that it makes of a name. -/
def SnapshotOp.accesses (files : FileAnswers) (s : AppState) (name : String) : SnapshotOp → List FileAccess
  | .Save => (s.save_snapshot_real files name).1
  | .Resume => (s.resume_from_snapshot_real files name).1
  | .Delete => (s.delete_snapshot files name).1

/-! ### Inside a directory -/

/-- Steps that never climb above where they start, from a depth on. -/
def never_above : Nat → List Component → Bool
  | _, [] => true
  | _, .RootDir :: _ => false
  | depth, .CurDir :: rest => never_above depth rest
  | 0, .ParentDir :: _ => false
  | depth + 1, .ParentDir :: rest => never_above depth rest
  | depth, .Normal _ :: rest => never_above (depth + 1) rest

/-- A path that goes into a directory and never leaves it on its way. -/
def Within (dir path : List Component) : Prop := ∃ tail, path = dir ++ tail ∧ never_above 0 tail = true

/-- A name whose files lie below every directory that they are looked for in. -/
def Stays (name : String) : Prop :=
  ∀ ext ∈ [SNAPSHOT_MIG_EXT, SNAPSHOT_JSON_EXT], is_absolute (snapshot_file name ext) = false ∧
    never_above 0 (components (snapshot_file name ext)) = true

/-- Every machine writes its snapshots into the directory of its instance. -/
def Placed (s : AppState) : Prop :=
  ∀ id inst vm, s.instances.table.find id = some inst → inst.vm_slot = some vm → vm.config.snapshot_dir = inst.snapshot_dir

structure SnapshotHost where
  state : AppState
  placed : Placed state

/-- Whatever an operation does with a path, the path leads into one of the directories of snapshots. -/
def ReachesInside (host : SnapshotHost) (files : FileAnswers) (name : String) (op : SnapshotOp) : Prop :=
  ∀ access ∈ op.accesses files host.state name, ∃ dir ∈ host.state.snapshot_dirs, normalize dir <+: normalize access.path

/-! ### Machines in their places -/

section Places
variable {answers : Answers} {s t : AppState}

/-- Machines stay in their places where each one that is new is in its own. -/
theorem Placed.step (placed : Placed s) (new : ∀ id inst vm, t.instances.table.find id = some inst → inst.vm_slot = some vm →
    s.instances.table.find id = some inst ∨ vm.config.snapshot_dir = inst.snapshot_dir) : Placed t :=
  fun id inst vm there slot => (new id inst vm there slot).elim (fun was => placed id inst vm was slot) fun own => own

theorem register_placed (placed : Placed s) (name : String) : Placed (s.register_instance name).2 := by
  refine placed.step fun id inst vm there slot => ?_
  rw [AppState.register_find] at there
  by_cases own : id = (s.register_instance name).1.id
  · rw [if_pos own] at there
    cases there
    cases slot
  · rw [if_neg own] at there
    exact .inl there

theorem forget_placed (placed : Placed s) (id : String) :
    Placed { s with instances := s.instances.forget_instance id } := by
  refine placed.step fun other inst vm there slot => .inl ?_
  change (s.instances.forget_instance id).table.find other = some inst at there
  by_cases own : id = s.instances.own_instance
  · rwa [InstanceTable.forget_instance, dif_pos own] at there
  · rw [InstanceTable.forget_table _ own, Table.find_delete] at there
    split_ifs at there
    exact there

theorem spawn_placed (placed : Placed s) (name : String) (caller : Option String) :
    Placed (s.spawn_instance answers name caller).2 := by
  have registered := register_placed placed name
  rw [AppState.spawn_instance]
  cases found : s.node.sandbox_def_by_name name with
  | none => exact placed
  | some definition =>
    cases ready : s.runnable answers definition with
    | error error => simpa only [ready] using placed
    | ok kernel =>
      simp only [ready]
      cases starting : (s.register_instance name).2.start_vm answers
          ((s.register_instance name).2.vm_config definition kernel (s.register_instance name).1.snapshot_dir) with
      | mk result after =>
        obtain ⟨rfl, -, leased⟩ := AppState.start_vm_spec starting
        obtain error | last_error | vm := result
        · exact registered
        · exact forget_placed registered _
        · obtain ⟨qmp, serial, -, -, -, -, config⟩ := leased vm rfl
          refine registered.step fun id inst other there slot => ?_
          have there := (AppState.put_vm_find id).symm.trans there
          by_cases own : id = (s.register_instance name).1.id
          · rw [if_pos own, AppState.register_find, if_pos own] at there
            cases there
            cases slot
            exact .inr (by rw [config]; rfl)
          · rw [if_neg own] at there
            exact .inl there

theorem stop_instance_placed (placed : Placed s) (id : String) (caller : Option String) :
    Placed (s.stop_instance id caller).2 := by
  rw [AppState.stop_instance]
  cases found : s.instances.table.find id with
  | none => exact placed
  | some inst =>
    have emptied : Placed { s with instances := s.instances.rewrite id SandboxInstance.emptied fun _ => rfl } := by
      refine placed.step fun other held vm there slot => .inl ?_
      have there := (AppState.rewrite_find id other SandboxInstance.emptied fun _ => rfl).symm.trans there
      by_cases own : other = id
      · rw [if_pos own] at there
        obtain ⟨was, -, rfl⟩ := Option.map_eq_some_iff.mp there
        cases slot
      · rwa [if_neg own] at there
    exact forget_placed emptied id

theorem switch_placed (quoted : String → String) (placed : Placed s) (name : String) (caller : Option String) :
    Placed (s.switch_sandbox quoted answers name caller).2 := by
  have stopped {id : String} {inst : SandboxInstance} {vm : RiscVVirtualMachine}
      (there : s.stop_current_vm.instances.table.find id = some inst) (slot : inst.vm_slot = some vm) :
      s.instances.table.find id = some inst := by
    rw [AppState.stop_find] at there
    by_cases own : id = s.current_instance_id
    · rw [if_pos own] at there
      obtain ⟨was, -, rfl⟩ := Option.map_eq_some_iff.mp there
      cases slot
    · rwa [if_neg own] at there
  rw [AppState.switch_sandbox]
  cases tried : s.try_switch quoted answers name caller with
  | mk outcome after =>
    rcases AppState.try_switch_cases tried with ⟨-, -, rfl⟩ | ⟨-, ⟨-, rfl⟩ | ⟨-, vm, own, rfl⟩⟩
    · exact placed
    · exact placed.step fun id inst vm there slot => .inl (stopped there slot)
    · refine placed.step fun id inst other there slot => ?_
      have there := (AppState.adopt_find vm name s.node.current_sandbox caller id).symm.trans there
      by_cases current : id = s.current_instance_id
      · rw [if_pos current] at there
        obtain ⟨was, held, rfl⟩ := Option.map_eq_some_iff.mp there
        cases slot
        refine .inr (own.trans ?_)
        rw [AppState.snapshot_dir, ← current, held]
        rfl
      · rw [if_neg current] at there
        exact .inl there

end Places

/-! ### Steps that stay -/

theorem within_self (dir : List Component) : Within dir dir := ⟨[], by simp, rfl⟩

theorem never_above_normal (depth : Nat) (name : String) (rest : List Component) :
    never_above depth (.Normal name :: rest) = never_above (depth + 1) rest := by
  cases depth <;> rfl

theorem never_above_filter (depth : Nat) (tail : List Component) :
    never_above depth (tail.filter fun c => c ≠ .CurDir) = never_above depth tail := by
  induction tail generalizing depth with
  | nil => rfl
  | cons c tail ih =>
    cases c with
    | CurDir => simpa [never_above] using ih depth
    | RootDir => simp [never_above]
    | Normal name => simpa [never_above] using ih (depth + 1)
    | ParentDir =>
      cases depth with
      | zero => simp [never_above]
      | succ depth => simpa [never_above] using ih depth

/-- What never climbs above a directory ends below it. -/
theorem push_within {tail : List Component} {inner : List String} (stays : never_above inner.length tail = true)
    (dir : List Component) : ∃ left, tail.foldl push (dir ++ inner.map .Normal) = dir ++ left := by
  induction tail generalizing inner with
  | nil => exact ⟨inner.map .Normal, rfl⟩
  | cons c tail ih =>
    rw [List.foldl_cons]
    cases c with
    | RootDir => cases stays
    | CurDir => exact ih stays
    | ParentDir =>
      cases inner using List.reverseRecOn with
      | nil => cases stays
      | append_singleton inner name =>
        rw [List.length_append, List.length_singleton] at stays
        have popped : push (dir ++ (inner ++ [name]).map .Normal) .ParentDir = dir ++ inner.map .Normal := by
          simp [push, pop, ← List.append_assoc]
        rw [popped]
        exact ih stays
    | Normal name =>
      rw [never_above_normal] at stays
      have entered : push (dir ++ inner.map .Normal) (.Normal name) = dir ++ (inner ++ [name]).map .Normal := by
        simp [push]
      rw [entered]
      exact ih (by simpa using stays)

/-- A path within a directory leads to something in it. -/
theorem within_leads {dir path : List Component} (within : Within dir path) : normalize dir <+: normalize path := by
  obtain ⟨tail, rfl, stays⟩ := within
  obtain ⟨left, pushed⟩ := @push_within tail [] stays (normalize dir)
  refine ⟨left, ?_⟩
  rw [← pushed, List.map_nil, List.append_nil, Agent.normalize, Agent.normalize, List.foldl_append]

/-- A file whose text stays is within the directory that it is looked for in. -/
theorem within_join (dir : List Component) {file : String} (relative : is_absolute file = false)
    (stays : never_above 0 (components file) = true) : Within dir (join dir file) := by
  refine ⟨(components file).filter fun c => c ≠ .CurDir, ?_, (never_above_filter 0 _).trans stays⟩
  rw [join, relative]
  rfl

/-! ### The accesses of an operation -/

variable {files : FileAnswers} {paths : List (List Component)}

theorem find_file_paths : (∀ access ∈ (find_file files paths).1, access.path ∈ paths) ∧
    ∀ path, (find_file files paths).2 = some path → path ∈ paths := by
  induction paths with
  | nil => exact ⟨nofun, nofun⟩
  | cons path rest ih =>
    rw [find_file]
    by_cases there : files.is_file path = true
    · rw [if_pos there]
      refine ⟨fun access inside => ?_, fun found same => ?_⟩
      · rw [List.mem_singleton.mp inside]
        exact List.mem_cons_self
      · cases same
        exact List.mem_cons_self
    · rw [if_neg there]
      refine ⟨fun access inside => ?_, fun found same => List.mem_cons_of_mem _ (ih.2 found same)⟩
      rcases List.mem_cons.mp inside with rfl | later
      · exact List.mem_cons_self
      · exact List.mem_cons_of_mem _ (ih.1 access later)

theorem remove_files_paths {removed : Bool} : ∀ access ∈ (remove_files files paths removed).1, access.path ∈ paths := by
  induction paths generalizing removed with
  | nil => nofun
  | cons path rest ih =>
    intro access inside
    have later {removed : Bool} (rest_of : access ∈ (remove_files files rest removed).1) : access.path ∈ path :: rest :=
      List.mem_cons_of_mem _ (ih access rest_of)
    rw [remove_files] at inside
    by_cases there : files.is_file path = true
    · rw [if_pos there] at inside
      cases removal : files.remove_file path with
      | error why =>
        simp only [removal, List.mem_cons, List.not_mem_nil, or_false] at inside
        rcases inside with rfl | rfl <;> exact List.mem_cons_self
      | ok done =>
        simp only [removal, List.mem_cons] at inside
        rcases inside with rfl | rfl | rest_of
        · exact List.mem_cons_self
        · exact List.mem_cons_self
        · exact later rest_of
    · rw [if_neg there] at inside
      simp only [List.mem_cons] at inside
      rcases inside with rfl | rest_of
      · exact List.mem_cons_self
      · exact later rest_of

/-- A system on which there is every file that it is asked for. -/
def always_there : FileAnswers where
  is_file := fun _ => true
  path_exists := fun _ => true
  len := fun _ => 0
  remove_file := fun _ => .ok ()
  create_dir_all := .ok ()
  bind_relay := .ok ()
  migrated := .ok ()
  prepared := .ok ()
  restored := .ok ()

/-- Where there is every file, each of the paths is removed. -/
theorem remove_files_all {removed : Bool} :
    ∀ path ∈ paths, FileAccess.Remove path ∈ (remove_files always_there paths removed).1 := by
  induction paths generalizing removed with
  | nil => nofun
  | cons path rest ih =>
    intro other inside
    rcases List.mem_cons.mp inside with rfl | later
    · exact List.mem_cons_of_mem _ List.mem_cons_self
    · exact List.mem_cons_of_mem _ (List.mem_cons_of_mem _ (ih other later))

theorem plain_of_letters {name : String} {first : Char} {rest : List Char} (letters : name.toList = first :: rest)
    (no_dot : first ≠ '.') (single : '/' ∉ name.toList) : Plain name := by
  refine ⟨fun same => ?_, fun same => ?_, fun same => ?_, single⟩
  · simp [same] at letters
  · rw [same] at letters
    exact no_dot (List.cons.inj letters).1.symm
  · rw [same] at letters
    exact no_dot (List.cons.inj letters).1.symm

/-- A name that passes the check is one plain part, whatever its extension. -/
theorem valid_stays {name : String} (valid : validate_snapshot_name name = .ok ()) : Stays name := by
  rw [validate_snapshot_name] at valid
  split_ifs at valid with fits
  obtain ⟨named, -, chars⟩ := fits
  have allowed (c : Char) (inside : c ∈ name.toList) : c ≠ '/' ∧ c ≠ '.' := by
    have good := List.all_eq_true.mp chars c inside
    refine ⟨?_, ?_⟩ <;> rintro rfl <;> exact absurd good (by decide)
  obtain ⟨first, rest, text⟩ : ∃ first rest, name.toList = first :: rest := by
    cases chars : name.toList with
    | nil => exact absurd (String.toList_inj.mp chars) named
    | cons first rest => exact ⟨first, rest, rfl⟩
  have no_dot : first ≠ '.' := (allowed first (by simp [text])).2
  intro ext inside
  have letters : (snapshot_file name ext).toList = first :: (rest ++ '.' :: ext.toList) := by
    simp [snapshot_file, text]
  have plain : Plain (snapshot_file name ext) := by
    refine plain_of_letters letters no_dot fun slash => ?_
    have parts : '/' ∈ name.toList ++ '.' :: ext.toList := by simpa [snapshot_file] using slash
    rcases List.mem_append.mp parts with in_name | in_ext
    · exact (allowed '/' in_name).1 rfl
    · revert in_ext
      rcases List.mem_cons.mp inside with rfl | other
      · decide
      · rw [List.mem_singleton.mp other]
        decide
  obtain ⟨relative, single⟩ := plain_components plain
  exact ⟨relative, by rw [single]; rfl⟩

theorem dir_of_paths {s : AppState} {name : String} {path : List Component} (inside : path ∈ s.snapshot_paths name)
    (stays : Stays name) : ∃ dir ∈ s.snapshot_dirs, Within dir path := by
  rw [AppState.snapshot_paths] at inside
  obtain ⟨dir, there, inside⟩ := List.mem_flatMap.mp inside
  obtain ⟨ext, known, rfl⟩ := List.mem_map.mp inside
  obtain ⟨relative, below⟩ := stays ext known
  exact ⟨dir, there, within_join dir relative below⟩

/-- Nothing is lost where neighbours that are the same are made one. -/
theorem mem_destutter {dirs : List (List Component)} {dir : List Component} (inside : dir ∈ dirs) :
    dir ∈ dirs.destutter (· ≠ ·) := by
  have kept : ∀ (rest : List (List Component)) (first : List Component), ∀ dir ∈ first :: rest,
      dir ∈ rest.destutter' (· ≠ ·) first := by
    intro rest
    induction rest with
    | nil => exact fun first dir inside => inside
    | cons second rest ih =>
      intro first dir inside
      rw [List.destutter'_cons]
      by_cases apart : first ≠ second
      · rw [if_pos apart]
        rcases List.mem_cons.mp inside with rfl | later
        · exact List.mem_cons_self
        · exact List.mem_cons_of_mem _ (ih second dir later)
      · rw [if_neg apart]
        obtain rfl := not_not.mp apart
        rcases List.mem_cons.mp inside with rfl | later
        · exact ih dir dir List.mem_cons_self
        · exact ih first dir later
  cases dirs with
  | nil => cases inside
  | cons first rest => exact kept rest first dir inside

theorem own_dir (s : AppState) : s.snapshot_dir ∈ s.snapshot_dirs := mem_destutter (by simp)

/-- What a machine does for a save is inside its own directory. -/
theorem vm_save_inside {vm : RiscVVirtualMachine} {name : String} (stays : Stays name) :
    ∀ access ∈ (vm_save_snapshot_real files vm name).1, Within vm.config.snapshot_dir access.path := by
  obtain ⟨relative, level⟩ := stays SNAPSHOT_MIG_EXT (by simp)
  have file := within_join vm.config.snapshot_dir relative level
  have dir := within_self vm.config.snapshot_dir
  rw [vm_save_snapshot_real]
  cases files.create_dir_all with
  | error why => simpa [FileAccess.path] using dir
  | ok made =>
    by_cases there : files.path_exists (join vm.config.snapshot_dir (snapshot_file name SNAPSHOT_MIG_EXT)) = true
    · simpa [FileAccess.path, there] using ⟨dir, file⟩
    · cases files.bind_relay with
      | error error => simpa [FileAccess.path, there] using ⟨dir, file⟩
      | ok bound => simpa [FileAccess.path, there] using ⟨dir, file⟩

section Accesses
variable {s : AppState} {name : String}

/-- What a save does is within the directories, whatever the name. -/
theorem save_within (placed : Placed s) : ∀ access ∈ (s.save_snapshot_real files name).1,
    ∃ dir ∈ s.snapshot_dirs, Within dir access.path := by
  intro access inside
  have found := @find_file_paths files (s.snapshot_paths name)
  rw [AppState.save_snapshot_real] at inside
  cases valid : validate_snapshot_name name with
  | error error => simp [valid] at inside
  | ok done =>
    have stays := valid_stays valid
    cases current : s.instances.table.find s.current_instance_id with
    | none => simp [valid, current] at inside
    | some inst =>
      cases slot : inst.vm_slot with
      | none => simp [valid, current, slot] at inside
      | some vm =>
        simp only [valid, current, slot, Option.bind_some] at inside
        have own : vm.config.snapshot_dir = s.snapshot_dir := by
          rw [placed _ inst vm current slot, AppState.snapshot_dir, current]
          rfl
        have saving (access : FileAccess) (of_vm : access ∈ (vm_save_snapshot_real files vm name).1) :
            ∃ dir ∈ s.snapshot_dirs, Within dir access.path :=
          ⟨_, own_dir s, own ▸ vm_save_inside stays access of_vm⟩
        cases saved : vm_save_snapshot_real files vm name with
        | mk accesses result =>
          rw [saved] at saving
          cases result with
          | error error =>
            simp only [saved] at inside
            exact saving access inside
          | ok done =>
            simp only [saved] at inside
            cases finding : find_file files (s.snapshot_paths name) with
            | mk probes path =>
              rw [finding] at found
              cases path with
              | none =>
                simp only [finding, List.mem_append] at inside
                rcases inside with of_vm | probe
                · exact saving access of_vm
                · exact dir_of_paths (found.1 access probe) stays
              | some path =>
                simp only [finding, List.mem_append, List.mem_singleton] at inside
                rcases inside with (of_vm | probe) | rfl
                · exact saving access of_vm
                · exact dir_of_paths (found.1 access probe) stays
                · exact dir_of_paths (found.2 path rfl) stays

theorem resume_within : ∀ access ∈ (s.resume_from_snapshot_real files name).1,
    ∃ dir ∈ s.snapshot_dirs, Within dir access.path := by
  intro access inside
  have found := @find_file_paths files (s.snapshot_paths name)
  rw [AppState.resume_from_snapshot_real] at inside
  cases valid : validate_snapshot_name name with
  | error error => simp [valid] at inside
  | ok done =>
    have stays := valid_stays valid
    cases finding : find_file files (s.snapshot_paths name) with
    | mk probes path =>
      rw [finding] at found
      cases path with
      | none =>
        simp only [valid, finding] at inside
        exact dir_of_paths (found.1 access inside) stays
      | some path =>
        have here := dir_of_paths (found.2 path rfl) stays
        cases prepared : files.prepared with
        | error error =>
          simp only [valid, finding, prepared] at inside
          exact dir_of_paths (found.1 access inside) stays
        | ok done =>
          simp only [valid, finding, prepared] at inside
          by_cases there : files.path_exists path = true
          · rw [if_pos there] at inside
            simp only [List.mem_append, List.mem_cons, List.not_mem_nil, or_false] at inside
            rcases inside with probe | rfl | rfl
            · exact dir_of_paths (found.1 access probe) stays
            · exact here
            · exact here
          · rw [if_neg there] at inside
            simp only [List.mem_append, List.mem_singleton] at inside
            rcases inside with probe | rfl
            · exact dir_of_paths (found.1 access probe) stays
            · exact here

/-- A deletion is within the directories where the name stays; nothing else keeps it there. -/
theorem delete_within (stays : Stays name) : ∀ access ∈ (s.delete_snapshot files name).1,
    ∃ dir ∈ s.snapshot_dirs, Within dir access.path :=
  fun access inside => dir_of_paths (remove_files_paths access inside) stays

end Accesses

/-! ### A deletion that leaves its directories -/

theorem follow_from (names : List String) (tail : List Component) :
    ∀ name ∈ follow names tail, name ∈ names ∨ .Normal name ∈ tail := by
  induction tail generalizing names with
  | nil => exact fun name inside => .inl inside
  | cons c tail ih =>
    intro name inside
    rcases ih (enter names c) name inside with entered | later
    · cases c with
      | ParentDir => exact .inl (List.dropLast_subset names entered)
      | Normal new =>
        rcases List.mem_append.mp entered with old | last
        · exact .inl old
        · obtain rfl := List.mem_singleton.mp last
          exact .inr List.mem_cons_self
      | _ => exact .inl entered
    · exact .inr (List.mem_cons_of_mem c later)

/-- Steps that climb above a directory leave its name behind. -/
theorem left_behind (top : String) {tail : List Component} (rooted : .RootDir ∉ tail) {inner : List String}
    (climbs : never_above inner.length tail = false) :
    ∀ name ∈ follow (top :: inner) tail, name ∈ inner ∨ .Normal name ∈ tail := by
  induction tail generalizing inner with
  | nil => cases climbs
  | cons c tail ih =>
    obtain ⟨step, rest⟩ := not_or.mp (mt List.mem_cons.mpr rooted)
    intro name inside
    cases c with
    | RootDir => exact absurd rfl step
    | CurDir => exact (ih rest climbs name inside).imp_right (List.mem_cons_of_mem _)
    | ParentDir =>
      cases inner using List.reverseRecOn with
      | nil =>
        rcases follow_from [] tail name inside with none_left | later
        · cases none_left
        · exact .inr (List.mem_cons_of_mem _ later)
      | append_singleton inner last =>
        rw [List.length_append, List.length_singleton] at climbs
        have entered : enter (top :: (inner ++ [last])) .ParentDir = top :: inner := by
          rw [enter, ← List.cons_append, List.dropLast_concat]
        have inside : name ∈ follow (enter (top :: (inner ++ [last])) .ParentDir) tail := inside
        rw [entered] at inside
        rcases ih rest climbs name inside with old | later
        · exact .inl (List.mem_append_left _ old)
        · exact .inr (List.mem_cons_of_mem _ later)
    | Normal new =>
      rw [never_above_normal] at climbs
      have deeper : never_above (inner ++ [new]).length tail = false := by simpa using climbs
      rcases ih rest deeper name inside with old | later
      · rcases List.mem_append.mp old with old | last
        · exact .inl old
        · obtain rfl := List.mem_singleton.mp last
          exact .inr List.mem_cons_self
      · exact .inr (List.mem_cons_of_mem _ later)

theorem follow_filter (names : List String) (tail : List Component) :
    follow names (tail.filter fun c => c ≠ .CurDir) = follow names tail := by
  induction tail generalizing names with
  | nil => rfl
  | cons c tail ih =>
    cases c with
    | CurDir => exact ih names
    | _ => exact ih (enter names _)

/-- A file whose text is absolute, or climbs, leads away from every directory at the top of the file system: to names of its
    own only. -/
theorem leads_elsewhere (top : String) {file : String}
    (leaves : ¬ (is_absolute file = false ∧ never_above 0 (components file) = true)) :
    ∃ names, normalize (join (below true [top]) file) = below true names ∧ ∀ name ∈ names, .Normal name ∈ components file := by
  cases absolute : is_absolute file with
  | true =>
    refine ⟨follow [] (steps file), ?_, fun name inside => ?_⟩
    · rw [join, if_pos absolute, normalize_components, absolute]
    · rw [components_eq]
      rcases follow_from [] (steps file) name inside with none_left | later
      · cases none_left
      · exact List.mem_append_right _ later
  | false =>
    have climbs : never_above 0 (components file) = false := by simpa [absolute] using leaves
    have same : components file = steps file := by rw [components_eq, absolute]; rfl
    have all : ∀ c ∈ components file, Step c := same ▸ steps_step file
    have rooted : .RootDir ∉ components file := fun inside => all .RootDir inside
    refine ⟨follow [top] (components file), ?_, fun name inside => ?_⟩
    · have kept : ∀ c ∈ (components file).filter fun c => c ≠ .CurDir, Step c :=
        fun c inside => all c (List.mem_of_mem_filter inside)
      rw [join, if_neg (by simp [absolute]), Agent.normalize, List.foldl_append]
      show ((components file).filter _).foldl push (normalize (below true [top])) = _
      rw [normalize_below, foldl_push_below kept, follow_filter]
    · rcases @left_behind top _ rooted [] climbs name inside with none_left | later
      · cases none_left
      · exact later

/-- A directory at the top of the file system, by its text. -/
theorem components_top {name : String} (plain : Plain name) :
    is_absolute ("/" ++ name) = true ∧ components ("/" ++ name) = below true [name] := by
  have named : ∀ other ∈ [name], Plain other := fun other inside => List.mem_singleton.mp inside ▸ plain
  have shown : display (below true [name]) = "/" ++ name := by
    rw [display, if_neg (by simp [below, start])]
    simp [below, start, Component.display, String.intercalate_cons_cons]
  rw [← shown]
  exact components_display named

/-- A name that is longer than every one of a path's, and stays so with more behind it. -/
theorem longer_name (path : List Component) : ∃ top : String, (∀ more : String, '/' ∉ more.toList → Plain (top ++ more)) ∧
    ∀ name, .Normal name ∈ path → name.length < top.length := by
  refine ⟨.ofList ('q' :: List.replicate (path.map fun c => c.display.length).sum 'q'), fun more single => ?_, fun name inside => ?_⟩
  · have letters : (String.ofList ('q' :: List.replicate (path.map fun c => c.display.length).sum 'q') ++ more).toList =
        'q' :: (List.replicate (path.map fun c => c.display.length).sum 'q' ++ more.toList) := by simp
    refine plain_of_letters letters (by decide) ?_
    simp [single]
  · have counted : name.length ≤ (path.map fun c => c.display.length).sum :=
      List.le_sum_of_mem (List.mem_map.mpr ⟨_, inside, rfl⟩)
    rw [String.length_ofList, List.length_cons, List.length_replicate]
    exact Nat.lt_succ_of_le counted

/-- A node whose workspace is at the top of the file system, and whose device is told as a path. -/
def far_table (top : String) : InstanceTable where
  device := "/" ++ top
  pid := 7
  seq := 2
  own_instance := mint ("/" ++ top) 7 1
  table := Table.empty.replace
    (SandboxInstance.new (mint ("/" ++ top) 7 1) "" (instance_snapshot_dir ("/" ++ top) ("/" ++ top) (mint ("/" ++ top) 7 1)))
  own_kept := by
    rw [Table.find_replace]
    exact (if_pos rfl).symm ▸ rfl
  minted := by
    intro inst inside
    obtain rfl := List.mem_singleton.mp inside
    exact ⟨"/" ++ top, 1, by decide, rfl⟩

def far_state (top : String) : AppState :=
  { AppState.with_blink with
    node := { AppState.with_blink.node with workspace_root := "/" ++ top }
    agent_id := mint ("/" ++ top) 7 2
    instances := far_table top
    current_instance := none }

section Far
variable {top : String} (plain : ∀ more : String, '/' ∉ more.toList → Plain (top ++ more))
include plain

theorem join_mint (seq : Nat) (dir : List Component) (single : '/' ∉ (toString seq).toList) :
    join dir (mint ("/" ++ top) 7 seq) = below true [top ++ ("-7-" ++ toString seq)] := by
  have text : mint ("/" ++ top) 7 seq = "/" ++ (top ++ ("-7-" ++ toString seq)) := by
    simp only [mint, String.append_assoc]
    rfl
  obtain ⟨absolute, read⟩ := components_top (plain ("-7-" ++ toString seq) (by simpa using single))
  rw [text, join, if_pos absolute, read]

theorem far_root : snapshot_root ("/" ++ top) = below true [top, ".riscdom", "snapshots"] := by
  have itself : Plain top := by simpa using plain "" (by simp)
  have part (dir : List Component) (name : String) (relative : is_absolute name = false)
      (single : components name = [.Normal name]) : join dir name = dir ++ [.Normal name] := by
    rw [join, relative, single]
    rfl
  rw [snapshot_root, (components_top itself).2, part _ ".riscdom" (by decide) (by decide),
    part _ "snapshots" (by decide) (by decide)]
  rfl

/-- Every directory of the node's snapshots is at the top of the file system, under a long name. -/
theorem far_dirs {dir : List Component} (inside : dir ∈ (far_state top).snapshot_dirs) :
    ∃ first rest, dir = below true (first :: rest) ∧ top.length ≤ first.length := by
  have longer (more : String) : top.length ≤ (top ++ more).length := by simp
  have known := (List.destutter_sublist (· ≠ ·) _).subset inside
  simp only [List.mem_cons, List.not_mem_nil, or_false] at known
  rcases known with rfl | rfl | rfl
  · have own : (far_state top).snapshot_dir = instance_snapshot_dir ("/" ++ top) ("/" ++ top) (mint ("/" ++ top) 7 1) := by
      have there : (far_table top).table.find (mint ("/" ++ top) 7 1) = some (SandboxInstance.new (mint ("/" ++ top) 7 1) ""
          (instance_snapshot_dir ("/" ++ top) ("/" ++ top) (mint ("/" ++ top) 7 1))) :=
        (Table.find_replace ..).trans (if_pos rfl)
      show (((far_table top).table.find (mint ("/" ++ top) 7 1)).map SandboxInstance.snapshot_dir).getD [] = _
      rw [there]
      rfl
    rw [own, instance_snapshot_dir, join_mint plain 1 _ (by decide)]
    exact ⟨_, [], rfl, longer _⟩
  · rw [show (far_state top).agent_id = mint ("/" ++ top) 7 2 from rfl, join_mint plain 2 _ (by decide)]
    exact ⟨_, [], rfl, longer _⟩
  · rw [show (far_state top).node.workspace_root = "/" ++ top from rfl, far_root plain]
    exact ⟨top, _, rfl, le_rfl⟩

end Far

/-- A deletion under a name that does not stay can leave every directory of snapshots. -/
theorem delete_reaches_out {name : String} (leaves : ¬ Stays name) :
    ∃ (host : SnapshotHost) (files : FileAnswers), ¬ ReachesInside host files name .Delete := by
  rw [Stays] at leaves
  push Not at leaves
  obtain ⟨ext, known, leaves⟩ := leaves
  obtain ⟨top, plain, longer⟩ := longer_name (components (snapshot_file name ext))
  have placed : Placed (far_state top) := by
    intro id inst vm there slot
    obtain rfl := List.mem_singleton.mp (Table.find_eq_some.mp there).1
    cases slot
  refine ⟨⟨far_state top, placed⟩, always_there, fun inside => ?_⟩
  obtain ⟨names, led, own⟩ :=
    leads_elsewhere (top ++ ("-7-" ++ toString 2)) fun both : is_absolute (snapshot_file name ext) = false ∧ _ => leaves both.1 both.2
  rw [← join_mint plain 2 (snapshot_root ("/" ++ top)) (by decide)] at led
  have agent_dir : join (snapshot_root ("/" ++ top)) (mint ("/" ++ top) 7 2) ∈ (far_state top).snapshot_dirs :=
    mem_destutter (by simp [far_state])
  have made : join (join (snapshot_root ("/" ++ top)) (mint ("/" ++ top) 7 2)) (snapshot_file name ext) ∈
      (far_state top).snapshot_paths name :=
    List.mem_flatMap.mpr ⟨_, agent_dir, List.mem_map.mpr ⟨ext, known, rfl⟩⟩
  obtain ⟨dir, there, below_dir⟩ := inside _ (remove_files_all _ made)
  obtain ⟨first, rest, rfl, long⟩ := far_dirs plain there
  rw [FileAccess.path, led, normalize_below, starts_below_iff] at below_dir
  rcases below_dir with ⟨-, start⟩ | ⟨absurd_start, -⟩
  · have short := longer first (own first (start.subset List.mem_cons_self))
    omega
  · cases absurd_start

/-- Save and resume stay inside under every name; a deletion does where the name is not absolute and never climbs above where
    it starts, and under no other name. -/
theorem reaches_inside_iff (op : SnapshotOp) (name : String) :
    (∀ (host : SnapshotHost) (files : FileAnswers), ReachesInside host files name op) ↔ (op = .Delete → Stays name) := by
  have leads {s : AppState} {path : List Component} (within : ∃ dir ∈ s.snapshot_dirs, Within dir path) :
      ∃ dir ∈ s.snapshot_dirs, normalize dir <+: normalize path :=
    within.imp fun _ => And.imp_right within_leads
  constructor
  · rintro inside rfl
    by_contra leaves
    obtain ⟨host, files, outside⟩ := delete_reaches_out leaves
    exact outside (inside host files)
  · intro stays host files access inside
    cases op with
    | Save => exact leads (save_within host.placed access inside)
    | Resume => exact leads (resume_within access inside)
    | Delete => exact leads (delete_within (stays rfl) access inside)

/-- A file of the workspace is removed as a snapshot. -/
theorem delete_removes_outside : ¬ ∀ (host : SnapshotHost) (files : FileAnswers) (name : String) (op : SnapshotOp),
    ReachesInside host files name op := by
  have placed : Placed AppState.with_blink := by
    intro id inst vm there slot
    obtain rfl := List.mem_singleton.mp (Table.find_eq_some.mp there).1
    cases slot
  have removed : FileAccess.Remove (join (snapshot_root "/w") "../../secret.json") ∈
      (AppState.with_blink.delete_snapshot always_there "../../secret").1 := by decide
  intro inside
  have reached : ∃ dir ∈ AppState.with_blink.snapshot_dirs,
      normalize dir <+: normalize (join (snapshot_root "/w") "../../secret.json") :=
    inside ⟨AppState.with_blink, placed⟩ always_there "../../secret" .Delete _ removed
  exact absurd reached (by decide)

end Riscdom.Instances
