import Mathlib.Algebra.Group.Int.Defs
import Mathlib.Algebra.GroupWithZero.Nat
import Riscdom.WorkspacePacks

/-!
A packed project unpacked into an empty directory. What has been unpacked is what
was added up to there; the next name, and the one it is written through, come later
than all of that, so they are free.
-/
namespace Riscdom.WorkspaceIo
open Riscdom.Agent (Component)
open Riscdom.FileTree Riscdom.Fallible Fallible.Act
open Riscdom.Workspace (HostError UnpackReport HOST_STATE_DIR MAX_UNPACKED_BYTES check_unpacked dotted)

/-- A name comes before the one it is written through. -/
theorem lt_part (name : String) : name < dotted name ++ ".part" := by
  obtain ⟨more, some_more, text⟩ := part_text name
  rw [text, String.lt_iff, String.toList_append]
  cases chars : more.toList with
  | nil => exact absurd (String.toList_inj.mp chars) some_more
  | cons first rest =>
    have longer : name.toList ++ [] < name.toList ++ first :: rest := List.append_left_lt (List.nil_lt_cons first rest)
    rwa [List.append_nil] at longer

/-- A directory that is there, with nothing in it. -/
structure EmptyDirectory (t : Tree) (dest here : Loc) : Prop where
  entered : t.enter (path_to dest) = .ok here
  empty : ∀ rest, rest ≠ [] → t.node (here ++ rest) = none

/-- The path that a file is written through. -/
def part (rel : Loc) : Loc :=
  match rel.getLast? with
  | some name => rel.dropLast ++ [dotted name ++ ".part"]
  | none => []

@[simp] theorem part_snoc (parent : Loc) (name : String) : part (parent ++ [name]) = parent ++ [dotted name ++ ".part"] := by
  simp [part]

/-- A directory takes the path, where it is empty; and if it is that of a file, the path that is written through, and the
    bytes leave no holes. -/
def Added.Portable (permits : Loc → Bool) (here : Loc) : Added → Prop
  | .Dir rel => permits (here ++ rel)
  | .File rel _ sparse => permits (here ++ rel) ∧ permits (here ++ part rel) ∧ sparse = false

instance (permits : Loc → Bool) (here : Loc) : (a : Added) → Decidable (a.Portable permits here)
  | .Dir _ => inferInstanceAs (Decidable (_ = true))
  | .File _ _ _ => inferInstanceAs (Decidable (_ = true ∧ _ = true ∧ _ = false))

/-- What stands in the directory is what was added. -/
structure Unpacked (permits : Loc → Bool) (dest here : Loc) (added : List Added) (t : Tree) : Prop where
  rooted : Rooted t
  entered : t.enter (path_to dest) = .ok here
  permits : t.permits = permits
  dirs : ∀ rel, .Dir rel ∈ added → t.enter (path_to (dest ++ rel)) = .ok (here ++ rel)
  files : ∀ rel content sparse, .File rel content sparse ∈ added →
    ∃ inode, t.node (here ++ rel) = some (.file inode) ∧ (t.files inode).content = content
  only : ∀ rel, rel ≠ [] → t.node (here ++ rel) ≠ none → ∃ a ∈ added, a.rel = rel

/-- One directory, or one file with its bytes, has come to stand at its path; all else is as it was. -/
structure Stands (dest here : Loc) (t u : Tree) (a : Added) : Prop where
  grown : Grown t u
  permits : u.permits = t.permits
  files : ∀ loc inode, t.node loc = some (.file inode) → u.files inode = t.files inode
  only : ∀ loc, u.node loc ≠ none → t.node loc = none → loc = here ++ a.rel
  its : match a with
    | .Dir rel => u.enter (path_to (dest ++ rel)) = .ok (here ++ rel)
    | .File rel content _ => ∃ inode, u.node (here ++ rel) = some (.file inode) ∧ (u.files inode).content = content

section Steps
variable {permits : Loc → Bool} {dest here : Loc} {added : List Added} {t u : Tree} {a : Added}

/-- What has come to stand below a directory stands in one. -/
theorem Stands.rooted (stands : Stands dest here t u a) (rooted : Rooted t) {parent : Loc} {name : String}
    (path : a.rel = parent ++ [name]) (dir : t.node (here ++ parent) = some .dir) : Rooted u := by
  intro loc last there
  by_cases was : t.node (loc ++ [last]) = none
  · have same := stands.only _ there was
    rw [path, ← List.append_assoc] at same
    obtain ⟨rfl, -⟩ := List.append_inj' same rfl
    exact stands.grown _ _ dir
  · exact stands.grown _ _ (rooted loc last was)

theorem Unpacked.add (unpacked : Unpacked permits dest here added t) (stands : Stands dest here t u a) (rooted : Rooted u) :
    Unpacked permits dest here (added ++ [a]) u := by
  refine ⟨rooted, enter_grown stands.grown unpacked.entered, stands.permits.trans unpacked.permits, fun rel inside => ?_,
    fun rel content sparse inside => ?_, fun rel some_name there => ?_⟩
  · rcases List.mem_append.mp inside with old | new
    · exact enter_grown stands.grown (unpacked.dirs rel old)
    · obtain rfl := List.mem_singleton.mp new
      exact stands.its
  · rcases List.mem_append.mp inside with old | new
    · obtain ⟨inode, standing, bytes⟩ := unpacked.files rel content sparse old
      exact ⟨inode, stands.grown _ _ standing, by rw [stands.files _ inode standing, bytes]⟩
    · obtain rfl := List.mem_singleton.mp new
      exact stands.its
  · by_cases was : t.node (here ++ rel) = none
    · have same := List.append_cancel_left (stands.only _ there was)
      exact ⟨a, List.mem_append_right _ (List.mem_singleton_self a), same.symm⟩
    · obtain ⟨b, inside, path⟩ := unpacked.only rel some_name was
      exact ⟨b, List.mem_append_left _ inside, path⟩

/-- Nothing stands yet at a path that comes later than all that was added, nor below it. -/
theorem Unpacked.vacant (unpacked : Unpacked permits dest here added t) {p : Loc} (later : ∀ b ∈ added, b.rel < p) (some_name : p ≠ [])
    (rest : Loc) : t.node (here ++ p ++ rest) = none := by
  by_contra there
  rw [List.append_assoc] at there
  obtain ⟨b, inside, path⟩ := unpacked.only (p ++ rest) (by simp [some_name]) there
  exact List.le_append_left (path ▸ later b inside)

/-- The directory that a path goes through is the one unpacked into, or it was added. -/
theorem Unpacked.parent (unpacked : Unpacked permits dest here added t) {parent : Loc} (above : parent = [] ∨ .Dir parent ∈ added) :
    t.enter (path_to (dest ++ parent)) = .ok (here ++ parent) := by
  rcases above with rfl | inside
  · rw [List.append_nil, List.append_nil]
    exact unpacked.entered
  · exact unpacked.dirs parent inside

theorem path_snoc (dest parent : Loc) (name : String) :
    path_to (dest ++ (parent ++ [name])) = path_to (dest ++ parent) ++ [.Normal name] := by
  simp [path_to]

variable {parent : Loc} {name : String}

/-- A directory is made. -/
theorem create_dir_all_stands (entered : t.enter (path_to (dest ++ parent)) = .ok (here ++ parent))
    (vacant : t.node (here ++ (parent ++ [name])) = none) (permitted : t.permits (here ++ (parent ++ [name])) = true) :
    ∃ u, create_dir_all (dest ++ (parent ++ [name])) t = (.ok (), u) ∧ Stands dest here t u (.Dir (parent ++ [name])) := by
  rw [← List.append_assoc] at vacant permitted
  have named : here ++ parent ++ [name] ≠ [] := by simp
  have grown : Grown t (t.put (here ++ parent ++ [name]) .dir) := put_grown named vacant .dir
  have seen := t.put_node named .dir
  refine ⟨_, List.append_assoc dest parent [name] ▸ create_dir_all_next entered vacant permitted, grown, rfl, fun _ _ _ => rfl,
    fun loc there was => ?_, ?_⟩
  · change loc = here ++ (parent ++ [name])
    rw [seen] at there
    by_contra other
    rw [← List.append_assoc] at other
    rw [if_neg other] at there
    exact there was
  · change Tree.enter _ (path_to (dest ++ (parent ++ [name]))) = .ok (here ++ (parent ++ [name]))
    rw [path_snoc, ← List.append_assoc]
    exact enter_last (enter_grown grown entered) ((seen _).trans (if_pos rfl))

/-- A directory that is made is one that the destination takes. -/
theorem create_dir_all_permitted (entered : t.enter (path_to (dest ++ parent)) = .ok (here ++ parent))
    (vacant : t.node (here ++ (parent ++ [name])) = none) (made : create_dir_all (dest ++ (parent ++ [name])) t = (.ok (), u)) :
    t.permits (here ++ (parent ++ [name])) = true := by
  rw [← List.append_assoc] at vacant made ⊢
  by_contra refused
  rw [create_dir_all, List.reverse_concat, Tree.landing, List.reverse_reverse, entered] at made
  simp only at made
  rw [if_pos vacant] at made
  simp only at made
  rw [make_all, bind_run, add, vacant] at made
  simp only at made
  rw [if_neg refused] at made
  cases made

/-- A name that is given is one that the place takes. -/
theorem rename_permitted {source target : List Component} {loc : Loc} (renamed : rename source target t = (.ok (), u))
    (spot : t.spot target = .ok loc) : t.permits loc = true := by
  rw [rename] at renamed
  cases first : t.spot source with
  | error error =>
    rw [first] at renamed
    cases renamed
  | ok from_loc =>
    simp only [first, spot] at renamed
    split_ifs at renamed with missing standing above permitted
    · cases renamed
    · cases renamed
    · cases renamed
    · exact permitted
    · cases renamed

section Entry
variable (s : Setting) (force : Bool) (content : List UInt8) (rooted : Rooted t)
  (entered : t.enter (path_to (dest ++ parent)) = .ok (here ++ parent))
  (free : ∀ rest, t.node (here ++ (parent ++ [name]) ++ rest) = none)
  (bare : ∀ rest, t.node (here ++ (parent ++ [dotted name ++ ".part"]) ++ rest) = none)
include rooted entered free bare

/-- Where the name of a file is free, with the one it is written through. -/
theorem entry_spots :
    create_dir_all (dest ++ (parent ++ [name])).dropLast t = (.ok (), t) ∧
      stands t (dest ++ (parent ++ [name])) .Name = false ∧
      t.spot (path_to (dest ++ (parent ++ [name]))) = .ok (here ++ (parent ++ [name])) ∧
      t.spot (Setting.tmp (dest ++ (parent ++ [name]))) = .ok (here ++ (parent ++ [dotted name ++ ".part"])) ∧
      t.place (Setting.tmp (dest ++ (parent ++ [name]))) = .ok (here ++ (parent ++ [dotted name ++ ".part"])) := by
  have vacant : t.node (here ++ (parent ++ [name])) = none := by simpa using free []
  have unused : t.node (here ++ (parent ++ [dotted name ++ ".part"])) = none := by simpa using bare []
  have made : create_dir_all (dest ++ (parent ++ [name])).dropLast t = (.ok (), t) := by
    rw [← List.append_assoc, List.dropLast_concat]
    exact create_dir_all_there rooted entered
  have its : t.spot (path_to (dest ++ (parent ++ [name]))) = .ok (here ++ (parent ++ [name])) := by
    rw [path_snoc, ← List.append_assoc]
    exact spot_last entered name
  have beside : t.spot (Setting.tmp (dest ++ (parent ++ [name]))) = .ok (here ++ (parent ++ [dotted name ++ ".part"])) := by
    rw [← List.append_assoc, tmp_snoc, List.append_assoc, path_snoc, ← List.append_assoc]
    exact spot_last entered _
  refine ⟨made, ?_, its, beside, place_of_spot beside fun _ _ linked => (by cases unused.symm.trans linked)⟩
  rw [stands, Tree.path_exists, place_of_spot its fun _ _ linked => (by cases vacant.symm.trans linked)]
  simp only [vacant]
  rfl

/-- A file that is written is one whose name the destination takes, with the one it is written through. -/
theorem write_entry_permitted (wrote : s.write_entry force (dest ++ (parent ++ [name])) .Name content none t = (.ok (), u)) :
    t.permits (here ++ (parent ++ [name])) = true ∧ t.permits (here ++ (parent ++ [dotted name ++ ".part"])) = true := by
  obtain ⟨made, missing, its, beside, placed⟩ := entry_spots rooted entered free bare
  rcases @write_entry_cases s force _ .Name content none t with ⟨error, ended⟩ | ⟨v, inode, w, again, -, opened⟩
  · cases ended.symm.trans wrote
  · cases made.symm.trans again
    obtain ⟨loc, place, permitted, -, came⟩ := create_file_of_ok opened
    cases placed.symm.trans place
    have permits : (w.write inode content).permits = t.permits := by
      rcases came with ⟨-, -, rfl⟩ | ⟨-, rfl⟩ <;> rfl
    have grown : Grown t (w.write inode content) := by
      rcases came with ⟨vacant, -, rfl⟩ | ⟨-, rfl⟩
      · exact put_grown (by simp) vacant _
      · exact fun _ _ there => there
    rcases @write_entry_opened s t t force _ .Name content none _ _ made (fun _ => missing) opened with
      ⟨-, error, ended⟩ | ⟨x, renamed, ended⟩
    · cases ended.symm.trans wrote
    · exact ⟨permits ▸ rename_permitted renamed (spot_grown grown its), permitted⟩

/-- A file is written, through a name where nothing stands. -/
theorem write_entry_stands (sparse : Bool) (allowed : t.permits (here ++ (parent ++ [name])) = true)
    (allowed_beside : t.permits (here ++ (parent ++ [dotted name ++ ".part"])) = true) :
    ∃ u, s.write_entry force (dest ++ (parent ++ [name])) .Name content none t = (.ok (), u) ∧
      Stands dest here t u (.File (parent ++ [name]) content sparse) := by
  obtain ⟨made, missing, its, beside, placed⟩ := entry_spots rooted entered free bare
  simp only [← List.append_assoc here] at free bare its beside placed allowed allowed_beside
  have vacant : t.node (here ++ parent ++ [name]) = none := by simpa using free []
  have unused : t.node (here ++ parent ++ [dotted name ++ ".part"]) = none := by simpa using bare []
  have named : here ++ parent ++ [dotted name ++ ".part"] ≠ [] := by simp
  have given : here ++ parent ++ [name] ≠ [] := by simp
  -- The file is made beside its name.
  have opened : create_file (Setting.tmp (dest ++ (parent ++ [name]))) t =
      (.ok t.next, t.create (here ++ parent ++ [dotted name ++ ".part"]) []) := by
    rw [create_file, placed]
    simp only
    rw [if_pos allowed_beside, unused]
  -- It takes the name.
  have grown : Grown t ((t.create (here ++ parent ++ [dotted name ++ ".part"]) []).write t.next content) :=
    put_grown named unused (.file t.next)
  have node (loc : Loc) : ((t.create (here ++ parent ++ [dotted name ++ ".part"]) []).write t.next content).node loc =
      if loc = here ++ parent ++ [dotted name ++ ".part"] then some (.file t.next) else t.node loc :=
    t.put_node named (.file t.next) loc
  have apart : here ++ parent ++ [name] ≠ here ++ parent ++ [dotted name ++ ".part"] := by
    intro same
    exact part_ne name (List.singleton_inj.mp (List.append_cancel_left same)).symm
  have renamed := rename_file (spot_grown grown beside) ((node _).trans (if_pos rfl)) (spot_grown grown its)
    (by rw [node, if_neg apart, vacant]; simp) allowed
  have seen := moved_node t named given bare free content
  rcases @write_entry_opened s t t force _ .Name content none _ _ made (fun _ => missing) opened with
    ⟨failed, -⟩ | ⟨w, moved, wrote⟩
  · obtain ⟨error, refused⟩ := failed rfl
    cases renamed.symm.trans refused
  · cases renamed.symm.trans moved
    refine ⟨_, wrote, fun loc other standing => ?_, rfl, fun loc inode standing => ?_, fun loc there was => ?_,
      t.next, ?_, ?_⟩
    · rw [seen, if_neg]
      · exact standing
      · rintro rfl
        cases vacant.symm.trans standing
    · have older : inode ≠ t.next := Nat.ne_of_lt (node_lt standing)
      simp [Tree.move, Tree.write, Tree.create, older]
    · change loc = here ++ (parent ++ [name])
      rw [seen] at there
      by_contra other
      rw [← List.append_assoc] at other
      rw [if_neg other] at there
      exact there was
    · rw [← List.append_assoc, seen, if_pos rfl]
    · simp [Tree.move, Tree.write]

end Entry

/-- What is below the ceiling adds up as it is counted. -/
theorem unpacked_bytes {bytes : UInt64} {size : Nat} (fits : bytes.toNat + size ≤ MAX_UNPACKED_BYTES.toNat) :
    (bytes + UInt64.ofNat size).toNat = bytes.toNat + size := by
  have ceiling : MAX_UNPACKED_BYTES.toNat = 536870912 := by decide
  rw [UInt64.toNat_add, UInt64.toNat_ofNat']
  omega

/-- One entry: it is there when it was unpacked, beside all that was. -/
theorem Unpacked.step (s : Setting) (force : Bool) (unpacked : Unpacked permits s.dest here added t)
    (path : a.rel = parent ++ [name]) (above : parent = [] ∨ .Dir parent ∈ added) (later : ∀ b ∈ added, b.rel < a.rel)
    (portable : a.Portable permits here) {report : UnpackReport} (fits : report.bytes.toNat + a.size ≤ MAX_UNPACKED_BYTES.toNat) :
    ∃ job told u, a.job s.dest = .ok job ∧ s.unpack_job force report job t = (.ok told, u) ∧
      told.bytes.toNat = report.bytes.toNat + a.size ∧ Unpacked permits s.dest here (added ++ [a]) u := by
  have entered := unpacked.parent above
  have dir := (enter_eq_ok.mp entered).2
  have some_name : parent ++ [name] ≠ [] := by simp
  have free := unpacked.vacant (path ▸ later) some_name
  cases a with
  | Dir rel =>
    obtain rfl : rel = parent ++ [name] := path
    have vacant : t.node (here ++ (parent ++ [name])) = none := by simpa using free []
    obtain ⟨u, made, stands⟩ := create_dir_all_stands entered vacant (unpacked.permits ▸ portable)
    refine ⟨_, report, u, rfl, ?_, rfl, unpacked.add stands (stands.rooted unpacked.rooted rfl dir)⟩
    have made : make_dir (s.dest ++ (parent ++ [name])) .Name t = (.ok (), u) := made
    rw [Setting.unpack_job, bind_run, Setting.io, made]
    rfl
  | File rel content sparse =>
    obtain rfl : rel = parent ++ [name] := path
    obtain ⟨allowed, beside, rfl⟩ := portable
    rw [← unpacked.permits] at allowed beside
    have after : parent ++ [name] < parent ++ [dotted name ++ ".part"] :=
      List.append_left_lt (List.cons_lt_cons_iff.mpr (.inl (lt_part name)))
    have bare := unpacked.vacant (fun b inside => List.lt_trans (later b inside) after) (by simp)
    obtain ⟨u, wrote, stands⟩ := write_entry_stands s force content unpacked.rooted entered free bare false allowed
      (part_snoc parent name ▸ beside)
    have counted : (report.bytes + UInt64.ofNat content.length).toNat = report.bytes.toNat + content.length := unpacked_bytes fits
    refine ⟨_, ⟨report.files + 1, report.bytes + UInt64.ofNat content.length⟩, u, rfl, ?_, counted,
      unpacked.add stands (stands.rooted unpacked.rooted rfl dir)⟩
    have below : ¬ MAX_UNPACKED_BYTES < report.bytes + UInt64.ofNat content.length := by
      rw [UInt64.lt_iff_toNat_lt, counted]
      exact Nat.not_lt.mpr fits
    rw [Setting.unpack_job, bind_of_ok wrote, bind_run, ofExcept_run, check_unpacked, if_neg below]
    rfl

/-- An entry that is unpacked is one that the destination takes. -/
theorem Unpacked.portable (s : Setting) (force : Bool) (unpacked : Unpacked permits s.dest here added t)
    (path : a.rel = parent ++ [name]) (above : parent = [] ∨ .Dir parent ∈ added) (later : ∀ b ∈ added, b.rel < a.rel)
    {job : Job} {report told : UnpackReport} (read : a.job s.dest = .ok job)
    (done : s.unpack_job force report job t = (.ok told, u)) : a.Portable permits here := by
  have entered := unpacked.parent above
  have some_name : parent ++ [name] ≠ [] := by simp
  have free := unpacked.vacant (path ▸ later) some_name
  cases a with
  | Dir rel =>
    obtain rfl : rel = parent ++ [name] := path
    cases read
    have vacant : t.node (here ++ (parent ++ [name])) = none := by simpa using free []
    rw [Setting.unpack_job, bind_eq_ok] at done
    obtain ⟨⟨⟩, v, made, -⟩ := done
    rw [Setting.io] at made
    cases dirs : make_dir (s.dest ++ (parent ++ [name])) .Name t with
    | mk result w =>
      rw [dirs] at made
      cases result with
      | error error => cases made
      | ok _ => exact unpacked.permits ▸ create_dir_all_permitted entered vacant dirs
  | File rel content sparse =>
    obtain rfl : rel = parent ++ [name] := path
    cases sparse with
    | true => cases read
    | false =>
      cases read
      have after : parent ++ [name] < parent ++ [dotted name ++ ".part"] :=
        List.append_left_lt (List.cons_lt_cons_iff.mpr (.inl (lt_part name)))
      have bare := unpacked.vacant (fun b inside => List.lt_trans (later b inside) after) (by simp)
      rw [Setting.unpack_job, bind_eq_ok] at done
      obtain ⟨⟨⟩, v, wrote, -⟩ := done
      obtain ⟨allowed, beside⟩ := write_entry_permitted s force content unpacked.rooted entered free bare wrote
      rw [unpacked.permits] at allowed beside
      exact ⟨allowed, (part_snoc parent name).symm ▸ beside, rfl⟩

/-- All entries, in the order of their paths, each below a directory that comes before it: they are unpacked to the last
    just where the destination takes every one of them. -/
theorem Unpacked.run (s : Setting) (force : Bool) (rest : List Added) (unpacked : Unpacked permits s.dest here added t)
    (sorted : (added ++ rest).Pairwise fun a b => a.rel < b.rel)
    (closed : ∀ a ∈ rest, ∃ parent name, a.rel = parent ++ [name] ∧ (parent = [] ∨ .Dir parent ∈ added ++ rest))
    {report : UnpackReport} (fits : report.bytes.toNat + (rest.map Added.size).sum ≤ MAX_UNPACKED_BYTES.toNat) :
    (∀ told u, s.unpack_jobs force report (rest.map (Added.job s.dest)) t = (.ok told, u) →
      (∀ a ∈ rest, a.Portable permits here) ∧ Unpacked permits s.dest here (added ++ rest) u) ∧
    ((∀ a ∈ rest, a.Portable permits here) → ∃ told u, s.unpack_jobs force report (rest.map (Added.job s.dest)) t = (.ok told, u)) := by
  induction rest generalizing added t report with
  | nil =>
    refine ⟨fun told u done => ?_, fun _ => ⟨report, t, rfl⟩⟩
    cases done
    exact ⟨fun a inside => (by cases inside), (List.append_nil added).symm ▸ unpacked⟩
  | cons a rest ih =>
    have regroup : added ++ a :: rest = added ++ [a] ++ rest := by simp
    obtain ⟨-, ordered, before⟩ := List.pairwise_append.mp sorted
    obtain ⟨parent, name, path, above⟩ := closed a List.mem_cons_self
    have higher : parent < a.rel := path ▸ lt_below parent (by simp)
    -- The directory comes before what is in it.
    have there : parent = [] ∨ .Dir parent ∈ added := by
      refine above.imp_right fun inside => ?_
      rcases List.mem_append.mp inside with earlier | later
      · exact earlier
      · rcases List.mem_cons.mp later with rfl | after
        · exact absurd higher (List.lt_irrefl parent)
        · exact absurd ((List.pairwise_cons.mp ordered).1 _ after) (List.lt_asymm higher)
    have earlier : ∀ b ∈ added, b.rel < a.rel := fun b inside => before b inside a List.mem_cons_self
    rw [List.map_cons, List.sum_cons] at fits
    by_cases portable : a.Portable permits here
    · have room : report.bytes.toNat + a.size ≤ MAX_UNPACKED_BYTES.toNat := by omega
      obtain ⟨job, further, v, read, done, counted, now⟩ := unpacked.step s force path there earlier portable room
      have left : further.bytes.toNat + (rest.map Added.size).sum ≤ MAX_UNPACKED_BYTES.toNat := by omega
      have below (b : Added) (inside : b ∈ rest) :
          ∃ parent name, b.rel = parent ++ [name] ∧ (parent = [] ∨ .Dir parent ∈ added ++ [a] ++ rest) := by
        rw [← regroup]
        exact closed b (List.mem_cons_of_mem _ inside)
      obtain ⟨ends, goes⟩ := ih now (regroup ▸ sorted) below left
      rw [List.map_cons, Setting.unpack_jobs, read, bind_of_ok (ofExcept_run _ t), bind_of_ok done, regroup, List.forall_mem_cons]
      refine ⟨fun told u finished => ?_, fun each => goes each.2⟩
      obtain ⟨each, whole⟩ := ends told u finished
      exact ⟨⟨portable, each⟩, whole⟩
    · -- The first entry is refused, or not written.
      refine ⟨fun told u done => absurd ?_ portable, fun each => absurd (each a List.mem_cons_self) portable⟩
      rw [List.map_cons, Setting.unpack_jobs, bind_eq_ok] at done
      obtain ⟨job, v, read, done⟩ := done
      rw [ofExcept_run, Prod.mk.injEq] at read
      obtain ⟨read, rfl⟩ := read
      rw [bind_eq_ok] at done
      obtain ⟨further, w, first, -⟩ := done
      exact unpacked.portable s force path there earlier read first

/-- An empty directory holds what nothing was added to. -/
theorem EmptyDirectory.unpacked {disk : Disk} (empty : EmptyDirectory disk.val dest here) :
    Unpacked disk.val.permits dest here [] disk.val := by
  refine ⟨disk.property, empty.entered, rfl, fun rel inside => (by cases inside), fun rel content sparse inside => ?_,
    fun rel some_name there => ?_⟩
  · exact absurd inside List.not_mem_nil
  · exact absurd (empty.empty rel some_name) there

/-- The files in the directory are those that were added. -/
theorem Unpacked.file_iff (unpacked : Unpacked permits dest here added t) (rel : Loc) (content : List UInt8) :
    (∃ inode, t.node (here ++ rel) = some (.file inode) ∧ (t.files inode).content = content) ↔
      ∃ sparse, .File rel content sparse ∈ added := by
  constructor
  · rintro ⟨inode, standing, rfl⟩
    have some_name : rel ≠ [] := by
      rintro rfl
      rw [List.append_nil, (enter_eq_ok.mp unpacked.entered).2] at standing
      cases standing
    obtain ⟨a, inside, path⟩ := unpacked.only rel some_name (by simp [standing])
    cases a with
    | Dir other =>
      obtain rfl : other = rel := path
      cases standing.symm.trans (enter_eq_ok.mp (unpacked.dirs other inside)).2
    | File other bytes sparse =>
      obtain rfl : other = rel := path
      obtain ⟨same, there, its⟩ := unpacked.files other bytes sparse inside
      cases standing.symm.trans there
      exact ⟨sparse, its ▸ inside⟩
  · rintro ⟨sparse, inside⟩
    exact unpacked.files rel content sparse inside

end Steps

/-- What is packed: below its directories, which are packed too, under names that pass the checks. -/
theorem project_entry (w : Workspace) {a : Added} (inside : a ∈ w.project) :
    (a.rel ≠ [] ∧ (∀ name ∈ a.rel, Listing.FileName name) ∧ a.rel.head? ≠ some HOST_STATE_DIR) ∧
      ∃ parent name, a.rel = parent ++ [name] ∧ (parent = [] ∨ .Dir parent ∈ w.project) := by
  obtain ⟨listed, project⟩ := List.mem_filter.mp inside
  have kept : a.rel.head? ≠ some HOST_STATE_DIR := of_decide_eq_true project
  have some_name := contents_ne_nil listed
  refine ⟨⟨some_name, contents_named w.property listed, kept⟩, ?_⟩
  obtain ⟨parent, name, path⟩ := (List.eq_nil_or_concat' a.rel).resolve_left some_name
  refine ⟨parent, name, path, ?_⟩
  rcases contents_closed listed path with top | above
  · exact .inl top
  · by_cases top : parent = []
    · exact .inl top
    · refine .inr (List.mem_filter.mpr ⟨above, decide_eq_true ?_⟩)
      rwa [path, List.head?_append_of_ne_nil _ top] at kept

/-- An import that ends well, after which the files in the directory are those of the project, with their bytes. -/
def Reproduces (w : Workspace) (dest here : Loc) (ended : Except HostError UnpackReport × Tree) : Prop :=
  (∃ told, ended.1 = .ok told) ∧ ended.2.enter (path_to dest) = .ok here ∧
    ∀ rel content, (∃ inode, ended.2.node (here ++ rel) = some (.file inode) ∧ (ended.2.files inode).content = content) ↔
      (∃ sparse, .File rel content sparse ∈ w.val.contents) ∧ rel.head? ≠ some HOST_STATE_DIR

section Project
variable {Packed : Type} (libraries : TarGz Packed) (round_trip : libraries.RoundTrips) (s : Setting) (force : Bool) (w : Workspace)
  (fits : (w.project.map Added.size).sum ≤ MAX_UNPACKED_BYTES.toNat) (disk : Disk) (here : Loc)
  (empty : EmptyDirectory disk.val s.dest here)
include round_trip fits empty

/-- A packed project is unpacked to its end just where the destination takes all of it. -/
theorem packed_run :
    (∀ told u, s.unpack_archive (.TarGz (libraries.entries (pack_workspace libraries (some w)))) force disk.val = (.ok told, u) →
      (∀ a ∈ w.project, a.Portable disk.val.permits here) ∧
        Unpacked disk.val.permits s.dest here (add_dir true [] w.val) u) ∧
    ((∀ a ∈ w.project, a.Portable disk.val.permits here) → ∃ told u,
      s.unpack_archive (.TarGz (libraries.entries (pack_workspace libraries (some w)))) force disk.val = (.ok told, u)) := by
  have perm := add_root_perm w
  have jobs : (Archive.TarGz (libraries.entries (pack_workspace libraries (some w)))).jobs s.dest =
      .ok ((add_dir true [] w.val).map (Added.job s.dest)) := by
    rw [pack_workspace, round_trip]
    exact tar_jobs_packed s.dest fun a inside => (project_entry w (perm.mem_iff.mp inside)).1
  have sums : (⟨0, 0⟩ : UnpackReport).bytes.toNat + ((add_dir true [] w.val).map Added.size).sum ≤ MAX_UNPACKED_BYTES.toNat := by
    rw [(perm.map Added.size).sum_nat]
    simpa using fits
  have runs : s.unpack_archive (.TarGz (libraries.entries (pack_workspace libraries (some w)))) force disk.val =
      s.unpack_jobs force ⟨0, 0⟩ ((add_dir true [] w.val).map (Added.job s.dest)) disk.val := by
    rw [Setting.unpack_archive, bind_run, Setting.io, create_dir_all_there disk.property empty.entered]
    simp only [Except.mapError]
    rw [bind_run, ofExcept_run, jobs]
  have run := empty.unpacked.run s force (add_dir true [] w.val) (add_dir_sorted w.property true [])
    (fun a inside => by
      obtain ⟨-, parent, name, path, above⟩ := project_entry w (perm.mem_iff.mp inside)
      exact ⟨parent, name, path, above.imp_right perm.mem_iff.mpr⟩)
    sums
  have each : (∀ a ∈ add_dir true [] w.val, a.Portable disk.val.permits here) ↔ ∀ a ∈ w.project, a.Portable disk.val.permits here :=
    forall_congr' fun a => by rw [perm.mem_iff]
  rw [List.nil_append, each] at run
  rwa [runs]

/-- A packed project, unpacked into an empty directory, is there again with all its files and no others, just where the
    directory takes every path of it, with those that files are written through, and no file is sparse. -/
theorem project_round_trip :
    Reproduces w s.dest here
        (s.unpack_archive (.TarGz (libraries.entries (pack_workspace libraries (some w)))) force disk.val) ↔
      ∀ a ∈ w.project, a.Portable disk.val.permits here := by
  obtain ⟨ends, goes⟩ := packed_run libraries round_trip s force w fits disk here empty
  constructor
  · rintro ⟨⟨told, done⟩, -, -⟩
    exact (ends told _ (Prod.ext done rfl)).1
  · intro portable
    obtain ⟨told, u, done⟩ := goes portable
    obtain ⟨-, unpacked⟩ := ends told u done
    rw [done]
    refine ⟨⟨told, rfl⟩, unpacked.entered, fun rel content => ?_⟩
    have project (sparse : Bool) : .File rel content sparse ∈ w.project ↔
        .File rel content sparse ∈ w.val.contents ∧ rel.head? ≠ some HOST_STATE_DIR := by
      rw [Workspace.project, List.mem_filter, decide_eq_true_eq]
      rfl
    rw [unpacked.file_iff]
    simp only [(add_root_perm w).mem_iff, project, exists_and_right]

end Project

/-- A file, one whose name is the one the first is written through, the host's own state, and the same name further down. -/
def sources : Workspace :=
  ⟨.file "a..part" [2] false (.dir ".riscdom" (.file "audit.db" [9] false .nil) (.file "a" [1] false
      (.dir "src" (.dir ".riscdom" (.file "b" [3] false .nil) .nil) (.link "out" .nil)))), by decide⟩

/-- What was added is its own archive. -/
def as_added : TarGz (List Added) := ⟨id, fun added => .ok (added.map fun a => .ok a.held)⟩

/-- An empty workspace, on a disk that takes names of up to 255 bytes. -/
def bare : Tree where
  names loc := if loc = ["w"] then some .dir else none
  files _ := ⟨[], 0⟩
  next := 0
  permits loc := loc.all fun name => name.utf8ByteSize ≤ 255
  unused loc inode named := by split at named <;> cases named

theorem bare_rooted : Rooted bare := by
  intro loc name there
  rw [FileTree.Tree.node, if_neg (by simp)] at there
  simp only [bare] at there
  by_cases top : loc ++ [name] = ["w"]
  · cases loc with
    | nil => rfl
    | cons first rest => simp at top
  · rw [if_neg top] at there
    exact absurd rfl there

theorem bare_empty : EmptyDirectory bare ["w"] ["w"] := by
  refine ⟨by decide +kernel, fun rest some_name => ?_⟩
  rw [FileTree.Tree.node, if_neg (by simp)]
  simp [bare, some_name]

theorem sources_round_trip : Reproduces sources ["w"] ["w"]
    (workspace.unpack_archive (.TarGz (as_added.entries (pack_workspace as_added (some sources)))) false bare) :=
  (project_round_trip as_added (fun _ => rfl) workspace false sources (by decide) ⟨bare, bare_rooted⟩ ["w"] bare_empty).mpr
    (by decide +kernel)

/-- A name as long as the disk takes one. -/
def long_name : String := .ofList (List.replicate 255 'a')

theorem long_name_listed : Listing.FileName long_name := by
  have chars : long_name.toList = List.replicate 255 'a' := String.toList_ofList
  have other (text : String) (short : text.toList.length < 255) : long_name ≠ text := by
    rintro rfl
    rw [chars, List.length_replicate] at short
    exact Nat.lt_irrefl _ short
  have only (c : Char) (inside : c ∈ long_name.toList) : c = 'a' := List.eq_of_mem_replicate (chars ▸ inside)
  refine ⟨⟨other "" (by decide), other "." (by decide), other ".." (by decide), fun slash => ?_⟩, fun backslash => ?_⟩
  · cases only _ slash
  · cases only _ backslash

/-- A workspace with one file, of that name. -/
def long_named : Workspace := ⟨.file long_name [] false .nil, long_name_listed, List.not_mem_nil, trivial⟩

/-- The directory takes the name, and not the longer one that the file is written through. -/
theorem long_name_refused : ¬ ∀ (libraries : TarGz (List Added)), libraries.RoundTrips → ∀ (s : Setting) (force : Bool) (w : Workspace),
    (w.project.map Added.size).sum ≤ MAX_UNPACKED_BYTES.toNat → ∀ (disk : Disk) (here : Loc), EmptyDirectory disk.val s.dest here →
      (∀ a ∈ w.project, disk.val.permits (here ++ a.rel) = true) →
        Reproduces w s.dest here
          (s.unpack_archive (.TarGz (libraries.entries (pack_workspace libraries (some w)))) force disk.val) := by
  intro law
  have project : long_named.project = [.File [long_name] [] false] := by decide +kernel
  obtain ⟨⟨told, done⟩, -, -⟩ := law as_added (fun _ => rfl) workspace false long_named (by decide +kernel) ⟨bare, bare_rooted⟩
    ["w"] bare_empty (by decide +kernel)
  obtain ⟨-, beside, -⟩ := (packed_run as_added (fun _ => rfl) workspace false long_named (by decide +kernel) ⟨bare, bare_rooted⟩
    ["w"] bare_empty).1 told _ (Prod.ext done rfl) |>.1 (.File [long_name] [] false) (by simp [project])
  obtain ⟨more, some_more, longer⟩ := part_text long_name
  have size : long_name.utf8ByteSize = 255 := by decide +kernel
  have added : more.utf8ByteSize ≠ 0 := fun none_added => some_more (String.utf8ByteSize_eq_zero_iff.mp none_added)
  have whole : (dotted long_name ++ ".part").utf8ByteSize ≤ 255 := by
    simp only [part, bare, List.getLast?_singleton, List.dropLast_singleton, List.nil_append, List.cons_append, List.all_cons,
      Bool.and_eq_true, decide_eq_true_eq] at beside
    exact beside.2.1
  rw [longer, String.utf8ByteSize_append] at whole
  omega

end Riscdom.WorkspaceIo
