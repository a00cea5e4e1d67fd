import Riscdom.FileTree

/-!
Removals, moves and look-ups. A set of places is tidy where no link stands at one
of them and a directory stands wherever something is below one: then a path through
them leads where it says, and the calls of the file system keep the set tidy.
-/
namespace Riscdom.FileTree
open Riscdom.Agent (Component)
open Riscdom.Fallible Fallible.Act

namespace Tree
variable (t : Tree)

/-- Where the host may make or write something from now on. -/
def allow (permits : Loc → Bool) : Tree := { t with permits := permits }

@[simp] theorem allow_node (permits : Loc → Bool) (loc : Loc) : (t.allow permits).node loc = t.node loc := rfl
@[simp] theorem allow_view (permits : Loc → Bool) (loc : Loc) : (t.allow permits).view loc = t.view loc := rfl

/-- The names taken away, with all that is below them. -/
def prune (gone : List Loc) : Tree where
  names loc := if ∃ g ∈ gone, g <+: loc then none else t.names loc
  files := t.files
  next := t.next
  permits := t.permits
  unused loc inode named := by
    split at named
    · cases named
    · exact t.unused loc inode named

/-- A name given to another place, with all that is below it. -/
def move (source target : Loc) : Tree where
  names loc :=
    if target <+: loc then t.names (source ++ loc.drop target.length)
    else if source <+: loc then none
    else t.names loc
  files := t.files
  next := t.next
  permits := t.permits
  unused loc inode named := by
    split at named
    · exact t.unused _ inode named
    · split at named
      · cases named
      · exact t.unused loc inode named

/-! ### What there is -/

def path_exists (path : List Component) : Bool :=
  match t.place path with
  | .ok loc => (t.node loc).isSome
  | .error _ => false

def is_dir (path : List Component) : Bool := (t.enter path).isOk

def is_file (path : List Component) : Bool :=
  match t.place path with
  | .ok loc =>
    match t.node loc with
    | some (.file _) => true
    | _ => false
  | .error _ => false

def read (path : List Component) : Except IoError (List UInt8) :=
  match t.place path with
  | .error error => .error error
  | .ok loc =>
    match t.node loc with
    | some (.file inode) => .ok (t.files inode).content
    | some .dir => .error .IsADirectory
    | some (.link _ _) => .error .FilesystemLoop
    | none => .error .NotFound

end Tree

/-! ### More calls -/

def remove_file (path : List Component) : Call Unit := fun t =>
  match t.spot path with
  | .error error => (.error error, t)
  | .ok loc =>
    match t.node loc with
    | none => (.error .NotFound, t)
    | some .dir => (.error .IsADirectory, t)
    | some _ => if t.permits loc then (.ok (), t.prune [loc]) else (.error .PermissionDenied, t)

/-- A directory with all that is below it, or a link. A removal that is stopped has taken some names away. -/
def remove_dir_all (stopped : Option (List Loc)) (path : List Component) : Call Unit := fun t =>
  match t.spot path with
  | .error error => (.error error, t)
  | .ok loc =>
    match t.node loc with
    | none => (.error .NotFound, t)
    | some (.file _) => (.error .NotADirectory, t)
    | some _ =>
      match stopped with
      | none => (.ok (), t.prune [loc])
      | some gone => (.error .PermissionDenied, t.prune (gone.map fun below => loc ++ below))

/-- A name for what another stands for, which loses it. A file or a link of the name is replaced, but not by a directory. -/
def rename (source target : List Component) : Call Unit := fun t =>
  match t.spot source with
  | .error error => (.error error, t)
  | .ok from_loc =>
    if t.node from_loc = none then (.error .NotFound, t)
    else match t.spot target with
      | .error error => (.error error, t)
      | .ok to_loc =>
        if t.node to_loc = some .dir then (.error .AlreadyExists, t)
        else if t.node to_loc ≠ none ∧ t.node from_loc = some .dir then (.error .NotADirectory, t)
        else if t.permits to_loc then (.ok (), t.move from_loc to_loc)
        else (.error .PermissionDenied, t)

/-- A file opened through every link, made or emptied. -/
def create_file (path : List Component) : Call Nat := fun t =>
  match t.place path with
  | .error error => (.error error, t)
  | .ok loc =>
    if t.permits loc then
      match t.node loc with
      | none => (.ok t.next, t.create loc [])
      | some (.file inode) => (.ok inode, t.write inode [])
      | some .dir => (.error .IsADirectory, t)
      | some (.link _ _) => (.error .FilesystemLoop, t)
    else (.error .PermissionDenied, t)

/-- An open file written as far as there is something to write. -/
def copy_to (inode : Nat) (content : List UInt8) (broken : Option String) : Call Unit := fun t =>
  (written broken, t.write inode content)

/-! ### What removals and moves change -/

/-- What is seen at a directory and below it is the same. -/
def SameBelow (root : Loc) (t u : Tree) : Prop := ∀ loc, root <+: loc → u.view loc = t.view loc

theorem SameBelow.refl (root : Loc) (t : Tree) : SameBelow root t t := fun _ _ => rfl
theorem SameBelow.trans {root : Loc} {t u v : Tree} (first : SameBelow root t u) (second : SameBelow root u v) :
    SameBelow root t v := fun loc below => (second loc below).trans (first loc below)

/-- Outside one directory lies all that is below another beside it. -/
theorem SameOutside.below {root beside : Loc} {t u : Tree} (same : SameOutside root t u) (apart : ¬ root <+: beside)
    (aside : ¬ beside <+: root) : SameBelow beside t u := by
  intro loc below
  apply same
  intro inside
  rcases List.prefix_or_prefix_of_prefix inside below with first | second
  · exact apart first
  · exact aside second

namespace Tree
variable (t : Tree) {loc : Loc}

theorem prune_node (gone : List Loc) (named : loc ≠ []) :
    (t.prune gone).node loc = if ∃ g ∈ gone, g <+: loc then none else t.node loc := by
  simp [node, named, prune]

theorem prune_view {gone : List Loc} (kept : ¬ ∃ g ∈ gone, g <+: loc) : (t.prune gone).view loc = t.view loc := by
  have node : (t.prune gone).node loc = t.node loc := by
    by_cases top : loc = []
    · simp [Tree.node, top]
    · rw [prune_node t gone top, if_neg kept]
  rw [view, node, view]
  rfl

/-- Names are taken away, none is added. -/
theorem prune_node_of_some {gone : List Loc} {node : Node} (there : (t.prune gone).node loc = some node) :
    t.node loc = some node := by
  by_cases top : loc = []
  · simpa [Tree.node, top] using there
  · rw [prune_node t gone top] at there
    by_cases taken : ∃ g ∈ gone, g <+: loc
    · rw [if_pos taken] at there
      cases there
    · rwa [if_neg taken] at there

theorem move_node {source target : Loc} (named : source ≠ []) (given : target ≠ []) (loc : Loc) :
    (t.move source target).node loc = if target <+: loc then t.node (source ++ loc.drop target.length)
      else if source <+: loc then none else t.node loc := by
  by_cases top : loc = []
  · subst top
    simp [Tree.node, named, given]
  · simp [Tree.node, top, named, move]

theorem move_view {source target : Loc} (beside : ¬ target <+: loc) (kept : ¬ source <+: loc) :
    (t.move source target).view loc = t.view loc := by
  have node : (t.move source target).node loc = t.node loc := by
    simp [Tree.node, move, beside, kept]
  rw [view, node, view]
  rfl

theorem move_view_target {source target : Loc} (named : source ≠ []) (given : target ≠ []) (below : Loc) :
    (t.move source target).view (target ++ below) = t.view (source ++ below) := by
  have node : (t.move source target).node (target ++ below) = t.node (source ++ below) := by
    simp [Tree.node, move, named, given]
  rw [view, node, view]
  rfl

end Tree

/-- A file made at a place where nothing is, and moved to another: there is one file more. -/
theorem moved_node (t : Tree) {source target : Loc} (named : source ≠ []) (given : target ≠ [])
    (bare : ∀ rest, t.node (source ++ rest) = none) (free : ∀ rest, t.node (target ++ rest) = none) (content : List UInt8)
    (loc : Loc) : (((t.create source []).write t.next content).move source target).node loc =
      if loc = target then some (.file t.next) else t.node loc := by
  have made (other : Loc) : ((t.create source []).write t.next content).node other =
      if other = source then some (.file t.next) else t.node other := t.put_node named (.file t.next) other
  rw [Tree.move_node _ named given]
  by_cases inside : target <+: loc
  · obtain ⟨rest, rfl⟩ := inside
    rw [if_pos (List.prefix_append target rest), List.drop_left, made]
    by_cases last : rest = []
    · subst last
      simp
    · rw [if_neg (by simpa using last), if_neg (by simpa using last), bare, free]
  · have other : loc ≠ target := fun same => inside (same ▸ List.prefix_refl _)
    rw [if_neg inside, if_neg other]
    by_cases gone : source <+: loc
    · obtain ⟨rest, rfl⟩ := gone
      rw [if_pos (List.prefix_append source rest), bare]
    · have first : loc ≠ source := fun same => gone (same ▸ List.prefix_refl _)
      rw [if_neg gone, made, if_neg first]

/-- The path of plain names to a place. -/
abbrev path_to (loc : Loc) : List Component := loc.map .Normal

/-- A name is moved from its place to another where no directory is, or nothing is changed. -/
theorem rename_result (source target : List Component) (t : Tree) :
    (∃ error, rename source target t = (.error error, t)) ∨
      ∃ from_loc to_loc, t.spot source = .ok from_loc ∧ t.spot target = .ok to_loc ∧ t.node to_loc ≠ some .dir ∧
        rename source target t = (.ok (), t.move from_loc to_loc) := by
  rw [rename]
  cases first : t.spot source with
  | error error => exact .inl ⟨error, rfl⟩
  | ok from_loc =>
    simp only
    by_cases missing : t.node from_loc = none
    · rw [if_pos missing]
      exact .inl ⟨_, rfl⟩
    · rw [if_neg missing]
      cases second : t.spot target with
      | error error => exact .inl ⟨error, rfl⟩
      | ok to_loc =>
        simp only
        by_cases standing : t.node to_loc = some .dir
        · rw [if_pos standing]
          exact .inl ⟨_, rfl⟩
        · rw [if_neg standing]
          split
          · exact .inl ⟨_, rfl⟩
          · split
            · exact .inr ⟨from_loc, to_loc, rfl, rfl, standing, rfl⟩
            · exact .inl ⟨_, rfl⟩

/-- A file is given a name that no directory has, where the host may. -/
theorem rename_file {t : Tree} {source target : List Component} {from_loc to_loc : Loc} {inode : Nat}
    (first : t.spot source = .ok from_loc) (file : t.node from_loc = some (.file inode)) (second : t.spot target = .ok to_loc)
    (free : t.node to_loc ≠ some .dir) (permitted : t.permits to_loc) :
    rename source target t = (.ok (), t.move from_loc to_loc) := by
  rw [rename, first]
  simp only
  rw [if_neg (by simp [file]), second]
  simp only
  rw [if_neg free, if_neg (by simp [file]), if_pos permitted]

/-! ### Paths without links -/

/-- A directory is entered where a path leads to one. -/
theorem enter_eq_ok {t : Tree} {path : List Component} {loc : Loc} :
    t.enter path = .ok loc ↔ t.place path = .ok loc ∧ t.node loc = some .dir := by
  rw [Tree.enter]
  cases placed : t.place path with
  | error error => simp
  | ok place =>
    simp only [Except.ok.injEq]
    cases standing : t.node place with
    | none =>
      simp only [reduceCtorEq, false_iff, not_and]
      rintro rfl
      simp [standing]
    | some node =>
      constructor
      · intro entered
        cases node <;> cases entered
        exact ⟨rfl, standing⟩
      · rintro ⟨rfl, dir⟩
        cases standing.symm.trans dir
        rfl

/-- No link stands at a place or above it. -/
def Unlinked (t : Tree) (loc : Loc) : Prop :=
  ∀ above, above <+: loc → ∀ target made, t.node above ≠ some (.link target made)

/-- Directories stand above a place. -/
def Grounded (t : Tree) (loc : Loc) : Prop := ∀ above, above <+: loc → above ≠ loc → t.node above = some .dir

section Unlinked
variable {t : Tree} {loc there : Loc}

theorem Unlinked.above {above : Loc} (unlinked : Unlinked t loc) (shorter : above <+: loc) : Unlinked t above :=
  fun place higher => unlinked place (higher.trans shorter)

/-- Names that are no links are walked along as they stand, and all but the last are directories. -/
theorem walk_unlinked (follow : Loc → List Component → Except IoError Loc) {here names : Loc}
    (unlinked : ∀ above, above <+: names → ∀ target made, t.node (here ++ above) ≠ some (.link target made))
    (found : t.walk follow here (names.map .Normal) = .ok there) :
    there = here ++ names ∧ ∀ above, above <+: names → above ≠ [] → above ≠ names → t.node (here ++ above) = some .dir := by
  induction names generalizing here with
  | nil =>
    cases found
    refine ⟨(List.append_nil _).symm, fun above shorter other => ?_⟩
    exact absurd (List.prefix_nil.mp shorter) other
  | cons name rest ih =>
    have deeper (above : Loc) : here ++ [name] ++ above = here ++ name :: above := by simp
    have next : t.node (here ++ [name]) = some .dir → there = here ++ name :: rest ∧
        ∀ above, above <+: name :: rest → above ≠ [] → above ≠ name :: rest → t.node (here ++ above) = some .dir := by
      intro dir
      simp only [List.map_cons, Tree.walk, dir] at found
      have step := @ih (here ++ [name])
        (fun above shorter => deeper above ▸ unlinked (name :: above) ((List.cons_prefix_cons).mpr ⟨rfl, shorter⟩)) found
      refine ⟨deeper rest ▸ step.1, fun above shorter some_name other => ?_⟩
      cases above with
      | nil => exact absurd rfl some_name
      | cons first below =>
        obtain ⟨rfl, within⟩ := List.cons_prefix_cons.mp shorter
        by_cases last : below = []
        · subst last
          exact dir
        · exact deeper below ▸ step.2 below within last fun same => other (same ▸ rfl)
    have ends : rest = [] → there = here ++ [name] → there = here ++ name :: rest ∧
        ∀ above, above <+: name :: rest → above ≠ [] → above ≠ name :: rest → t.node (here ++ above) = some .dir := by
      rintro rfl ended
      refine ⟨ended, fun above shorter some_name other => ?_⟩
      cases above with
      | nil => exact absurd rfl some_name
      | cons first below =>
        obtain ⟨rfl, within⟩ := List.cons_prefix_cons.mp shorter
        exact absurd (List.prefix_nil.mp within ▸ rfl) other
    simp only [List.map_cons, Tree.walk] at found
    cases standing : t.node (here ++ [name]) with
    | none =>
      simp only [standing, List.map_eq_nil_iff] at found
      by_cases last : rest = []
      · rw [if_pos last] at found
        cases found
        exact ends last rfl
      · rw [if_neg last] at found
        cases found
    | some node =>
      cases node with
      | dir => exact next standing
      | link target made =>
        exact absurd standing (unlinked [name] (List.prefix_append [name] rest) target made)
      | file inode =>
        simp only [standing, List.map_eq_nil_iff] at found
        by_cases last : rest = []
        · rw [if_pos last] at found
          cases found
          exact ends last rfl
        · rw [if_neg last] at found
          cases found

theorem place_unlinked (unlinked : Unlinked t loc) (found : t.place (loc.map .Normal) = .ok there) :
    there = loc ∧ Grounded t loc := by
  have walked := walk_unlinked _ (fun above shorter => unlinked above shorter) found
  refine ⟨walked.1, fun above shorter other => ?_⟩
  by_cases top : above = []
  · rw [top]
    rfl
  · exact walked.2 above shorter top other

/-- Where directories stand above a place, its path leads there. -/
theorem walk_grounded (follow : Loc → List Component → Except IoError Loc) {here names : Loc}
    (dirs : ∀ above, above <+: names → above ≠ [] → above ≠ names → t.node (here ++ above) = some .dir)
    (unlinked : ∀ target made, t.node (here ++ names) ≠ some (.link target made)) :
    t.walk follow here (names.map .Normal) = .ok (here ++ names) := by
  induction names generalizing here with
  | nil => simp [Tree.walk]
  | cons name rest ih =>
    have deeper (above : Loc) : here ++ [name] ++ above = here ++ name :: above := by simp
    simp only [List.map_cons, Tree.walk]
    by_cases last : rest = []
    · subst last
      cases standing : t.node (here ++ [name]) with
      | none => simp
      | some node =>
        cases node with
        | dir => simp [Tree.walk]
        | link target made => exact absurd standing (unlinked target made)
        | file inode => simp
    · have dir := dirs [name] (List.prefix_append [name] rest) (by simp) (by simpa using Ne.symm last)
      simp only [dir]
      rw [← deeper rest]
      refine ih (fun above shorter some_name other => ?_) ?_
      · rw [deeper]
        exact dirs (name :: above) (List.cons_prefix_cons.mpr ⟨rfl, shorter⟩) (by simp) (by simpa using other)
      · rw [deeper]
        exact unlinked

theorem place_grounded (grounded : Grounded t loc) (unlinked : ∀ target made, t.node loc ≠ some (.link target made)) :
    t.place (loc.map .Normal) = .ok loc :=
  @walk_grounded t _ [] loc (fun above shorter _ other => grounded above shorter other) unlinked

theorem enter_unlinked (unlinked : Unlinked t loc) (found : t.enter (loc.map .Normal) = .ok there) :
    there = loc ∧ t.node loc = some .dir := by
  obtain ⟨placed, dir⟩ := enter_eq_ok.mp found
  obtain ⟨rfl, -⟩ := place_unlinked unlinked placed
  exact ⟨rfl, dir⟩

theorem enter_grounded (grounded : Grounded t loc) (dir : t.node loc = some .dir) : t.enter (loc.map .Normal) = .ok loc :=
  enter_eq_ok.mpr ⟨place_grounded grounded (by simp [dir]), dir⟩

theorem spot_unlinked {name : String} (unlinked : Unlinked t loc)
    (found : t.spot ((loc ++ [name]).map .Normal) = .ok there) : there = loc ++ [name] ∧ t.node loc = some .dir := by
  simp only [Tree.spot, List.map_append, List.map_cons, List.map_nil, List.getLast?_concat, List.dropLast_concat] at found
  cases entered : t.enter (loc.map .Normal) with
  | error error =>
    rw [entered] at found
    cases found
  | ok here =>
    obtain ⟨rfl, dir⟩ := enter_unlinked unlinked entered
    rw [entered] at found
    cases found
    exact ⟨rfl, dir⟩

theorem spot_grounded {name : String} (grounded : Grounded t loc) (dir : t.node loc = some .dir) :
    t.spot ((loc ++ [name]).map .Normal) = .ok (loc ++ [name]) := by
  simp only [Tree.spot, List.map_append, List.map_cons, List.map_nil, List.getLast?_concat, List.dropLast_concat,
    enter_grounded grounded dir]
  rfl

/-- A path can only lead below a name where that name is a directory. -/
theorem walk_below (follow : Loc → List Component → Except IoError Loc) {here names : Loc} {name : String}
    {rest : List Component} (dir : t.node here = some .dir)
    (unlinked : ∀ above, above <+: names → ∀ target made, t.node (here ++ above) ≠ some (.link target made))
    (found : t.walk follow here (names.map .Normal ++ .Normal name :: rest) = .ok there) :
    t.node (here ++ names) = some .dir := by
  induction names generalizing here with
  | nil => rwa [List.append_nil]
  | cons first more ih =>
    have deeper (above : Loc) : here ++ [first] ++ above = here ++ first :: above := by simp
    simp only [List.map_cons, List.cons_append, Tree.walk] at found
    cases standing : t.node (here ++ [first]) with
    | none => simp [standing] at found
    | some node =>
      cases node with
      | dir =>
        rw [← deeper more]
        refine ih standing (fun above shorter => ?_) ?_
        · rw [deeper]
          exact unlinked (first :: above) (List.cons_prefix_cons.mpr ⟨rfl, shorter⟩)
        · simpa [standing] using found
      | link target made => exact absurd standing (unlinked [first] (List.prefix_append [first] more) target made)
      | file inode => simp [standing] at found

theorem place_below {name : String} (unlinked : Unlinked t loc)
    (found : t.place ((loc ++ [name]).map .Normal) = .ok there) : t.node loc = some .dir := by
  rw [List.map_append] at found
  exact @walk_below t there _ [] loc name [] rfl (fun above shorter => unlinked above shorter) found

theorem read_unlinked (unlinked : Unlinked t loc) {bytes : List UInt8} (found : t.read (loc.map .Normal) = .ok bytes) :
    ∃ inode data, t.view loc = some (.file inode, some data) ∧ data.content = bytes := by
  rw [Tree.read] at found
  cases placed : t.place (loc.map .Normal) with
  | error error =>
    rw [placed] at found
    cases found
  | ok place =>
    obtain ⟨rfl, -⟩ := place_unlinked unlinked placed
    simp only [placed] at found
    cases standing : t.node place with
    | none =>
      rw [standing] at found
      cases found
    | some node =>
      rw [standing] at found
      cases node <;> cases found
      exact ⟨_, _, by rw [Tree.view, standing]; rfl, rfl⟩

/-- The names that are missing complete the place, below a directory. -/
theorem landing_unlinked {names here missing : List String} (unlinked : Unlinked t names.reverse)
    (found : t.landing names = .ok (here, missing)) : here ++ missing = names.reverse ∧ t.node here = some .dir := by
  induction names generalizing here missing with
  | nil =>
    cases found
    exact ⟨rfl, rfl⟩
  | cons name above ih =>
    rw [List.reverse_cons] at unlinked ⊢
    have higher := unlinked.above (List.prefix_append above.reverse [name])
    rw [Tree.landing] at found
    cases entered : t.enter (above.reverse.map .Normal) with
    | ok place =>
      obtain ⟨rfl, dir⟩ := enter_unlinked higher entered
      simp only [entered, List.reverse_cons] at found
      by_cases vacant : t.node (above.reverse ++ [name]) = none
      · rw [if_pos vacant] at found
        cases found
        exact ⟨rfl, dir⟩
      · rw [if_neg vacant] at found
        cases last : t.enter ((above.reverse ++ [name]).map .Normal) with
        | error error =>
          rw [last] at found
          cases found
        | ok there =>
          obtain ⟨rfl, standing⟩ := enter_unlinked unlinked last
          rw [last] at found
          cases found
          exact ⟨List.append_nil _, standing⟩
    | error error =>
      rw [entered] at found
      cases error with
      | NotFound =>
        cases landed : t.landing above with
        | error error =>
          rw [landed] at found
          cases found
        | ok pair =>
          obtain ⟨place, rest⟩ := pair
          have before := ih higher landed
          rw [landed] at found
          cases found
          exact ⟨by rw [← List.append_assoc, before.1], before.2⟩
      | _ => cases found

/-! ### What each call can do -/

section Cases
variable {name : String}

theorem remove_file_cases (unlinked : Unlinked t loc) :
    (remove_file ((loc ++ [name]).map .Normal) t).2 = t ∨
      (remove_file ((loc ++ [name]).map .Normal) t).2 = t.prune [loc ++ [name]] := by
  rw [remove_file]
  cases found : t.spot ((loc ++ [name]).map .Normal) with
  | error error => exact .inl rfl
  | ok place =>
    obtain ⟨rfl, -⟩ := spot_unlinked unlinked found
    simp only
    cases t.node (loc ++ [name]) with
    | none => exact .inl rfl
    | some node =>
      cases node with
      | dir => exact .inl rfl
      | _ =>
        simp only
        split
        · exact .inr rfl
        · exact .inl rfl

theorem remove_dir_all_cases (unlinked : Unlinked t loc) (stopped : Option (List Loc)) :
    (∃ error, remove_dir_all stopped ((loc ++ [name]).map .Normal) t = (.error error, t)) ∨
      remove_dir_all stopped ((loc ++ [name]).map .Normal) t = (.ok (), t.prune [loc ++ [name]]) ∨
      ∃ gone error, stopped = some gone ∧ remove_dir_all stopped ((loc ++ [name]).map .Normal) t =
        (.error error, t.prune (gone.map fun below => loc ++ [name] ++ below)) := by
  rw [remove_dir_all]
  cases found : t.spot ((loc ++ [name]).map .Normal) with
  | error error => exact .inl ⟨error, rfl⟩
  | ok place =>
    obtain ⟨rfl, -⟩ := spot_unlinked unlinked found
    simp only
    cases t.node (loc ++ [name]) with
    | none => exact .inl ⟨_, rfl⟩
    | some node =>
      cases node with
      | file inode => exact .inl ⟨_, rfl⟩
      | _ =>
        cases stopped with
        | none => exact .inr (.inl rfl)
        | some gone => exact .inr (.inr ⟨gone, _, rfl, rfl⟩)

theorem rename_cases {other : String} (unlinked : Unlinked t loc) :
    (∃ error, rename ((loc ++ [name]).map .Normal) ((loc ++ [other]).map .Normal) t = (.error error, t)) ∨
      rename ((loc ++ [name]).map .Normal) ((loc ++ [other]).map .Normal) t =
        (.ok (), t.move (loc ++ [name]) (loc ++ [other])) := by
  rcases rename_result ((loc ++ [name]).map .Normal) ((loc ++ [other]).map .Normal) t with failed | ⟨place, target, first, second, -, done⟩
  · exact .inl failed
  · obtain ⟨rfl, -⟩ := spot_unlinked unlinked first
    obtain ⟨rfl, -⟩ := spot_unlinked unlinked second
    exact .inr done

/-- What is there is given another name beside it that is free, where the host may. -/
theorem rename_done {other : String} (grounded : Grounded t loc) (dir : t.node loc = some .dir)
    (there : t.node (loc ++ [name]) ≠ none) (free : t.node (loc ++ [other]) = none) (permitted : t.permits (loc ++ [other])) :
    rename ((loc ++ [name]).map .Normal) ((loc ++ [other]).map .Normal) t =
      (.ok (), t.move (loc ++ [name]) (loc ++ [other])) := by
  rw [rename, spot_grounded grounded dir]
  simp only
  rw [if_neg there, spot_grounded grounded dir]
  simp [free, permitted]

theorem write_file_cases (unlinked : Unlinked t (loc ++ [name])) (content : List UInt8) :
    (∃ error, write_file content none ((loc ++ [name]).map .Normal) t = (.error error, t)) ∨
      (t.node loc = some .dir ∧ t.node (loc ++ [name]) = none ∧
        write_file content none ((loc ++ [name]).map .Normal) t = (.ok (), t.create (loc ++ [name]) content)) ∨
      ∃ inode, t.node (loc ++ [name]) = some (.file inode) ∧
        write_file content none ((loc ++ [name]).map .Normal) t = (.ok (), t.write inode content) := by
  rw [write_file]
  cases found : t.place ((loc ++ [name]).map .Normal) with
  | error error => exact .inl ⟨error, rfl⟩
  | ok place =>
    obtain ⟨rfl, grounded⟩ := place_unlinked unlinked found
    simp only
    by_cases permitted : t.permits (loc ++ [name])
    · rw [if_pos permitted]
      cases standing : t.node (loc ++ [name]) with
      | none => exact .inr (.inl ⟨grounded loc (List.prefix_append loc [name]) (by simp), rfl, rfl⟩)
      | some node =>
        cases node with
        | dir => exact .inl ⟨_, rfl⟩
        | link target made => exact .inl ⟨_, rfl⟩
        | file inode => exact .inr (.inr ⟨inode, rfl, rfl⟩)
    · rw [if_neg permitted]
      exact .inl ⟨_, rfl⟩

end Cases
end Unlinked

/-! ### Look-ups through links -/

section Links
variable {t u : Tree} {mid : Loc}

/-- Everything that stood somewhere stands there as before. -/
def Grown (t u : Tree) : Prop := ∀ loc node, t.node loc = some node → u.node loc = some node

theorem walk_grown {follow other : Loc → List Component → Except IoError Loc} (grown : Grown t u) (there : t.node mid ≠ none)
    (next : ∀ here path, follow here path = .ok mid → other here path = .ok mid) {here : Loc} {path : List Component}
    (found : t.walk follow here path = .ok mid) : u.walk other here path = .ok mid := by
  induction path generalizing here with
  | nil => exact found
  | cons part rest ih =>
    cases part with
    | CurDir => exact ih found
    | RootDir => exact ih found
    | ParentDir => exact ih found
    | Normal name =>
      simp only [Tree.walk] at found ⊢
      cases standing : t.node (here ++ [name]) with
      | none =>
        simp only [standing] at found
        by_cases last : rest = []
        · rw [if_pos last] at found
          cases found
          exact absurd standing there
        · rw [if_neg last] at found
          cases found
      | some node =>
        rw [grown _ node standing]
        simp only [standing] at found
        cases node with
        | dir => exact ih found
        | link target made => exact next here _ found
        | file inode => exact found

theorem locate_grown (grown : Grown t u) (there : t.node mid ≠ none) (left : Nat) {here : Loc} {path : List Component}
    (found : t.locate left here path = .ok mid) : u.locate left here path = .ok mid := by
  induction left generalizing here path with
  | zero =>
    refine @walk_grown t u mid (fun _ _ => .error .FilesystemLoop) _ grown there (fun _ _ never => ?_) _ _ found
    cases never
  | succ left ih => exact walk_grown grown there (fun _ _ => ih) found

/-- A directory that could be entered still can. -/
theorem enter_grown (grown : Grown t u) {path : List Component} (entered : t.enter path = .ok mid) : u.enter path = .ok mid := by
  obtain ⟨placed, dir⟩ := enter_eq_ok.mp entered
  exact enter_eq_ok.mpr ⟨locate_grown grown (by simp [dir]) Tree.MAX_LINKS placed, grown _ _ dir⟩

theorem spot_grown (grown : Grown t u) {path : List Component} (found : t.spot path = .ok mid) : u.spot path = .ok mid := by
  rw [Tree.spot] at found ⊢
  cases last : path.getLast? with
  | none =>
    rw [last] at found
    cases found
  | some part =>
    cases part with
    | Normal name =>
      simp only [last] at found ⊢
      cases entered : t.enter path.dropLast with
      | error error =>
        rw [entered] at found
        cases found
      | ok here =>
        rw [entered] at found
        rw [enter_grown grown entered]
        exact found
    | _ =>
      rw [last] at found
      cases found

theorem spot_dir {path : List Component} {loc : Loc} (found : t.spot path = .ok loc) :
    ∃ here name, loc = here ++ [name] ∧ path = path.dropLast ++ [.Normal name] ∧ t.enter path.dropLast = .ok here ∧
      t.node here = some .dir := by
  rw [Tree.spot] at found
  cases last : path.getLast? with
  | none =>
    rw [last] at found
    cases found
  | some part =>
    cases part with
    | Normal name =>
      simp only [last] at found
      cases entered : t.enter path.dropLast with
      | error error =>
        rw [entered] at found
        cases found
      | ok here =>
        rw [entered] at found
        cases found
        exact ⟨here, name, rfl, (List.dropLast_append_getLast? _ last).symm, rfl, (enter_eq_ok.mp entered).2⟩
    | _ =>
      rw [last] at found
      cases found

theorem walk_last {follow : Loc → List Component → Except IoError Loc} {name : String} (dir : t.node mid = some .dir)
    (plain : ∀ target made, t.node (mid ++ [name]) ≠ some (.link target made))
    (next : ∀ here path, follow here path = .ok mid → follow here (path ++ [.Normal name]) = .ok (mid ++ [name]))
    {here : Loc} {path : List Component} (found : t.walk follow here path = .ok mid) :
    t.walk follow here (path ++ [.Normal name]) = .ok (mid ++ [name]) := by
  induction path generalizing here with
  | nil =>
    cases found
    simp only [List.nil_append, Tree.walk]
    cases standing : t.node (mid ++ [name]) with
    | none => simp
    | some node =>
      cases node with
      | dir => simp
      | link target made => exact absurd standing (plain target made)
      | file inode => simp
  | cons part rest ih =>
    cases part with
    | CurDir => exact ih found
    | RootDir => exact ih found
    | ParentDir => exact ih found
    | Normal first =>
      simp only [List.cons_append, Tree.walk] at found ⊢
      cases standing : t.node (here ++ [first]) with
      | none =>
        simp only [standing] at found
        by_cases last : rest = []
        · rw [if_pos last] at found
          cases found
          cases standing.symm.trans dir
        · rw [if_neg last] at found
          cases found
      | some node =>
        simp only [standing] at found ⊢
        cases node with
        | dir => exact ih found
        | link target made =>
          simp only [← List.append_assoc]
          exact next here _ found
        | file inode =>
          simp only at found
          by_cases last : rest = []
          · rw [if_pos last] at found
            cases found
            cases standing.symm.trans dir
          · rw [if_neg last] at found
            cases found

/-- Where no link stands at the last name, a path leads to where its last name stands. -/
theorem place_of_spot {path : List Component} {loc : Loc} (found : t.spot path = .ok loc)
    (plain : ∀ target made, t.node loc ≠ some (.link target made)) : t.place path = .ok loc := by
  obtain ⟨here, name, rfl, ends, entered, dir⟩ := spot_dir found
  have last (left : Nat) : ∀ start parts, t.locate left start parts = .ok here →
      t.locate left start (parts ++ [.Normal name]) = .ok (here ++ [name]) := by
    induction left with
    | zero =>
      intro start parts found
      refine @walk_last t here (fun _ _ => .error .FilesystemLoop) name dir plain (fun _ _ never => ?_) start parts found
      cases never
    | succ left ih => exact fun _ _ found => walk_last dir plain ih found
  rw [ends]
  exact last Tree.MAX_LINKS [] _ (enter_eq_ok.mp entered).1

/-- A name right below a directory that is entered. -/
theorem spot_last {path : List Component} {here : Loc} (entered : t.enter path = .ok here) (name : String) :
    t.spot (path ++ [.Normal name]) = .ok (here ++ [name]) := by
  simp only [Tree.spot, List.getLast?_concat, List.dropLast_concat, entered]
  rfl

theorem enter_last {path : List Component} {here : Loc} {name : String} (entered : t.enter path = .ok here)
    (dir : t.node (here ++ [name]) = some .dir) : t.enter (path ++ [.Normal name]) = .ok (here ++ [name]) :=
  enter_eq_ok.mpr ⟨place_of_spot (spot_last entered name) (by simp [dir]), dir⟩

theorem landing_entered {names here missing : List String} (found : t.landing names = .ok (here, missing)) :
    ∃ path, names.reverse = path ++ missing ∧ t.enter (path_to path) = .ok here := by
  induction names generalizing here missing with
  | nil =>
    cases found
    exact ⟨[], rfl, rfl⟩
  | cons name above ih =>
    rw [Tree.landing] at found
    rw [List.reverse_cons]
    cases entered : t.enter (above.reverse.map .Normal) with
    | ok place =>
      simp only [entered] at found
      by_cases vacant : t.node (place ++ [name]) = none
      · rw [if_pos vacant] at found
        cases found
        exact ⟨above.reverse, rfl, entered⟩
      · rw [if_neg vacant] at found
        cases last : t.enter ((name :: above).reverse.map .Normal) with
        | error error =>
          rw [last] at found
          cases found
        | ok there =>
          rw [last] at found
          cases found
          rw [List.reverse_cons] at last
          exact ⟨above.reverse ++ [name], (List.append_nil _).symm, last⟩
    | error error =>
      rw [entered] at found
      cases error with
      | NotFound =>
        cases landed : t.landing above with
        | error error =>
          rw [landed] at found
          cases found
        | ok pair =>
          obtain ⟨place, rest⟩ := pair
          obtain ⟨path, whole, reached⟩ := ih landed
          rw [landed] at found
          cases found
          exact ⟨path, by rw [whole, List.append_assoc], reached⟩
      | _ => cases found

theorem put_grown {loc : Loc} (named : loc ≠ []) (vacant : t.node loc = none) (node : Node) : Grown t (t.put loc node) := by
  intro place other standing
  rw [t.put_node named, if_neg]
  · exact standing
  · rintro rfl
    rw [vacant] at standing
    cases standing

theorem make_all_entered (names : List String) {here path : List String} (entered : t.enter (path_to path) = .ok here)
    (made : make_all here names t = (.ok (), u)) : u.enter (path_to (path ++ names)) = .ok (here ++ names) := by
  induction names generalizing here path t with
  | nil =>
    cases made
    rwa [List.append_nil, List.append_nil]
  | cons name rest ih =>
    rw [make_all, bind_eq_ok] at made
    obtain ⟨_, v, first, last⟩ := made
    have named : here ++ [name] ≠ [] := by simp
    have grown : Grown t v ∧ v.node (here ++ [name]) = some .dir := by
      rw [add] at first
      cases found : t.node (here ++ [name]) with
      | some node =>
        rw [found] at first
        cases first
      | none =>
        by_cases permitted : t.permits (here ++ [name])
        · simp only [found, permitted, if_true] at first
          cases first
          exact ⟨put_grown named found .dir, by rw [t.put_node named, if_pos rfl]⟩
        · simp [found, permitted] at first
    have deeper : v.enter (path_to (path ++ [name])) = .ok (here ++ [name]) := by
      rw [path_to, List.map_append]
      exact enter_last (enter_grown grown.1 entered) grown.2
    have step := ih deeper last
    rwa [List.append_assoc, List.append_assoc, List.singleton_append] at step

/-- A directory that was made with all above it can be entered. -/
theorem create_dir_all_entered {path : Loc} (made : create_dir_all path t = (.ok (), u)) :
    ∃ here, u.enter (path_to path) = .ok here := by
  rw [create_dir_all] at made
  cases found : t.landing path.reverse with
  | error error =>
    rw [found] at made
    cases made
  | ok pair =>
    obtain ⟨here, missing⟩ := pair
    rw [found] at made
    obtain ⟨start, whole, entered⟩ := landing_entered found
    rw [List.reverse_reverse] at whole
    exact ⟨here ++ missing, whole ▸ make_all_entered missing entered made⟩

/-! ### What stands below a name -/

/-- What stands below a name stands in a directory. -/
def Rooted (t : Tree) : Prop := ∀ loc name, t.node (loc ++ [name]) ≠ none → t.node loc = some .dir

theorem Rooted.below (rooted : Rooted t) {loc : Loc} {rest : List String} (some_name : rest ≠ [])
    (there : t.node (loc ++ rest) ≠ none) : t.node loc = some .dir := by
  induction rest generalizing loc with
  | nil => exact absurd rfl some_name
  | cons name rest ih =>
    by_cases last : rest = []
    · subst last
      exact rooted loc name there
    · have dir := @ih (loc ++ [name]) last (by simpa using there)
      exact rooted loc name (by simp [dir])

/-- What a path's last name stands for, stands below a directory. -/
theorem walk_above (rooted : Rooted t) {follow : Loc → List Component → Except IoError Loc} {name : String}
    (standing : t.node mid ≠ none)
    (next : ∀ here path, t.node here = some .dir → follow here (path ++ [.Normal name]) = .ok mid →
      ∃ up, follow here path = .ok up ∧ t.node up = some .dir ∧ t.node (up ++ [name]) ≠ none)
    {here : Loc} {path : List Component} (dir : t.node here = some .dir)
    (found : t.walk follow here (path ++ [.Normal name]) = .ok mid) :
    ∃ up, t.walk follow here path = .ok up ∧ t.node up = some .dir ∧ t.node (up ++ [name]) ≠ none := by
  induction path generalizing here with
  | nil =>
    refine ⟨here, rfl, dir, fun missing => ?_⟩
    simp only [List.nil_append, Tree.walk, missing, if_true] at found
    cases found
    exact standing missing
  | cons part rest ih =>
    cases part with
    | CurDir => exact ih dir found
    | RootDir => exact ih rfl found
    | ParentDir =>
      refine ih ?_ found
      rcases List.eq_nil_or_concat' here with rfl | ⟨above, last, rfl⟩
      · rfl
      · rw [List.dropLast_concat]
        exact rooted above last (by simp [dir])
    | Normal first =>
      simp only [List.cons_append, Tree.walk] at found ⊢
      cases there : t.node (here ++ [first]) with
      | none => simp [there] at found
      | some node =>
        simp only [there] at found ⊢
        cases node with
        | dir => exact ih there found
        | link target made =>
          simp only [← List.append_assoc] at found
          exact next here _ dir found
        | file inode => simp at found

theorem enter_above (rooted : Rooted t) {path : List Component} {name : String}
    (entered : t.enter (path ++ [.Normal name]) = .ok mid) :
    ∃ up, t.enter path = .ok up ∧ t.node (up ++ [name]) ≠ none := by
  obtain ⟨placed, dir⟩ := enter_eq_ok.mp entered
  have standing : t.node mid ≠ none := by simp [dir]
  have last (left : Nat) : ∀ start parts, t.node start = some .dir → t.locate left start (parts ++ [.Normal name]) = .ok mid →
      ∃ up, t.locate left start parts = .ok up ∧ t.node up = some .dir ∧ t.node (up ++ [name]) ≠ none := by
    induction left with
    | zero =>
      intro start parts first found
      refine walk_above rooted standing (fun _ _ _ never => ?_) first found
      cases never
    | succ left ih => exact fun _ _ first found => walk_above rooted standing ih first found
  obtain ⟨up, reached, above, below⟩ := last Tree.MAX_LINKS [] path rfl placed
  exact ⟨up, enter_eq_ok.mpr ⟨reached, above⟩, below⟩

/-- Where a directory is, none has to be made. -/
theorem landing_of_enter (rooted : Rooted t) {path : Loc} (entered : t.enter (path_to path) = .ok mid) :
    t.landing path.reverse = .ok (mid, []) := by
  rcases List.eq_nil_or_concat' path with rfl | ⟨above, name, rfl⟩
  · cases (enter_eq_ok.mp entered).1
    rfl
  · have whole : path_to (above ++ [name]) = path_to above ++ [.Normal name] := List.map_append
    obtain ⟨up, reached, below⟩ := enter_above rooted (whole ▸ entered)
    rw [List.reverse_concat, Tree.landing, List.reverse_reverse, reached]
    simp only
    rw [if_neg below, List.reverse_cons, List.reverse_reverse, entered]
    rfl

theorem create_dir_all_there (rooted : Rooted t) {path : Loc} (entered : t.enter (path_to path) = .ok mid) :
    FileTree.create_dir_all path t = (.ok (), t) := by
  rw [FileTree.create_dir_all, landing_of_enter rooted entered]
  rfl

/-- A directory right below one that is there. -/
theorem create_dir_all_next {path : Loc} {name : String} (entered : t.enter (path_to path) = .ok mid)
    (vacant : t.node (mid ++ [name]) = none) (permitted : t.permits (mid ++ [name])) :
    FileTree.create_dir_all (path ++ [name]) t = (.ok (), t.put (mid ++ [name]) .dir) := by
  rw [FileTree.create_dir_all, List.reverse_concat, Tree.landing, List.reverse_reverse, entered]
  simp only
  rw [if_pos vacant]
  simp only
  rw [FileTree.make_all, bind_run, add, vacant]
  simp only
  rw [if_pos permitted]
  rfl

theorem Rooted.put (rooted : Rooted t) {here : Loc} {name : String} (dir : t.node here = some .dir)
    (plain : t.node (here ++ [name]) ≠ some .dir) (node : Node) : Rooted (t.put (here ++ [name]) node) := by
  intro loc other there
  have named : here ++ [name] ≠ [] := by simp
  rw [t.put_node named] at there ⊢
  have above : t.node loc = some .dir := by
    by_cases same : loc ++ [other] = here ++ [name]
    · obtain ⟨rfl, -⟩ := List.append_inj' same rfl
      exact dir
    · rw [if_neg same] at there
      exact rooted loc other there
  rw [if_neg]
  · exact above
  · rintro rfl
    exact plain above

theorem Rooted.make_all (names : List String) {here : Loc} (rooted : Rooted t) (dir : t.node here = some .dir) :
    Rooted (make_all here names t).2 := by
  induction names generalizing here t with
  | nil => exact rooted
  | cons name rest ih =>
    rw [FileTree.make_all, bind_run, add]
    cases found : t.node (here ++ [name]) with
    | some node => exact rooted
    | none =>
      by_cases permitted : t.permits (here ++ [name])
      · simp only [permitted, if_true]
        exact ih (rooted.put dir (by simp [found]) .dir) (by rw [t.put_node (by simp), if_pos rfl])
      · simp only [permitted]
        exact rooted

theorem Rooted.prune (rooted : Rooted t) (gone : List Loc) : Rooted (t.prune gone) := by
  intro loc name there
  have named : loc ++ [name] ≠ [] := by simp
  by_cases top : loc = []
  · subst top
    rfl
  · rw [t.prune_node gone named] at there
    rw [t.prune_node gone top]
    by_cases taken : ∃ g ∈ gone, g <+: loc ++ [name]
    · rw [if_pos taken] at there
      exact absurd rfl there
    · rw [if_neg taken] at there
      rw [if_neg]
      · exact rooted loc name there
      · rintro ⟨g, member, above⟩
        exact taken ⟨g, member, above.trans (List.prefix_append loc [name])⟩

/-- A file is given a name in the same directory that no directory has. -/
theorem Rooted.move_file (rooted : Rooted t) {here : Loc} {name other : String} {inode : Nat} (dir : t.node here = some .dir)
    (file : t.node (here ++ [name]) = some (.file inode)) : Rooted (t.move (here ++ [name]) (here ++ [other])) := by
  intro loc last there
  rw [t.move_node (by simp) (by simp)] at there ⊢
  have nothing (rest : List String) (some_name : rest ≠ []) : t.node (here ++ [name] ++ rest) = none := by
    by_contra standing
    cases file.symm.trans (rooted.below some_name standing)
  by_cases inside : here ++ [other] <+: loc ++ [last]
  · rcases List.prefix_concat_iff.mp inside with same | within
    · obtain ⟨rfl, -⟩ := List.append_inj' same rfl
      have short (child : String) : ¬ here ++ [child] <+: here := by
        intro longer
        have length := longer.length_le
        rw [List.length_append, List.length_singleton] at length
        omega
      rw [if_neg (short other), if_neg (short name)]
      exact dir
    · obtain ⟨rest, rfl⟩ := within
      rw [if_pos inside, List.append_assoc (here ++ [other]) rest [last], List.drop_left] at there
      exact absurd (nothing (rest ++ [last]) (by simp)) there
  · rw [if_neg inside] at there
    by_cases gone : here ++ [name] <+: loc ++ [last]
    · rw [if_pos gone] at there
      exact absurd rfl there
    · rw [if_neg gone] at there
      rw [if_neg fun within => inside (within.trans (List.prefix_append loc [last])),
        if_neg fun within => gone (within.trans (List.prefix_append loc [last]))]
      exact rooted loc last there

theorem Rooted.create_dir_all (rooted : Rooted t) (path : Loc) : Rooted (create_dir_all path t).2 := by
  rw [FileTree.create_dir_all]
  cases found : t.landing path.reverse with
  | error error => exact rooted
  | ok pair =>
    obtain ⟨_, -, entered⟩ := landing_entered found
    exact rooted.make_all pair.2 (enter_eq_ok.mp entered).2

end Links

/-! ### Tidy places -/

/-- Nothing at or below a name lies below another name beside it. -/
theorem apart_of_ne {here : Loc} {name other : String} (ne : name ≠ other) (below : Loc) :
    ¬ here ++ [name] <+: here ++ [other] ++ below := by
  intro within
  rw [List.append_assoc, List.prefix_append_right_inj] at within
  exact ne (List.cons_prefix_cons.mp within).1

/-- At the places of a set stands no link, and what is below one of them is below a directory. -/
structure Tidy (own : Loc → Prop) (t : Tree) : Prop where
  unlinked : ∀ loc, own loc → ∀ target made, t.node loc ≠ some (.link target made)
  grounded : ∀ loc rest, own loc → rest ≠ [] → t.node (loc ++ rest) ≠ none → t.node loc = some .dir

section Tidy
variable {own : Loc → Prop} (higher : ∀ loc above, own loc → above <+: loc → own above) {t : Tree}

include higher in
theorem Tidy.unlinked_to (tidy : Tidy own t) {loc : Loc} (its : own loc) : Unlinked t loc :=
  fun above shorter => tidy.unlinked above (higher loc above its shorter)

include higher in
theorem Tidy.grounded_to (tidy : Tidy own t) {loc : Loc} (its : own loc) (there : t.node loc ≠ none) : Grounded t loc := by
  rintro above ⟨rest, rfl⟩ other
  exact tidy.grounded above rest (higher _ _ its (List.prefix_append above rest)) (by rintro rfl; simp at other) there

include higher in
/-- What there is at a place of the set can be seen by its path. -/
theorem Tidy.path_exists (tidy : Tidy own t) {loc : Loc} (its : own loc) :
    t.path_exists (loc.map .Normal) = true ↔ t.node loc ≠ none := by
  rw [Tree.path_exists]
  constructor
  · intro there
    cases placed : t.place (loc.map .Normal) with
    | error error => simp [placed] at there
    | ok place =>
      obtain ⟨rfl, -⟩ := place_unlinked (tidy.unlinked_to higher its) placed
      intro missing
      simp [placed, missing] at there
  · intro there
    rw [place_grounded (tidy.grounded_to higher its there) (tidy.unlinked loc its)]
    exact Option.isSome_iff_ne_none.mpr there

/-- A name below a directory, where none was that anything could stand below. -/
theorem Tidy.put (tidy : Tidy own t) {here : Loc} {name : String} (dir : t.node here = some .dir)
    (vacant : t.node (here ++ [name]) = none) {node : Node} (plain : ∀ target made, node ≠ .link target made) :
    Tidy own (t.put (here ++ [name]) node) := by
  have named : here ++ [name] ≠ [] := by simp
  refine ⟨fun loc its target made => ?_, fun loc rest its below there => ?_⟩
  · rw [t.put_node named]
    by_cases same : loc = here ++ [name]
    · rw [if_pos same]
      exact fun equal => plain target made (Option.some.inj equal)
    · rw [if_neg same]
      exact tidy.unlinked loc its target made
  · rw [t.put_node named] at there ⊢
    by_cases same : loc ++ rest = here ++ [name]
    · have above : loc <+: here := by
        have within : loc <+: here ++ [name] := same ▸ List.prefix_append loc rest
        rcases List.prefix_concat_iff.mp within with whole | shorter
        · exact absurd (List.append_right_eq_self.mp (same.trans whole.symm)) below
        · exact shorter
      obtain ⟨between, rfl⟩ := above
      have other : loc ≠ loc ++ between ++ [name] := by
        intro equal
        rw [List.append_assoc] at equal
        simpa using List.append_right_eq_self.mp equal.symm
      rw [if_neg other]
      by_cases close : between = []
      · simpa [close] using dir
      · exact tidy.grounded loc between its close (by simp [dir])
    · rw [if_neg same] at there
      have dir_there := tidy.grounded loc rest its below there
      rw [if_neg]
      · exact dir_there
      · rintro rfl
        rw [vacant] at dir_there
        cases dir_there

theorem Tidy.prune (tidy : Tidy own t) (gone : List Loc) : Tidy own (t.prune gone) := by
  refine ⟨fun loc its target made linked => ?_, fun loc rest its below there => ?_⟩
  · exact tidy.unlinked loc its target made (t.prune_node_of_some linked)
  · obtain ⟨node, standing⟩ := Option.ne_none_iff_exists'.mp there
    have dir := tidy.grounded loc rest its below (by simp [t.prune_node_of_some standing])
    by_cases top : loc = []
    · subst top
      rfl
    · have named : loc ++ rest ≠ [] := by simp [top]
      rw [t.prune_node gone named] at there
      rw [t.prune_node gone top, if_neg]
      · exact dir
      · rintro ⟨g, member, above⟩
        rw [if_pos ⟨g, member, above.trans (List.prefix_append loc rest)⟩] at there
        exact there rfl

/-- Directories are made below directories. -/
theorem Tidy.make_all (names : List String) {here : Loc} (tidy : Tidy own t) (dir : t.node here = some .dir) :
    Tidy own (make_all here names t).2 := by
  induction names generalizing here t with
  | nil => exact tidy
  | cons name rest ih =>
    rw [FileTree.make_all, bind_run, add]
    cases found : t.node (here ++ [name]) with
    | some node => exact tidy
    | none =>
      by_cases permitted : t.permits (here ++ [name])
      · simp only [permitted, if_true]
        exact ih (tidy.put dir found (by simp)) (by rw [t.put_node (by simp), if_pos rfl])
      · simp only [permitted]
        exact tidy

/-- Only on the way to the last name something is made. -/
theorem make_all_elsewhere (names : List String) (here : Loc) (t : Tree) {loc : Loc} (elsewhere : ¬ loc <+: here ++ names) :
    (make_all here names t).2.view loc = t.view loc := by
  induction names generalizing here t with
  | nil => rfl
  | cons name rest ih =>
    have deeper : here ++ [name] ++ rest = here ++ name :: rest := by simp
    rw [make_all, bind_run, add]
    cases t.node (here ++ [name]) with
    | some node => rfl
    | none =>
      by_cases permitted : t.permits (here ++ [name])
      · simp only [permitted, if_true]
        rw [ih (here ++ [name]) _ (deeper ▸ elsewhere)]
        refine t.put_view (by simp) .dir ?_
        rintro rfl
        exact elsewhere (deeper ▸ List.prefix_append _ _)
      · simp only [permitted]
        rfl

theorem make_all_done (names : List String) {here : Loc} {t u : Tree} (dir : t.node here = some .dir)
    (made : make_all here names t = (.ok (), u)) : u.node (here ++ names) = some .dir := by
  induction names generalizing here t with
  | nil =>
    cases made
    rwa [List.append_nil]
  | cons name rest ih =>
    rw [make_all, bind_eq_ok] at made
    obtain ⟨_, v, first, last⟩ := made
    have standing : v.node (here ++ [name]) = some .dir := by
      rw [add] at first
      cases found : t.node (here ++ [name]) with
      | some node =>
        rw [found] at first
        cases first
      | none =>
        by_cases permitted : t.permits (here ++ [name])
        · simp only [found, permitted, if_true] at first
          cases first
          rw [t.put_node (by simp), if_pos rfl]
        · simp [found, permitted] at first
    have step := ih standing last
    rwa [List.append_assoc, List.singleton_append] at step

section CreateAll
variable {path : Loc}

theorem create_dir_all_elsewhere (unlinked : Unlinked t path) {loc : Loc} (elsewhere : ¬ loc <+: path) :
    (create_dir_all path t).2.view loc = t.view loc := by
  rw [create_dir_all]
  cases found : t.landing path.reverse with
  | error error => rfl
  | ok pair =>
    obtain ⟨here, missing⟩ := pair
    have landed := landing_unlinked (by rwa [List.reverse_reverse]) found
    rw [List.reverse_reverse] at landed
    exact make_all_elsewhere missing here t (landed.1 ▸ elsewhere)

theorem create_dir_all_done (unlinked : Unlinked t path) {u : Tree} (made : create_dir_all path t = (.ok (), u)) :
    u.node path = some .dir := by
  rw [create_dir_all] at made
  cases found : t.landing path.reverse with
  | error error =>
    rw [found] at made
    cases made
  | ok pair =>
    obtain ⟨here, missing⟩ := pair
    have landed := landing_unlinked (by rwa [List.reverse_reverse]) found
    rw [List.reverse_reverse] at landed
    rw [found] at made
    exact landed.1 ▸ make_all_done missing landed.2 made

theorem Tidy.create_dir_all (tidy : Tidy own t) (unlinked : Unlinked t path) : Tidy own (create_dir_all path t).2 := by
  rw [FileTree.create_dir_all]
  cases found : t.landing path.reverse with
  | error error => exact tidy
  | ok pair => exact tidy.make_all pair.2 (landing_unlinked (by rwa [List.reverse_reverse]) found).2

end CreateAll

/-- A name is given to another place beside it, which nothing of the set is below. -/
theorem Tidy.move (tidy : Tidy own t) {here : Loc} {name other : String} (its : own (here ++ [name]))
    (bare : ∀ rest, rest ≠ [] → ¬ own (here ++ [other] ++ rest)) (there : t.node (here ++ [name]) ≠ none) :
    Tidy own (t.move (here ++ [name]) (here ++ [other])) := by
  have named : here ++ [name] ≠ [] := by simp
  have given : here ++ [other] ≠ [] := by simp
  have seen := t.move_node named given
  refine ⟨fun loc its' target made => ?_, fun loc rest its' below found => ?_⟩
  · rw [seen]
    by_cases inside : here ++ [other] <+: loc
    · obtain ⟨rest, rfl⟩ := inside
      by_cases last : rest = []
      · subst last
        simpa using tidy.unlinked _ its target made
      · exact absurd its' (bare rest last)
    · rw [if_neg inside]
      split
      · simp
      · exact tidy.unlinked loc its' target made
  · rw [seen] at found ⊢
    by_cases inside : here ++ [other] <+: loc
    · obtain ⟨more, rfl⟩ := inside
      by_cases last : more = []
      · subst last
        have dir := tidy.grounded (here ++ [name]) rest its below (by simpa using found)
        simpa using dir
      · exact absurd its' (bare more last)
    · rw [if_neg inside]
      by_cases within : here ++ [other] <+: loc ++ rest
      · have above : loc <+: here := by
          rcases List.prefix_or_prefix_of_prefix within (List.prefix_append loc rest) with first | second
          · exact absurd first inside
          · rcases List.prefix_concat_iff.mp second with whole | shorter
            · exact absurd (whole ▸ List.prefix_refl _) inside
            · exact shorter
        obtain ⟨between, rfl⟩ := above
        have outside : ¬ loc ++ between ++ [name] <+: loc := by
          intro longer
          have length := longer.length_le
          rw [List.length_append, List.length_append, List.length_singleton] at length
          omega
        rw [if_neg outside]
        refine tidy.grounded loc (between ++ [name]) its' (by simp) ?_
        rwa [← List.append_assoc]
      · rw [if_neg within] at found
        by_cases gone : here ++ [name] <+: loc ++ rest
        · rw [if_pos gone] at found
          exact absurd rfl found
        · rw [if_neg gone] at found
          rw [if_neg fun under => gone (under.trans (List.prefix_append loc rest))]
          exact tidy.grounded loc rest its' below found

/-- Changes below one directory of the set, where nothing of the set is below it. -/
theorem Tidy.same_outside {root : Loc} {u : Tree} (tidy : Tidy own t) (same : SameOutside root t u)
    (bare : ∀ rest, rest ≠ [] → ¬ own (root ++ rest)) (dir : t.node root = some .dir) (kept : u.node root = some .dir) :
    Tidy own u := by
  have elsewhere {loc : Loc} (outside : ¬ root <+: loc) : u.node loc = t.node loc := t.node_of_view (same loc outside)
  refine ⟨fun loc its target made => ?_, fun loc rest its below found => ?_⟩
  · by_cases inside : root <+: loc
    · obtain ⟨more, rfl⟩ := inside
      by_cases last : more = []
      · simp [last, kept]
      · exact absurd its (bare more last)
    · rw [elsewhere inside]
      exact tidy.unlinked loc its target made
  · by_cases inside : root <+: loc
    · obtain ⟨more, rfl⟩ := inside
      by_cases last : more = []
      · simpa [last] using kept
      · exact absurd its (bare more last)
    · rw [elsewhere inside]
      by_cases within : root <+: loc ++ rest
      · rcases List.prefix_or_prefix_of_prefix within (List.prefix_append loc rest) with first | second
        · exact absurd first inside
        · obtain ⟨between, rfl⟩ := second
          by_cases close : between = []
          · simp [close] at inside
          · exact tidy.grounded loc between its close (by simp [dir])
      · rw [elsewhere within] at found
        exact tidy.grounded loc rest its below found

end Tidy
end Riscdom.FileTree
