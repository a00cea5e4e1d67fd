import Mathlib.Logic.Function.Basic
import Riscdom.Fallible
import Riscdom.Policy

/-!
A tree of names with directories, symbolic links and files, where several names
can stand for one file. Paths are looked up through links. Each call of the file
system is given with the condition under which it leaves everything outside a
directory as it was: the place it makes or writes, looked up in the tree before
the call, lies inside. Paths are POSIX ones: below one root, and names are told
apart by their characters.
-/
namespace Riscdom.FileTree
open Riscdom.Agent (Component components)
open Riscdom.Fallible Fallible.Act

/-- A place in the tree, by the names from the root. -/
abbrev Loc : Type := List String

/-- What a name stands for. A link counts how often it was made anew. -/
inductive Node
  | dir
  | link (target : String) (made : Nat)
  | file (inode : Nat)
deriving DecidableEq

/-- What a file holds, and how often it was written. -/
structure FileData where
  content : List UInt8
  writes : Nat
deriving DecidableEq

inductive IoError
  | NotFound
  | NotADirectory
  | IsADirectory
  | AlreadyExists
  | FilesystemLoop
  | PermissionDenied
  | Broken (message : String)
deriving DecidableEq

/-- Names, files by their numbers, and where the host may make or write something. A number above all that are in use is free. -/
structure Tree where
  names : Loc → Option Node
  files : Nat → FileData
  next : Nat
  permits : Loc → Bool
  unused : ∀ loc inode, names loc = some (.file inode) → inode < next

namespace Tree
variable (t : Tree)

/-- The root is a directory. -/
def node (loc : Loc) : Option Node := if loc = [] then some .dir else t.names loc

/-- What there is to see at a place. -/
def view (loc : Loc) : Option (Node × Option FileData) :=
  (t.node loc).map fun
    | .file inode => (.file inode, some (t.files inode))
    | other => (other, none)

/-! ### Looking up a path -/

/-- Along the components, links handed to `follow`. The last name may be missing. -/
def walk (follow : Loc → List Component → Except IoError Loc) : Loc → List Component → Except IoError Loc
  | here, [] => .ok here
  | here, .CurDir :: rest => walk follow here rest
  | _, .RootDir :: rest => walk follow [] rest
  | here, .ParentDir :: rest => walk follow here.dropLast rest
  | here, .Normal name :: rest =>
    match t.node (here ++ [name]) with
    | none => if rest = [] then .ok (here ++ [name]) else .error .NotFound
    | some .dir => walk follow (here ++ [name]) rest
    | some (.file _) => if rest = [] then .ok (here ++ [name]) else .error .NotADirectory
    | some (.link target _) => follow here (components target ++ rest)

def MAX_LINKS : Nat := 40

def locate : Nat → Loc → List Component → Except IoError Loc
  | 0 => t.walk fun _ _ => .error .FilesystemLoop
  | left + 1 => t.walk (locate left)

/-- Where a path leads, through every link. -/
def place (path : List Component) : Except IoError Loc := t.locate MAX_LINKS [] path

/-- The directory a path leads to. -/
def enter (path : List Component) : Except IoError Loc :=
  match t.place path with
  | .error error => .error error
  | .ok loc =>
    match t.node loc with
    | some .dir => .ok loc
    | some _ => .error .NotADirectory
    | none => .error .NotFound

/-- Where the last name of a path stands, a link there not followed. -/
def spot (path : List Component) : Except IoError Loc :=
  match path.getLast? with
  | some (.Normal name) => (t.enter path.dropLast).map fun here => here ++ [name]
  | _ => .error .IsADirectory

/-- The directory up to which a path, last name first, is there, and the names that are missing below it. -/
def landing : List String → Except IoError (Loc × List String)
  | [] => .ok ([], [])
  | name :: above =>
    match t.enter (above.reverse.map .Normal) with
    | .ok here =>
      if t.node (here ++ [name]) = none then .ok (here, [name])
      else (t.enter ((name :: above).reverse.map .Normal)).map fun there => (there, [])
    | .error .NotFound => (landing above).map fun found => (found.1, found.2 ++ [name])
    | .error error => .error error

/-! ### Changes -/

/-- A name made, or made anew. -/
def put (loc : Loc) (node : Node) : Tree where
  names := Function.update t.names loc (some node)
  files := t.files
  next := match node with
    | .file inode => max t.next (inode + 1)
    | _ => t.next
  permits := t.permits
  unused := by
    intro other inode named
    by_cases same : other = loc
    · subst same
      rw [Function.update_self] at named
      cases named
      exact Nat.lt_of_lt_of_le (Nat.lt_succ_self inode) (Nat.le_max_right _ _)
    · rw [Function.update_of_ne same] at named
      have below := t.unused other inode named
      cases node with
      | file i => exact Nat.lt_of_lt_of_le below (Nat.le_max_left _ _)
      | _ => exact below

/-- A new file under a name. -/
def create (loc : Loc) (content : List UInt8) : Tree :=
  { t.put loc (.file t.next) with files := Function.update t.files t.next ⟨content, 0⟩ }

/-- A file written anew, whatever its names are. -/
def write (inode : Nat) (content : List UInt8) : Tree :=
  { t with files := Function.update t.files inode ⟨content, (t.files inode).writes + 1⟩ }

end Tree

/-! ### Calls -/

abbrev Call (α : Type) : Type := Act Tree IoError α

/-- A name made where there is none. -/
def add (loc : Loc) (node : Node) : Call Unit := fun t =>
  match t.node loc with
  | some _ => (.error .AlreadyExists, t)
  | none => if t.permits loc then (.ok (), t.put loc node) else (.error .PermissionDenied, t)

def make_all : Loc → List String → Call Unit
  | _, [] => return ()
  | here, name :: rest => do
    add (here ++ [name]) .dir
    make_all (here ++ [name]) rest

/-- A directory with those above it that are missing. -/
def create_dir_all (path : List String) : Call Unit := fun t =>
  match t.landing path.reverse with
  | .error error => (.error error, t)
  | .ok (here, missing) => make_all here missing t

/-- A directory, if it is not there. -/
def create_dir (path : List Component) : Call Unit := fun t =>
  match t.spot path with
  | .error error => (.error error, t)
  | .ok loc =>
    match t.node loc with
    | none => add loc .dir t
    | some _ =>
      match t.enter path with
      | .ok _ => (.ok (), t)
      | .error _ => (.error .AlreadyExists, t)

/-- A symbolic link, in place of a file or a link of the name. -/
def symlink (target : String) (path : List Component) : Call Unit := fun t =>
  match t.spot path with
  | .error error => (.error error, t)
  | .ok loc =>
    if t.permits loc then
      match t.node loc with
      | some .dir => (.error .IsADirectory, t)
      | some (.link _ made) => (.ok (), t.put loc (.link target (made + 1)))
      | _ => (.ok (), t.put loc (.link target 0))
    else (.error .PermissionDenied, t)

/-- What another name can be made for. -/
def Tree.shared (t : Tree) (source : List Component) : Except IoError Node :=
  match t.spot source with
  | .error error => .error error
  | .ok loc =>
    match t.node loc with
    | none => .error .NotFound
    | some .dir => .error .PermissionDenied
    | some node => .ok node

/-- Another name for what the source stands for. -/
def hard_link (source path : List Component) : Call Unit := fun t =>
  match t.shared source with
  | .error error => (.error error, t)
  | .ok node =>
    match t.spot path with
    | .error error => (.error error, t)
    | .ok loc => add loc node t

/-- How the writing of a file ends whose source may break off. -/
def written (broken : Option String) : Except IoError Unit :=
  match broken with
  | some message => .error (.Broken message)
  | none => .ok ()

/-- A file opened through every link, made or emptied, and written as far as there is something to write. -/
def write_file (content : List UInt8) (broken : Option String) (path : List Component) : Call Unit := fun t =>
  match t.place path with
  | .error error => (.error error, t)
  | .ok loc =>
    if t.permits loc then
      match t.node loc with
      | none => (written broken, t.create loc content)
      | some (.file inode) => (written broken, t.write inode content)
      | some .dir => (.error .IsADirectory, t)
      | some (.link _ _) => (.error .FilesystemLoop, t)
    else (.error .PermissionDenied, t)

/-! ### Where a call makes or writes something -/

section Inside
variable (root : Loc) (t : Tree)

/-- Everything outside a directory is as it was. -/
def SameOutside (after : Tree) : Prop := ∀ loc, ¬ root <+: loc → after.view loc = t.view loc

/-- The first directory that is missing would be made inside. -/
def MakesInside (path : List String) : Prop :=
  ∀ here name rest, t.landing path.reverse = .ok (here, name :: rest) → t.node (here ++ [name]) = none →
    t.permits (here ++ [name]) → root <+: here ++ [name]

/-- The name would stand inside. -/
def NamesInside (path : List Component) : Prop :=
  ∀ loc, t.spot path = .ok loc → t.node loc = none → t.permits loc → root <+: loc

/-- The link would stand inside. -/
def LinksInside (path : List Component) : Prop :=
  ∀ loc, t.spot path = .ok loc → t.node loc ≠ some .dir → t.permits loc → root <+: loc

/-- The file would be made inside, or has all its names there. -/
def WritesInside (path : List Component) : Prop :=
  ∀ loc, t.place path = .ok loc → t.permits loc →
    (t.node loc = none → root <+: loc) ∧
      ∀ inode, t.node loc = some (.file inode) → ∀ other, t.node other = some (.file inode) → root <+: other

end Inside

section Same
variable {root : Loc} {t u v : Tree}

theorem SameOutside.refl (t : Tree) : SameOutside root t t := fun _ _ => rfl
theorem SameOutside.symm (same : SameOutside root t u) : SameOutside root u t := fun loc outside => (same loc outside).symm
theorem SameOutside.trans (first : SameOutside root t u) (second : SameOutside root u v) : SameOutside root t v :=
  fun loc outside => (second loc outside).trans (first loc outside)

end Same

/-! ### What the changes change -/

namespace Tree
variable (t : Tree) {loc : Loc}

theorem put_node (named : loc ≠ []) (node : Node) (other : Loc) :
    (t.put loc node).node other = if other = loc then some node else t.node other := by
  have names : (t.put loc node).names other = if other = loc then some node else t.names other :=
    Function.update_apply t.names loc (some node) other
  rw [Tree.node, names, Tree.node]
  by_cases same : other = loc
  · simp [same, named]
  · simp [same]

theorem put_view (named : loc ≠ []) (node : Node) {other : Loc} (elsewhere : other ≠ loc) :
    (t.put loc node).view other = t.view other := by
  rw [view, put_node t named, if_neg elsewhere, view]
  rfl

/-- The node of a place is part of what is seen there. -/
theorem node_of_view {u : Tree} (same : u.view loc = t.view loc) : u.node loc = t.node loc := by
  have first (v : Tree) : (v.view loc).map Prod.fst = v.node loc := by
    rw [view, Option.map_map]
    cases v.node loc with
    | none => rfl
    | some node => cases node <;> rfl
  rw [← first u, same, first]

theorem create_view (content : List UInt8) (named : loc ≠ []) {other : Loc} (elsewhere : other ≠ loc) :
    (t.create loc content).view other = t.view other := by
  have node : (t.create loc content).node other = t.node other := by
    have put := t.put_node named (.file t.next) other
    rw [if_neg elsewhere] at put
    exact put
  rw [view, node, view]
  cases found : t.node other with
  | none => rfl
  | some n =>
    cases n with
    | dir => rfl
    | link target made => rfl
    | file inode =>
      have below : inode < t.next := by
        rw [Tree.node] at found
        by_cases top : other = []
        · rw [if_pos top] at found
          cases found
        · rw [if_neg top] at found
          exact t.unused other inode found
      have kept : (t.create loc content).files inode = t.files inode :=
        Function.update_of_ne (Nat.ne_of_lt below) _ _
      simp only [Option.map_some, kept]

theorem write_view_eq_iff (inode : Nat) (content : List UInt8) (other : Loc) :
    (t.write inode content).view other = t.view other ↔ t.node other ≠ some (.file inode) := by
  have node : (t.write inode content).node other = t.node other := rfl
  rw [view, node, view]
  cases t.node other with
  | none => simp
  | some n =>
    cases n with
    | dir => simp
    | link target made => simp
    | file i =>
      by_cases same : i = inode
      · subst same
        have counted : (⟨content, (t.files i).writes + 1⟩ : FileData) ≠ t.files i :=
          fun equal => Nat.succ_ne_self _ (congrArg FileData.writes equal)
        simp [write, counted]
      · simp [write, same]

end Tree

theorem spot_ne_nil {t : Tree} {path : List Component} {loc : Loc} (found : t.spot path = .ok loc) : loc ≠ [] := by
  rw [Tree.spot] at found
  cases last : path.getLast? with
  | none => simp [last] at found
  | some component =>
    cases component with
    | Normal name =>
      simp only [last] at found
      cases entered : t.enter path.dropLast with
      | error error =>
        rw [entered] at found
        cases found
      | ok here =>
        rw [entered] at found
        cases found
        simp
    | _ => simp [last] at found

section Calls
variable {root : Loc} {t : Tree}

/-- A name that is put changes what is seen there, and nothing else. -/
theorem put_same_iff {loc : Loc} (named : loc ≠ []) {node : Node} (other : t.node loc ≠ some node) :
    SameOutside root t (t.put loc node) ↔ root <+: loc := by
  constructor
  · intro same
    by_contra outside
    have seen := t.node_of_view (same loc outside)
    rw [t.put_node named, if_pos rfl] at seen
    exact other seen.symm
  · intro inside place outside
    exact t.put_view named node fun same => outside (same ▸ inside)

theorem add_same_iff {loc : Loc} (named : loc ≠ []) (node : Node) :
    SameOutside root t (add loc node t).2 ↔ (t.node loc = none → t.permits loc → root <+: loc) := by
  rw [add]
  cases found : t.node loc with
  | some there => simp [SameOutside.refl]
  | none =>
    by_cases permitted : t.permits loc
    · simp only [permitted, if_true]
      rw [put_same_iff named (by simp [found])]
      simp
    · simp [permitted, SameOutside.refl]

/-! ### A directory with those above it -/

/-- Directories may have been made where nothing was; all else is as it was. -/
def Extends (t u : Tree) : Prop :=
  u.files = t.files ∧ ∀ loc, u.node loc = t.node loc ∨ t.node loc = none ∧ u.node loc = some .dir

theorem Extends.refl (t : Tree) : Extends t t := ⟨rfl, fun _ => .inl rfl⟩

theorem Extends.trans {u v : Tree} (first : Extends t u) (second : Extends u v) : Extends t v := by
  refine ⟨second.1.trans first.1, fun loc => ?_⟩
  rcases second.2 loc with same | ⟨missing, made⟩
  · rw [same]
    exact first.2 loc
  · rcases first.2 loc with same | ⟨_, dir⟩
    · exact .inr ⟨same ▸ missing, made⟩
    · rw [dir] at missing
      cases missing

/-- What stood there is seen as before. -/
theorem Extends.view {u : Tree} (grown : Extends t u) {loc : Loc} (same : u.node loc = t.node loc) : u.view loc = t.view loc := by
  rw [Tree.view, same, Tree.view, grown.1]

theorem add_dir_extends {loc : Loc} (named : loc ≠ []) (t : Tree) : Extends t (add loc .dir t).2 := by
  rw [add]
  cases found : t.node loc with
  | some there => exact .refl t
  | none =>
    by_cases permitted : t.permits loc
    · simp only [permitted, if_true]
      refine ⟨rfl, fun place => ?_⟩
      rw [t.put_node named]
      by_cases same : place = loc
      · subst same
        exact .inr ⟨found, if_pos rfl⟩
      · exact .inl (if_neg same)
    · simp only [permitted]
      exact .refl t

theorem make_all_extends (names : List String) (here : Loc) (t : Tree) : Extends t (make_all here names t).2 := by
  induction names generalizing here t with
  | nil => exact .refl t
  | cons name rest ih =>
    have first := @add_dir_extends (here ++ [name]) (by simp) t
    rw [make_all, bind_run]
    cases made : add (here ++ [name]) .dir t with
    | mk result u =>
      rw [made] at first
      cases result with
      | error error => exact first
      | ok _ => exact first.trans (ih _ u)

theorem create_dir_all_extends (path : List String) (t : Tree) : Extends t (create_dir_all path t).2 := by
  rw [create_dir_all]
  cases t.landing path.reverse with
  | error error => exact .refl t
  | ok found => exact make_all_extends found.2 found.1 t

/-- Below a directory inside, everything that is made is inside. -/
theorem make_all_inside {here : Loc} (inside : root <+: here) (names : List String) (t : Tree) :
    SameOutside root t (make_all here names t).2 := by
  induction names generalizing here t with
  | nil => exact .refl t
  | cons name rest ih =>
    have deeper : root <+: here ++ [name] := inside.trans (List.prefix_append _ _)
    have first := (@add_same_iff root t (here ++ [name]) (by simp) .dir).mpr fun _ _ => deeper
    rw [make_all, bind_run]
    cases made : add (here ++ [name]) .dir t with
    | mk result u =>
      rw [made] at first
      cases result with
      | error error => exact first
      | ok _ => exact first.trans (ih deeper u)

/-- The first directory that is missing decides: the others are made below it. -/
theorem create_dir_all_same_iff (path : List String) :
    SameOutside root t (create_dir_all path t).2 ↔ MakesInside root t path := by
  rw [create_dir_all, MakesInside]
  rcases found : t.landing path.reverse with error | ⟨here, _ | ⟨name, rest⟩⟩
  · simp [SameOutside.refl]
  · simp [make_all, SameOutside.refl]
  · have named : here ++ [name] ≠ [] := by simp
    have first := @add_same_iff root t _ named .dir
    simp only [Except.ok.injEq, Prod.mk.injEq, List.cons.injEq]
    rw [make_all, bind_run]
    cases made : add (here ++ [name]) .dir t with
    | mk result u =>
      rw [made] at first
      constructor
      · rintro same _ _ _ ⟨rfl, rfl, rfl⟩ missing permitted
        by_contra outside
        have added : u.node (here ++ [name]) = some .dir ∧ result = .ok () := by
          simp only [add, missing, permitted, if_true, Prod.mk.injEq] at made
          obtain ⟨rfl, rfl⟩ := made
          exact ⟨by rw [t.put_node named, if_pos rfl], rfl⟩
        obtain ⟨there, rfl⟩ := added
        have seen := t.node_of_view (same _ outside)
        rw [missing] at seen
        rcases (make_all_extends rest (here ++ [name]) u).2 (here ++ [name]) with kept | ⟨absent, _⟩
        · simp only [kept, there] at seen
          cases seen
        · rw [there] at absent
          cases absent
      · intro inside
        have safe := first.mpr (inside here name rest ⟨rfl, rfl, rfl⟩)
        cases result with
        | error error => exact safe
        | ok _ =>
          have missing : t.node (here ++ [name]) = none ∧ t.permits (here ++ [name]) := by
            rw [add] at made
            cases there : t.node (here ++ [name]) with
            | some node =>
              rw [there] at made
              cases made
            | none =>
              by_cases permitted : t.permits (here ++ [name])
              · exact ⟨rfl, permitted⟩
              · simp [there, permitted] at made
          exact safe.trans (make_all_inside (inside here name rest ⟨rfl, rfl, rfl⟩ missing.1 missing.2) rest u)

/-! ### The other calls -/

theorem create_dir_same_iff (path : List Component) :
    SameOutside root t (create_dir path t).2 ↔ NamesInside root t path := by
  rw [create_dir, NamesInside]
  cases found : t.spot path with
  | error error => simp [SameOutside.refl]
  | ok loc =>
    simp only [Except.ok.injEq, forall_eq']
    cases there : t.node loc with
    | none =>
      simp only
      rw [add_same_iff (spot_ne_nil found), there]
      simp
    | some node => cases t.enter path <;> simp [SameOutside.refl]

theorem symlink_same_iff (target : String) (path : List Component) :
    SameOutside root t (symlink target path t).2 ↔ LinksInside root t path := by
  rw [symlink, LinksInside]
  cases found : t.spot path with
  | error error => simp [SameOutside.refl]
  | ok loc =>
    have named := spot_ne_nil found
    simp only [Except.ok.injEq, forall_eq']
    by_cases permitted : t.permits loc
    · simp only [permitted, if_true, forall_const]
      cases there : t.node loc with
      | none =>
        simp only
        rw [put_same_iff named (by simp [there])]
        simp
      | some node =>
        cases node with
        | dir => simp [SameOutside.refl]
        | link other made =>
          simp only
          rw [put_same_iff named (by simp [there])]
          simp
        | file inode =>
          simp only
          rw [put_same_iff named (by simp [there])]
          simp
    · simp [permitted, SameOutside.refl]

theorem hard_link_same_iff (source path : List Component) :
    SameOutside root t (hard_link source path t).2 ↔ ∀ node, t.shared source = .ok node → NamesInside root t path := by
  rw [hard_link]
  cases shared : t.shared source with
  | error error => simp [SameOutside.refl]
  | ok node =>
    simp only [Except.ok.injEq, forall_eq', NamesInside]
    cases found : t.spot path with
    | error error => simp [SameOutside.refl]
    | ok loc =>
      simp only [Except.ok.injEq, forall_eq']
      exact add_same_iff (spot_ne_nil found) node

theorem write_file_same_iff (content : List UInt8) (broken : Option String) (path : List Component) :
    SameOutside root t (write_file content broken path t).2 ↔ WritesInside root t path := by
  rw [write_file, WritesInside]
  cases found : t.place path with
  | error error => simp [SameOutside.refl]
  | ok loc =>
    simp only [Except.ok.injEq, forall_eq']
    by_cases permitted : t.permits loc
    · simp only [permitted, if_true, forall_const]
      cases there : t.node loc with
      | none =>
        have named : loc ≠ [] := by
          rintro rfl
          cases there
        simp only [reduceCtorEq, forall_const, IsEmpty.forall_iff, and_true]
        constructor
        · intro same
          by_contra outside
          have seen := t.node_of_view (same loc outside)
          rw [there] at seen
          have made : (t.create loc content).node loc = some (.file t.next) := (t.put_node named _ loc).trans (if_pos rfl)
          rw [made] at seen
          cases seen
        · intro inside place outside
          exact t.create_view content named fun same => outside (same ▸ inside)
      | some node =>
        cases node with
        | dir => simp [SameOutside.refl]
        | link target made => simp [SameOutside.refl]
        | file inode =>
          simp only [reduceCtorEq, IsEmpty.forall_iff, Option.some.injEq, Node.file.injEq, forall_eq', true_and]
          constructor
          · intro same other shares
            by_contra outside
            exact (t.write_view_eq_iff inode content other).mp (same other outside) shares
          · intro inside other outside
            exact (t.write_view_eq_iff inode content other).mpr fun shares => outside (inside other shares)
    · simp [permitted, SameOutside.refl]

/-- What breaks off is told as an error. -/
theorem write_file_broken (content : List UInt8) (message : String) (path : List Component) (t : Tree) :
    (write_file content (some message) path t).1 ≠ .ok () := by
  rw [write_file]
  cases t.place path with
  | error error => simp
  | ok loc =>
    simp only
    by_cases permitted : t.permits loc
    · rw [if_pos permitted]
      cases t.node loc with
      | none => simp [written]
      | some node => cases node <;> simp [written]
    · rw [if_neg permitted]
      simp

/-! ### Directories stay -/

/-- What is a directory stays one. -/
def KeepsDirs (t u : Tree) : Prop := ∀ loc, t.node loc = some .dir → u.node loc = some .dir

theorem put_keeps {loc : Loc} (named : loc ≠ []) (other : t.node loc ≠ some .dir) (node : Node) : KeepsDirs t (t.put loc node) := by
  intro place dir
  rw [t.put_node named, if_neg]
  · exact dir
  · rintro rfl
    exact other dir

theorem add_keeps {loc : Loc} (named : loc ≠ []) (node : Node) (t : Tree) : KeepsDirs t (add loc node t).2 := by
  rw [add]
  cases found : t.node loc with
  | some there => exact fun _ dir => dir
  | none =>
    by_cases permitted : t.permits loc
    · simp only [permitted, if_true]
      exact put_keeps named (by simp [found]) node
    · simp only [permitted]
      exact fun _ dir => dir

theorem create_dir_keeps (path : List Component) (t : Tree) : KeepsDirs t (create_dir path t).2 := by
  rw [create_dir]
  cases found : t.spot path with
  | error error => exact fun _ dir => dir
  | ok loc =>
    simp only
    cases there : t.node loc with
    | none => exact add_keeps (spot_ne_nil found) .dir t
    | some node => cases t.enter path <;> exact fun _ dir => dir

theorem symlink_keeps (target : String) (path : List Component) (t : Tree) : KeepsDirs t (symlink target path t).2 := by
  rw [symlink]
  cases found : t.spot path with
  | error error => exact fun _ dir => dir
  | ok loc =>
    have named := spot_ne_nil found
    simp only
    by_cases permitted : t.permits loc
    · rw [if_pos permitted]
      cases there : t.node loc with
      | none => exact put_keeps named (by simp [there]) _
      | some node =>
        cases node with
        | dir => exact fun _ dir => dir
        | link other made => exact put_keeps named (by simp [there]) _
        | file inode => exact put_keeps named (by simp [there]) _
    · rw [if_neg permitted]
      exact fun _ dir => dir

theorem hard_link_keeps (source path : List Component) (t : Tree) : KeepsDirs t (hard_link source path t).2 := by
  rw [hard_link]
  cases t.shared source with
  | error error => exact fun _ dir => dir
  | ok node =>
    simp only
    cases found : t.spot path with
    | error error => exact fun _ dir => dir
    | ok loc => exact add_keeps (spot_ne_nil found) node t

theorem write_file_keeps (content : List UInt8) (broken : Option String) (path : List Component) (t : Tree) :
    KeepsDirs t (write_file content broken path t).2 := by
  rw [write_file]
  cases t.place path with
  | error error => exact fun _ dir => dir
  | ok loc =>
    simp only
    by_cases permitted : t.permits loc
    · rw [if_pos permitted]
      cases there : t.node loc with
      | none =>
        have named : loc ≠ [] := by
          rintro rfl
          cases there
        exact put_keeps named (by simp [there]) (.file t.next)
      | some node => cases node <;> exact fun _ dir => dir
    · rw [if_neg permitted]
      exact fun _ dir => dir

end Calls
end Riscdom.FileTree
