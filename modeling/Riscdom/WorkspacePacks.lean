import Mathlib.Data.List.Perm.Basic
import Riscdom.LexicalPaths
import Riscdom.WorkspaceImports

/-!
A workspace packed, and unpacked again. The packer goes through each directory by
name, so what it adds is in the order of the paths; a name that an entry is written
through comes after the entry's own.
-/
namespace Riscdom.WorkspaceIo
open Riscdom.Agent (Component components display)
open Riscdom.FileTree Riscdom.Fallible Fallible.Act
open Riscdom.Workspace (HostError TarEntry EntryType UnpackReport HOST_STATE_DIR MAX_UNPACKED_BYTES safe_relative normalised
  check_unpacked dotted)

/-! ### What there is to pack -/

/-- What a directory lists, in any order, with all that is below. Whatever is no directory and no regular file counts as a
    link; a regular file is sparse where its bytes leave holes on the disk. -/
inductive Listing
  | nil
  | dir (name : String) (inner rest : Listing)
  | file (name : String) (content : List UInt8) (sparse : Bool) (rest : Listing)
  | link (name : String) (rest : Listing)

/-- What a builder is told to add, under the path from the root. -/
inductive Added
  | Dir (rel : Loc)
  | File (rel : Loc) (content : List UInt8) (sparse : Bool)
deriving DecidableEq

namespace Added

def rel : Added → Loc
  | .Dir rel => rel
  | .File rel _ _ => rel

def size : Added → Nat
  | .Dir _ => 0
  | .File _ content _ => content.length

/-- Seen from above a directory. -/
def below (dir : Loc) : Added → Added
  | .Dir rel => .Dir (dir ++ rel)
  | .File rel content sparse => .File (dir ++ rel) content sparse

@[simp] theorem rel_below (dir : Loc) (a : Added) : (a.below dir).rel = dir ++ a.rel := by cases a <;> rfl
@[simp] theorem size_below (dir : Loc) (a : Added) : (a.below dir).size = a.size := by cases a <;> rfl
@[simp] theorem below_below (dir inner : Loc) (a : Added) : (a.below inner).below dir = a.below (dir ++ inner) := by
  cases a <;> simp [below]

theorem below_nil (a : Added) : a.below [] = a := by cases a <;> rfl

end Added

namespace Listing

def names : Listing → List String
  | .nil => []
  | .dir name _ rest => name :: rest.names
  | .file name _ _ rest => name :: rest.names
  | .link name rest => name :: rest.names

/-- All directories and regular files, by their paths. -/
def contents : Listing → List Added
  | .nil => []
  | .dir name inner rest => .Dir [name] :: inner.contents.map (.below [name]) ++ rest.contents
  | .file name content sparse rest => .File [name] content sparse :: rest.contents
  | .link _ rest => rest.contents

/-- A name that a directory can list, without backslashes. -/
def FileName (name : String) : Prop := Agent.Plain name ∧ '\\' ∉ name.toList

/-- In every directory each name stands once. -/
def Proper : Listing → Prop
  | .nil => True
  | .dir name inner rest => FileName name ∧ name ∉ rest.names ∧ inner.Proper ∧ rest.Proper
  | .file name _ _ rest => FileName name ∧ name ∉ rest.names ∧ rest.Proper
  | .link name rest => FileName name ∧ name ∉ rest.names ∧ rest.Proper

instance (name : String) : Decidable (FileName name) :=
  inferInstanceAs (Decidable ((name ≠ "" ∧ name ≠ "." ∧ name ≠ ".." ∧ '/' ∉ name.toList) ∧ '\\' ∉ name.toList))

def proper_decidable : (listing : Listing) → Decidable listing.Proper
  | .nil => .isTrue trivial
  | .dir name inner rest =>
    have := proper_decidable inner
    have := proper_decidable rest
    inferInstanceAs (Decidable (FileName name ∧ name ∉ rest.names ∧ inner.Proper ∧ rest.Proper))
  | .file name _ _ rest =>
    have := proper_decidable rest
    inferInstanceAs (Decidable (FileName name ∧ name ∉ rest.names ∧ rest.Proper))
  | .link name rest =>
    have := proper_decidable rest
    inferInstanceAs (Decidable (FileName name ∧ name ∉ rest.names ∧ rest.Proper))

instance (listing : Listing) : Decidable listing.Proper := proper_decidable listing

theorem Proper.distinct {listing : Listing} (proper : listing.Proper) : listing.names.Nodup := by
  induction listing with
  | nil => exact .nil
  | dir name inner rest _ ih => exact List.nodup_cons.mpr ⟨proper.2.1, ih proper.2.2.2⟩
  | file name content sparse rest ih => exact List.nodup_cons.mpr ⟨proper.2.1, ih proper.2.2⟩
  | link name rest ih => exact List.nodup_cons.mpr ⟨proper.2.1, ih proper.2.2⟩

end Listing

/-- A workspace on the disk. -/
def Workspace : Type := { listing : Listing // listing.Proper }

/-- What is project content: the host's own state at the top is not. -/
def Workspace.project (w : Workspace) : List Added := w.val.contents.filter fun a => a.rel.head? ≠ some HOST_STATE_DIR

/-! ### Packing -/

/-- What the builder is told for a directory: name by name, the host's own state skipped at the root. -/
def add_entries (root : Bool) (entries : List (String × List Added)) : List Added :=
  let sorted := entries.mergeSort fun a b => decide (a.1 ≤ b.1)
  (sorted.filter fun entry => !(root && entry.1 == HOST_STATE_DIR)).flatMap Prod.snd

/-- What the builder would be told for each entry, in the order in which they are read. -/
def entries (dir : Loc) : Listing → List (String × List Added)
  | .nil => []
  | .dir name inner rest =>
    (name, .Dir (dir ++ [name]) :: add_entries false (entries (dir ++ [name]) inner)) :: entries dir rest
  | .file name content sparse rest => (name, [.File (dir ++ [name]) content sparse]) :: entries dir rest
  | .link name rest => (name, []) :: entries dir rest

/-- Append a directory, recursively, skipping the host's state directory. -/
def add_dir (root : Bool) (dir : Loc) (listing : Listing) : List Added := add_entries root (entries dir listing)

/-! ### What the packer adds -/

theorem entries_names (dir : Loc) (listing : Listing) : (entries dir listing).map Prod.fst = listing.names := by
  induction listing generalizing dir with
  | nil => rfl
  | dir name inner rest _ ih => simp [entries, Listing.names, ih]
  | file name content sparse rest ih => simp [entries, Listing.names, ih]
  | link name rest ih => simp [entries, Listing.names, ih]

theorem add_entries_perm (root : Bool) (found : List (String × List Added)) :
    (add_entries root found).Perm
      ((found.filter fun entry => !(root && entry.1 == HOST_STATE_DIR)).flatMap Prod.snd) :=
  ((List.mergeSort_perm found _).filter _).flatMap_right _

theorem contents_ne_nil {listing : Listing} {a : Added} (inside : a ∈ listing.contents) : a.rel ≠ [] := by
  induction listing with
  | nil => cases inside
  | dir name inner rest _ ih =>
    rcases List.mem_append.mp inside with first | later
    · rcases List.mem_cons.mp first with rfl | deeper
      · simp [Added.rel]
      · obtain ⟨b, -, rfl⟩ := List.mem_map.mp deeper
        simp
    · exact ih later
  | file name content sparse rest ih =>
    rcases List.mem_cons.mp inside with rfl | later
    · simp [Added.rel]
    · exact ih later
  | link name rest ih => exact ih inside

/-- Everything in a directory that a listing names, with the directory itself, starts with its name. -/
theorem under_name {name : String} {inner : Listing} {a : Added}
    (inside : a ∈ Added.Dir [name] :: inner.contents.map (.below [name])) : a.rel.head? = some name := by
  rcases List.mem_cons.mp inside with rfl | deeper
  · rfl
  · obtain ⟨b, -, rfl⟩ := List.mem_map.mp deeper
    simp

/-- Of what starts with one name all is kept, or nothing. -/
theorem filter_named (root : Bool) {name : String} {found : List Added} (each : ∀ a ∈ found, a.rel.head? = some name) :
    (found.filter fun a => !(root && a.rel.head? == some HOST_STATE_DIR)) =
      if root && name == HOST_STATE_DIR then [] else found := by
  have same : ∀ a ∈ found, (!(root && a.rel.head? == some HOST_STATE_DIR)) = !(root && name == HOST_STATE_DIR) := by
    intro a inside
    rw [each a inside]
    rfl
  rw [List.filter_congr same]
  cases root && name == HOST_STATE_DIR <;> simp

/-- The packer adds what the listing holds, and leaves out the host's own state. -/
theorem entries_perm (root : Bool) (dir : Loc) (listing : Listing) :
    (((entries dir listing).filter fun entry => !(root && entry.1 == HOST_STATE_DIR)).flatMap Prod.snd).Perm
      ((listing.contents.filter fun a => !(root && a.rel.head? == some HOST_STATE_DIR)).map (.below dir)) := by
  induction listing generalizing root dir with
  | nil => exact .nil
  | dir name inner rest inner_ih rest_ih =>
    rw [entries, Listing.contents, List.filter_append, List.map_append, filter_named root fun a => under_name, List.filter_cons]
    have later := rest_ih root dir
    have deeper := (add_entries_perm false (entries (dir ++ [name]) inner)).trans (inner_ih false (dir ++ [name]))
    simp only [Bool.false_and, Bool.not_false, List.filter_true] at deeper
    cases root && name == HOST_STATE_DIR with
    | true => exact later
    | false =>
      refine List.Perm.append ?_ later
      rw [if_neg Bool.false_ne_true, List.map_cons, List.map_map]
      refine List.Perm.cons _ (deeper.trans (.of_eq ?_))
      exact List.map_congr_left fun a _ => (Added.below_below dir [name] a).symm
  | file name content sparse rest ih =>
    have first := @filter_named root name [.File [name] content sparse] fun a inside => by
      rw [List.mem_singleton.mp inside]
      rfl
    rw [entries, Listing.contents, List.filter_cons, ← @List.singleton_append _ (Added.File [name] content sparse),
      List.filter_append, List.map_append, first]
    have later := ih root dir
    cases root && name == HOST_STATE_DIR with
    | true => exact later
    | false => exact later.cons _
  | link name rest ih =>
    rw [entries, Listing.contents, List.filter_cons]
    have later := ih root dir
    cases root && name == HOST_STATE_DIR <;> exact later

theorem add_dir_perm (root : Bool) (dir : Loc) (listing : Listing) :
    (add_dir root dir listing).Perm
      ((listing.contents.filter fun a => !(root && a.rel.head? == some HOST_STATE_DIR)).map (.below dir)) :=
  (add_entries_perm root _).trans (entries_perm root dir listing)

/-- At the root, that is the project. -/
theorem add_root_perm (w : Workspace) : (add_dir true [] w.val).Perm w.project := by
  refine (add_dir_perm true [] w.val).trans (.of_eq ?_)
  have whole (l : List Added) : l.map (.below []) = l := (List.map_congr_left fun a _ => a.below_nil).trans (List.map_id' l)
  rw [whole, Workspace.project]
  refine List.filter_congr fun a _ => ?_
  rw [Bool.eq_iff_iff]
  simp

/-! ### The order of what is added -/

/-- Names are gone through in their order, and all that is in a directory comes before the next name. -/
structure Ordered (dir : Loc) (entry : String × List Added) : Prop where
  inside : ∀ a ∈ entry.2, dir ++ [entry.1] <+: a.rel
  sorted : entry.2.Pairwise fun a b => a.rel < b.rel

theorem lt_of_names {dir p q : Loc} {name other : String} (less : name < other) (first : dir ++ [name] <+: p)
    (second : dir ++ [other] <+: q) : p < q := by
  obtain ⟨s, rfl⟩ := first
  obtain ⟨r, rfl⟩ := second
  rw [List.append_assoc, List.append_assoc]
  exact List.append_left_lt (List.cons_lt_cons_iff.mpr (.inl less))

theorem lt_below (p : Loc) {rest : Loc} (some_name : rest ≠ []) : p < p ++ rest := by
  have longer : p ++ [] < p ++ rest := by
    cases rest with
    | nil => exact absurd rfl some_name
    | cons first more => exact List.append_left_lt (List.nil_lt_cons first more)
  rwa [List.append_nil] at longer

theorem add_entries_sorted (root : Bool) {dir : Loc} {found : List (String × List Added)}
    (distinct : (found.map Prod.fst).Nodup) (each : ∀ entry ∈ found, Ordered dir entry) :
    (add_entries root found).Pairwise fun a b => a.rel < b.rel := by
  have perm := List.mergeSort_perm found fun a b => decide (a.1 ≤ b.1)
  have names : (found.mergeSort fun a b => decide (a.1 ≤ b.1)).Pairwise fun a b => a.1 < b.1 := by
    have sorted := @List.pairwise_mergeSort _ (fun a b : String × List Added => decide (a.1 ≤ b.1))
      (fun a b c first second =>
        decide_eq_true (String.le_trans (of_decide_eq_true first) (of_decide_eq_true second)))
      (fun a b => by
        rw [Bool.or_eq_true, decide_eq_true_eq, decide_eq_true_eq]
        exact String.le_total a.1 b.1) found
    have apart := List.pairwise_map.mp ((perm.map Prod.fst).nodup_iff.mpr distinct)
    refine (sorted.and apart).imp fun {a b} both => ?_
    by_contra other
    exact both.2 (String.le_antisymm (of_decide_eq_true both.1) (String.not_lt.mp other))
  refine List.pairwise_flatMap.mpr ⟨fun entry inside => ?_, ?_⟩
  · exact (each entry (perm.mem_iff.mp (List.mem_filter.mp inside).1)).sorted
  · refine (names.filter _).imp_of_mem fun {a b} first second less x here y there => ?_
    have its := each a (perm.mem_iff.mp (List.mem_filter.mp first).1)
    have other := each b (perm.mem_iff.mp (List.mem_filter.mp second).1)
    exact lt_of_names less (its.inside x here) (other.inside y there)

/-- In a listing where each name stands once, what is added comes in the order of the paths. -/
theorem entries_ordered {listing : Listing} (proper : listing.Proper) (dir : Loc) :
    ∀ entry ∈ entries dir listing, Ordered dir entry := by
  induction listing generalizing dir with
  | nil => simp [entries]
  | dir name inner rest inner_ih rest_ih =>
    obtain ⟨-, -, within, later⟩ := proper
    rw [entries, List.forall_mem_cons]
    refine ⟨?_, rest_ih later dir⟩
    have deeper : ∀ a ∈ add_entries false (entries (dir ++ [name]) inner), ∃ rest, rest ≠ [] ∧ a.rel = dir ++ [name] ++ rest := by
      intro a inside
      obtain ⟨b, there, rfl⟩ := List.mem_map.mp ((add_dir_perm false (dir ++ [name]) inner).mem_iff.mp inside)
      exact ⟨b.rel, contents_ne_nil (List.mem_filter.mp there).1, by simp⟩
    constructor
    · intro a inside
      rcases List.mem_cons.mp inside with rfl | below
      · exact List.prefix_refl _
      · obtain ⟨rest, -, path⟩ := deeper a below
        exact path ▸ List.prefix_append _ rest
    · refine List.pairwise_cons.mpr ⟨fun a below => ?_, ?_⟩
      · obtain ⟨rest, some_name, path⟩ := deeper a below
        exact path ▸ lt_below _ some_name
      · exact add_entries_sorted false (entries_names _ inner ▸ within.distinct) (inner_ih within _)
  | file name content sparse rest ih =>
    obtain ⟨-, -, later⟩ := proper
    rw [entries, List.forall_mem_cons]
    refine ⟨⟨fun a inside => ?_, List.pairwise_singleton _ _⟩, ih later dir⟩
    rw [List.mem_singleton.mp inside]
    exact List.prefix_refl _
  | link name rest ih =>
    obtain ⟨-, -, later⟩ := proper
    rw [entries, List.forall_mem_cons]
    exact ⟨⟨fun a inside => (by cases inside), .nil⟩, ih later dir⟩

theorem add_dir_sorted {listing : Listing} (proper : listing.Proper) (root : Bool) (dir : Loc) :
    (add_dir root dir listing).Pairwise fun a b => a.rel < b.rel :=
  add_entries_sorted root (entries_names dir listing ▸ proper.distinct) (entries_ordered proper dir)

/-- Above everything that is listed stand directories that are listed. -/
theorem contents_closed {listing : Listing} {a : Added} (inside : a ∈ listing.contents) {parent : Loc} {name : String}
    (path : a.rel = parent ++ [name]) : parent = [] ∨ .Dir parent ∈ listing.contents := by
  induction listing generalizing a parent with
  | nil => cases inside
  | dir top inner rest inner_ih rest_ih =>
    rw [Listing.contents] at inside ⊢
    rcases List.mem_append.mp inside with first | later
    · rcases List.mem_cons.mp first with rfl | deeper
      · have only : [] ++ [top] = parent ++ [name] := path
        exact .inl (List.append_inj' only rfl).1.symm
      · obtain ⟨b, there, rfl⟩ := List.mem_map.mp deeper
        obtain ⟨up, last, its⟩ := (List.eq_nil_or_concat' b.rel).resolve_left (contents_ne_nil there)
        rw [Added.rel_below, its, ← List.append_assoc] at path
        obtain ⟨rfl, ends⟩ := List.append_inj' path rfl
        cases ends
        refine .inr (List.mem_append_left _ ?_)
        rcases inner_ih there its with rfl | above
        · exact List.mem_cons_self
        · exact List.mem_cons_of_mem _ (List.mem_map.mpr ⟨_, above, rfl⟩)
    · exact (rest_ih later path).imp_right (List.mem_append_right _)
  | file top content sparse rest ih =>
    rcases List.mem_cons.mp inside with rfl | later
    · have only : [] ++ [top] = parent ++ [name] := path
      exact .inl (List.append_inj' only rfl).1.symm
    · exact (ih later path).imp_right (List.mem_cons_of_mem _)
  | link top rest ih => exact ih inside path

/-- Every name on the way is one that a directory can list. -/
theorem contents_named {listing : Listing} (proper : listing.Proper) {a : Added} (inside : a ∈ listing.contents) :
    ∀ name ∈ a.rel, Listing.FileName name := by
  induction listing generalizing a with
  | nil => cases inside
  | dir top inner rest inner_ih rest_ih =>
    obtain ⟨named, -, within, rest_proper⟩ := proper
    rcases List.mem_append.mp inside with first | later
    · rcases List.mem_cons.mp first with rfl | deeper
      · simpa [Added.rel] using named
      · obtain ⟨b, there, rfl⟩ := List.mem_map.mp deeper
        rw [Added.rel_below]
        exact List.forall_mem_append.mpr ⟨by simpa using named, inner_ih within there⟩
    · exact rest_ih rest_proper later
  | file top content sparse rest ih =>
    obtain ⟨named, -, rest_proper⟩ := proper
    rcases List.mem_cons.mp inside with rfl | later
    · simpa [Added.rel] using named
    · exact ih rest_proper later
  | link top rest ih => exact ih proper.2.2 inside

/-! ### The archive -/

/-- The path of an entry, as it is written into its header. -/
def text (rel : Loc) : String := display (path_to rel)

/-- An entry as it is read again. A builder stores a sparse file as such. -/
def Added.held : Added → Held TarEntry
  | .Dir rel => ⟨⟨.Directory, .ok (text rel), some 0⟩, [], none⟩
  | .File rel content false => ⟨⟨.Regular, .ok (text rel), some (UInt64.ofNat content.length)⟩, content, none⟩
  | .File rel content true => ⟨⟨.Special "GNUSparse", .ok (text rel), some (UInt64.ofNat content.length)⟩, content, none⟩

/-- The libraries for tar and gzip: what has been added becomes an archive, and an archive is read. -/
structure TarGz (Packed : Type) where
  finish : List Added → Packed
  entries : Packed → Except String (List (Except String (Held TarEntry)))

/-- Names and bytes are read as they were added. -/
def TarGz.RoundTrips {Packed : Type} (libraries : TarGz Packed) : Prop :=
  ∀ added, libraries.entries (libraries.finish added) = .ok (added.map fun a => .ok a.held)

/-- Pack the workspace. One that is not there is packed as an empty one. -/
def pack_workspace {Packed : Type} (libraries : TarGz Packed) (root : Option Workspace) : Packed :=
  libraries.finish (match root with
    | some w => add_dir true [] w.val
    | none => [])

/-- What is to be done for an entry when the archive is unpacked. A sparse file is none of what may be unpacked. -/
def Added.job (dest : Loc) : Added → Except HostError Job
  | .Dir rel => .ok (.Directory (dest ++ rel) .Name)
  | .File rel content false => .ok (.File (dest ++ rel) .Name (UInt64.ofNat content.length) content none)
  | .File _ _ true => .error (.Archive "entry is not a file or a directory (GNUSparse)")

theorem text_eq {rel : Loc} (some_name : rel ≠ []) : text rel = "/".intercalate rel := by
  rw [text, display, if_neg]
  · exact congrArg _ (Agent.display_names rel)
  · cases rel <;> simp [path_to]

theorem intercalate_chars {separator : List Char} {c : Char} {parts : List (List Char)}
    (inside : c ∈ separator.intercalate parts) : c ∈ separator ∨ ∃ part ∈ parts, c ∈ part := by
  induction parts with
  | nil => simp at inside
  | cons first rest ih =>
    cases rest with
    | nil =>
      rw [List.intercalate_singleton] at inside
      exact .inr ⟨first, List.mem_cons_self, inside⟩
    | cons second more =>
      rw [List.intercalate_cons_cons, List.mem_append, List.mem_append] at inside
      rcases inside with (here | between) | later
      · exact .inr ⟨first, List.mem_cons_self, here⟩
      · exact .inl between
      · exact (ih later).imp_right fun ⟨part, there, its⟩ => ⟨part, List.mem_cons_of_mem _ there, its⟩

/-- A path of such names has no backslash to be read as a separator. -/
theorem normalised_text {rel : Loc} (some_name : rel ≠ []) (named : ∀ name ∈ rel, Listing.FileName name) :
    normalised (text rel) = text rel := by
  have same : (text rel).toList.map (fun c => if c = '\\' then '/' else c) = (text rel).toList := by
    refine (List.map_congr_left fun c inside => if_neg ?_).trans (List.map_id' _)
    rintro rfl
    rw [text_eq some_name, String.toList_intercalate] at inside
    rcases intercalate_chars inside with between | ⟨part, there, its⟩
    · revert between
      decide
    · obtain ⟨name, listed, rfl⟩ := List.mem_map.mp there
      exact (named name listed).2 its
  rw [normalised, same, String.ofList_toList]

theorem text_split {rel : Loc} (some_name : rel ≠ []) (named : ∀ name ∈ rel, Listing.FileName name) :
    (text rel).toList.splitOn '/' = rel.map String.toList := by
  rw [text_eq some_name]
  exact Agent.splitOn_display some_name fun name inside => (named name inside).1.2.2.2

/-- Such a path ends with a name. -/
theorem ending_text {rel : Loc} (some_name : rel ≠ []) (named : ∀ name ∈ rel, Listing.FileName name) :
    ending (text rel) = .Name := by
  obtain ⟨parent, name, rfl⟩ := (List.eq_nil_or_concat' rel).resolve_left some_name
  obtain ⟨⟨filled, dot, -, -⟩, -⟩ := named name (by simp)
  have no_part : ¬ (name.toList = [] ∨ name.toList = ['.']) := by
    rintro (empty | single)
    · exact filled (String.toList_inj.mp empty)
    · exact dot (String.toList_inj.mp single)
  simp only [ending, normalised_text some_name named, text_split some_name named, List.map_append, List.map_cons, List.map_nil,
    List.reverse_concat]
  rw [List.takeWhile_cons_of_neg (by simpa using no_part), if_neg (by simp), if_pos rfl]

/-- The names that are packed pass the checks when they are unpacked. -/
theorem safe_relative_text {rel : Loc} (some_name : rel ≠ []) (named : ∀ name ∈ rel, Listing.FileName name)
    (project : rel.head? ≠ some HOST_STATE_DIR) (dest : Loc) :
    safe_relative (text rel) (path_to dest) = .ok (path_to (dest ++ rel)) := by
  have plain : ∀ name ∈ rel, Agent.Plain name := fun name inside => (named name inside).1
  have parts : components (text rel) = path_to rel := (@Agent.components_display false rel plain).2
  have split := text_split some_name named
  have filled : text rel ≠ "" := by
    intro empty
    rw [empty] at parts
    cases rel with
    | nil => exact some_name rfl
    | cons first rest => cases parts
  have first : ((text rel).toList.splitOn '/').head? ≠ some HOST_STATE_DIR.toList := by
    rw [split, List.head?_map]
    intro same
    obtain ⟨name, head, text⟩ := Option.map_eq_some_iff.mp same
    exact project (head.trans (congrArg some (String.toList_inj.mp text)))
  rw [safe_relative]
  simp only [normalised_text some_name named, parts]
  rw [if_neg (by simp), if_neg filled, if_neg first, Riscdom.Workspace.named_parts, List.filter_eq_self.mpr (by simp)]
  exact congrArg _ List.map_append.symm

/-- So each becomes what is to be done for it. -/
theorem tar_jobs_packed {added : List Added} (dest : Loc)
    (each : ∀ a ∈ added, a.rel ≠ [] ∧ (∀ name ∈ a.rel, Listing.FileName name) ∧ a.rel.head? ≠ some HOST_STATE_DIR) :
    tar_jobs dest (.ok (added.map fun a => .ok a.held)) = .ok (added.map (Added.job dest)) := by
  rw [tar_jobs, List.map_map]
  refine congrArg _ (List.map_congr_left fun a inside => ?_)
  obtain ⟨some_name, named, project⟩ := each a inside
  have names (loc : Loc) : names_of (path_to loc) = loc := by
    rw [names_of, path_to, List.filterMap_map]
    exact List.filterMap_some
  cases a with
  | Dir rel =>
    have safe : safe_relative (text rel) (path_to dest) = .ok (path_to (dest ++ rel)) := safe_relative_text some_name named project dest
    have ends : ending (text rel) = .Name := ending_text some_name named
    simp only [Function.comp, Added.held, job, Riscdom.Workspace.admit_tar, safe, ends, Except.map, names]
    rfl
  | File rel content sparse =>
    have safe : safe_relative (text rel) (path_to dest) = .ok (path_to (dest ++ rel)) := safe_relative_text some_name named project dest
    have ends : ending (text rel) = .Name := ending_text some_name named
    cases sparse with
    | false =>
      simp only [Function.comp, Added.held, job, Riscdom.Workspace.admit_tar, safe, ends, Except.map, names]
      rfl
    | true => rfl

end Riscdom.WorkspaceIo
