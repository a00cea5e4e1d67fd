import Riscdom.LexicalPaths

/-!
What the policy of a workspace lets through lies inside the workspace, as long
as the text that names the root is absolute. A root in a relative text is kept
as it is: read again, a path is put below it once more, and a root that comes to
nothing is the start of every path. Paths are POSIX ones.
-/
namespace Riscdom.Agent

inductive Access
  | Read
  | Write
deriving DecidableEq

namespace WorkspacePolicy
variable (policy : WorkspacePolicy)

def check : Access → String → Except AgentError (List Component)
  | .Read => policy.check_read
  | .Write => policy.check_write

/-- What a path is resolved to, before it is judged. -/
def candidate (path : String) : List Component :=
  if is_absolute path then normalize (components path) else normalize (policy.root ++ components path)

def writable (abs : List Component) : Bool :=
  policy.allowed_extensions.any fun allowed => eq_ignore_ascii_case allowed (((extension abs).map fun e => "." ++ e).getD "")

end WorkspacePolicy

/-- Whatever the working directory is, a path is inside the directory that the text names from there. -/
def LiesInside (root : String) (abs : List Component) : Prop :=
  ∀ dir : List String, (∀ name ∈ dir, Plain name) →
    normalize (below true dir ++ components root) <+: normalize (below true dir ++ abs)

/-- What a path that is let through is to be. -/
structure Contained (root : String) (access : Access) (abs : List Component) : Prop where
  inside : LiesInside root abs
  no_parent : .ParentDir ∉ abs
  allowed : access = .Write → ∃ e, extension abs = some e ∧
    (WorkspacePolicy.new root).allowed_extensions.any fun allowed => eq_ignore_ascii_case allowed ("." ++ e)
  again : (WorkspacePolicy.new root).check access (display abs) = .ok abs

/-- The root is named absolutely; or the path is refused on its face, or it is relative exactly where the root comes to
    nothing. -/
def Confined (root : String) (access : Access) (path : String) : Prop :=
  is_absolute root = true ∨ .ParentDir ∈ components path ∨
    access = .Write ∧ (WorkspacePolicy.new root).writable ((WorkspacePolicy.new root).candidate path) = false ∨
    (normalize (components root) = [] ↔ is_absolute path = false)

/-! ### What is let through -/

variable {policy : WorkspacePolicy} {path : String} {abs : List Component}

theorem resolve_iff : policy.resolve path = .ok abs ↔
    .ParentDir ∉ components path ∧ policy.root <+: policy.candidate path ∧ abs = policy.candidate path := by
  have resolved : policy.resolve path = if .ParentDir ∈ components path then
      .error (.PolicyDenied ("path traversal not allowed: " ++ path))
    else if policy.root.isPrefixOf (policy.candidate path) then .ok (policy.candidate path)
    else .error (.PolicyDenied ("path outside workspace: " ++ display (policy.candidate path))) := rfl
  rw [← List.isPrefixOf_iff_prefix, resolved]
  by_cases climbs : .ParentDir ∈ components path
  · simp [climbs]
  · by_cases inside : policy.root.isPrefixOf (policy.candidate path) = true
    · rw [if_neg climbs, if_pos inside]
      constructor
      · intro same
        cases same
        exact ⟨climbs, inside, rfl⟩
      · rintro ⟨-, -, rfl⟩
        rfl
    · simp [climbs, inside]

theorem check_write_iff : policy.check_write path = .ok abs ↔ policy.resolve path = .ok abs ∧ policy.writable abs = true := by
  rw [WorkspacePolicy.check_write]
  cases resolution : policy.resolve path with
  | error error => simp
  | ok resolved =>
    by_cases writes : policy.writable resolved = true
    · have any := writes
      rw [WorkspacePolicy.writable] at any
      simp only [any, if_true, Except.ok.injEq]
      constructor
      · rintro rfl
        exact ⟨rfl, writes⟩
      · exact fun both => both.1
    · have none_fits := writes
      rw [WorkspacePolicy.writable] at none_fits
      simp only [none_fits, Bool.false_eq_true, if_false, Except.ok.injEq, reduceCtorEq, false_iff]
      rintro ⟨rfl, writes'⟩
      exact writes writes'

theorem check_iff {access : Access} : policy.check access path = .ok abs ↔
    .ParentDir ∉ components path ∧ policy.root <+: policy.candidate path ∧ abs = policy.candidate path ∧
      (access = .Write → policy.writable abs = true) := by
  cases access with
  | Read => simp [WorkspacePolicy.check, WorkspacePolicy.check_read, resolve_iff]
  | Write => simp [WorkspacePolicy.check, check_write_iff, resolve_iff, and_assoc]

/-- What a root comes to. -/
def root_names (root : String) : List String := follow [] (steps root)

theorem root_eq (root : String) : (WorkspacePolicy.new root).root = below (is_absolute root) (root_names root) :=
  normalize_components root

theorem root_plain (root : String) : ∀ name ∈ root_names root, Plain name := follow_plain (steps_step root) nofun

theorem candidate_eq (root : String) {path : String} (level : .ParentDir ∉ components path) :
    (WorkspacePolicy.new root).candidate path =
      if is_absolute path then below true (root_names path) else below (is_absolute root) (root_names root ++ root_names path) := by
  rw [WorkspacePolicy.candidate, root_eq, normalize_from]
  cases absolute : is_absolute path with
  | true => exact (normalize_components path).trans (by rw [absolute]; rfl)
  | false =>
    simp only [Bool.false_eq_true, if_false]
    rw [follow_of_no_parent (fun up => level ((parent_iff path).mpr up))]
    rfl

theorem level_display {absolute : Bool} {names : List String} (plain : ∀ name ∈ names, Plain name) :
    .ParentDir ∉ components (display (below absolute names)) := by
  rw [(components_display plain).2]
  cases absolute <;> simp [below, start]

/-- Names that are read again are the same names. -/
theorem names_display {absolute : Bool} {names : List String} (plain : ∀ name ∈ names, Plain name) :
    root_names (display (below absolute names)) = names := by
  obtain ⟨kept, same⟩ := @components_display absolute names plain
  have twice := normalize_components (display (below absolute names))
  rw [same, normalize_below, kept] at twice
  have injective : Function.Injective Component.Normal := fun _ _ same => by cases same; rfl
  exact (List.map_injective_iff.mpr injective (List.append_cancel_left twice)).symm

/-- A path of names, seen from a directory. -/
theorem names_from (dir : List String) {absolute : Bool} {names : List String} (plain : ∀ name ∈ names, Plain name) :
    normalize (below true dir ++ below absolute names) = if absolute then below true names else below true (dir ++ names) := by
  obtain ⟨kept, same⟩ := @components_display absolute names plain
  have seen := normalize_from true dir (display (below absolute names))
  have read := @names_display absolute names plain
  have level := @level_display absolute names plain
  rw [follow_of_no_parent (fun up => level ((parent_iff _).mpr up)) dir, kept, same] at seen
  rw [root_names] at read
  rw [seen, read]

theorem candidate_display (root : String) {absolute : Bool} {names : List String} (plain : ∀ name ∈ names, Plain name) :
    (WorkspacePolicy.new root).candidate (display (below absolute names)) =
      if absolute then below true names else below (is_absolute root) (root_names root ++ names) := by
  rw [candidate_eq root (level_display plain), (components_display plain).1, names_display plain]

theorem writable_extension (dotted : ∀ e ∈ policy.allowed_extensions, e ≠ "")
    (writes : policy.writable abs = true) : ∃ e, extension abs = some e ∧
      policy.allowed_extensions.any fun allowed => eq_ignore_ascii_case allowed ("." ++ e) := by
  rw [WorkspacePolicy.writable] at writes
  cases found : extension abs with
  | none =>
    rw [found] at writes
    obtain ⟨allowed, inside, same⟩ := List.any_eq_true.mp writes
    have empty : allowed = "" := by simpa [eq_ignore_ascii_case] using same
    exact absurd empty (dotted allowed inside)
  | some e =>
    rw [found] at writes
    exact ⟨e, rfl, writes⟩

/-! ### Where it lies -/

variable {root : String} {access : Access} {names : List String}

/-- The directory that a root names from another one. -/
theorem root_from (dir : List String) : normalize (below true dir ++ components root) =
    if is_absolute root then below true (root_names root) else below true (follow dir (steps root)) :=
  normalize_from true dir root

theorem dotted_extensions (root : String) : ∀ e ∈ (WorkspacePolicy.new root).allowed_extensions, e ≠ "" := by
  show ∀ e ∈ [".c", ".h", ".S", ".s", ".zig", ".rs"], e ≠ ""
  decide

theorem no_parent_below (absolute : Bool) (names : List String) : .ParentDir ∉ below absolute names := by
  cases absolute <;> simp [below, start]

/-- Under a root in an absolute text, what is let through lies inside it and is let through again. -/
theorem contained_of_absolute (absolute : is_absolute root = true) (plain : ∀ name ∈ names, Plain name)
    (inside : root_names root <+: names) (writes : access = .Write → (WorkspacePolicy.new root).writable (below true names) = true) :
    Contained root access (below true names) := by
  refine ⟨fun dir _ => ?_, no_parent_below true names, fun write => writable_extension (dotted_extensions root) (writes write), ?_⟩
  · rw [root_from, if_pos absolute, names_from dir plain, if_pos rfl, starts_below_iff]
    exact .inl ⟨rfl, inside⟩
  · refine check_iff.mpr ⟨level_display plain, ?_, ?_, writes⟩
    · rw [candidate_display root plain, if_pos rfl, root_eq, absolute, starts_below_iff]
      exact .inl ⟨rfl, inside⟩
    · rw [candidate_display root plain, if_pos rfl]

/-- Under a root that comes to nothing, a relative path is let through as it is. -/
theorem contained_of_nothing (relative : is_absolute root = false) (nothing : root_names root = [])
    (plain : ∀ name ∈ names, Plain name)
    (writes : access = .Write → (WorkspacePolicy.new root).writable (below false names) = true) :
    Contained root access (below false names) := by
  have same : (WorkspacePolicy.new root).candidate (display (below false names)) = below false names := by
    rw [candidate_display root plain, relative, nothing]
    rfl
  refine ⟨fun dir _ => ?_, no_parent_below false names, fun write => writable_extension (dotted_extensions root) (writes write), ?_⟩
  · obtain ⟨left, shorter, -, followed⟩ := follow_append (steps root) dir []
    have stays : follow dir (steps root) = left := by
      rw [List.append_nil] at followed
      rw [followed]
      exact (congrArg (left ++ ·) nothing).trans (List.append_nil left)
    rw [root_from, relative, names_from dir plain, stays]
    refine (starts_below_iff true true left (dir ++ names)).mpr (.inl ⟨rfl, ?_⟩)
    exact shorter.trans (List.prefix_append dir names)
  · refine check_iff.mpr ⟨level_display plain, ?_, same.symm, writes⟩
    rw [same, root_eq, relative, nothing]
    exact List.nil_prefix

/-- A relative path under a relative root that comes to something is put below the root again. -/
theorem not_again (relative : is_absolute root = false) (something : root_names root ≠ []) (plain : ∀ name ∈ names, Plain name) :
    (WorkspacePolicy.new root).check access (display (below false names)) ≠ .ok (below false names) := by
  intro again
  have same := (check_iff.mp again).2.2.1
  rw [candidate_display root plain, relative] at same
  have injective : Function.Injective Component.Normal := fun _ _ same => by cases same; rfl
  have lists := List.map_injective_iff.mpr injective (show names.map Component.Normal = _ from same)
  have lengths := congrArg List.length lists
  rw [List.length_append] at lengths
  exact something (List.length_eq_zero_iff.mp (by omega))

/-- An absolute path is not inside what a relative root names from a directory that is deep enough and elsewhere. -/
theorem not_inside (relative : is_absolute root = false) (plain : ∀ name ∈ names, Plain name) :
    ¬ LiesInside root (below true names) := by
  intro inside
  -- A name that the path does not start with, often enough that the root cannot climb above it.
  obtain ⟨other, good, apart⟩ : ∃ other, Plain other ∧ names.head? ≠ some other := by
    by_cases first : names.head? = some "v"
    · exact ⟨"w", by simp [Plain], by simp [first]⟩
    · exact ⟨"v", by simp [Plain], first⟩
  have deep := inside (List.replicate ((steps root).length + 1) other) fun name there => List.eq_of_mem_replicate there ▸ good
  obtain ⟨left, shorter, long, followed⟩ := follow_append (steps root) (List.replicate ((steps root).length + 1) other) []
  rw [List.append_nil] at followed
  rw [root_from, relative, names_from _ plain, followed] at deep
  simp only [Bool.false_eq_true, if_false, if_true, starts_below_iff, true_and, reduceCtorEq, false_and, or_false] at deep
  cases left with
  | nil =>
    rw [List.length_replicate, List.length_nil] at long
    omega
  | cons first rest =>
    have named : first = other :=
      List.eq_of_mem_replicate (shorter.subset List.mem_cons_self)
    obtain ⟨tail, same⟩ := deep
    exact apart (by rw [← same, named]; rfl)

/-- For every root text, every access and every path text: what is let through lies inside the directory that the text names,
    has no parent in it and, for a write, an allowed extension, and is let through again as it is, exactly where the root is
    named absolutely, the path is refused on its face, or it is relative exactly where the root comes to nothing. -/
theorem contained_iff (root : String) (access : Access) (path : String) :
    (∀ abs, (WorkspacePolicy.new root).check access path = .ok abs → Contained root access abs) ↔ Confined root access path := by
  have root_nothing : normalize (components root) = [] ↔ is_absolute root = false ∧ root_names root = [] := by
    rw [normalize_components]
    cases is_absolute root <;> simp [below, start, root_names]
  constructor
  · intro all
    by_contra loose
    rw [Confined, root_nothing] at loose
    simp only [not_or, not_and, Bool.not_eq_true, Bool.not_eq_false] at loose
    obtain ⟨relative, level, writes, differs⟩ := loose
    have candidate := candidate_eq root level
    have passes (inside : (WorkspacePolicy.new root).root <+: (WorkspacePolicy.new root).candidate path) :=
      all _ (check_iff.mpr ⟨level, inside, rfl, writes⟩)
    rw [candidate, relative, root_eq, relative] at passes
    by_cases nothing : root_names root = []
    · cases absolute : is_absolute path with
      | false => simp [nothing, relative, absolute] at differs
      | true =>
        simp only [absolute, if_true] at passes
        rw [starts_below_iff] at passes
        exact not_inside relative (root_plain path) (passes (.inr ⟨rfl, nothing⟩)).inside
    · cases absolute : is_absolute path with
      | true => simp [nothing, absolute] at differs
      | false =>
        simp only [absolute, Bool.false_eq_true, if_false] at passes
        have plain : ∀ name ∈ root_names root ++ root_names path, Plain name := fun name there =>
          (List.mem_append.mp there).elim (root_plain root name) (root_plain path name)
        rw [starts_below_iff] at passes
        exact not_again relative nothing plain (passes (.inl ⟨rfl, List.prefix_append _ _⟩)).again
  · rintro confined abs passed
    obtain ⟨level, inside, rfl, writes⟩ := check_iff.mp passed
    have both : ∀ name ∈ root_names root ++ root_names path, Plain name := fun name there =>
      (List.mem_append.mp there).elim (root_plain root name) (root_plain path name)
    have candidate := candidate_eq root level
    rw [candidate, root_eq] at inside
    cases named : is_absolute root with
    | true =>
      -- Both kinds of path end below the root of the file system.
      cases absolute : is_absolute path with
      | true =>
        rw [absolute, if_pos rfl] at candidate
        rw [candidate] at writes ⊢
        simp only [named, absolute, if_true, starts_below_iff, true_and, reduceCtorEq, false_and, or_false] at inside
        exact contained_of_absolute named (root_plain path) inside writes
      | false =>
        simp only [absolute, Bool.false_eq_true, if_false, named] at candidate
        rw [candidate] at writes ⊢
        exact contained_of_absolute named both (List.prefix_append _ _) writes
    | false =>
      rcases confined with absolute | up | ⟨write, unfit⟩ | fits
      · cases named.symm.trans absolute
      · exact absurd up level
      · rw [writes write] at unfit
        cases unfit
      · rw [root_nothing] at fits
        cases absolute : is_absolute path with
        | true =>
          simp only [named, absolute, if_true, starts_below_iff, reduceCtorEq, false_and, false_or, true_and] at inside
          cases absolute.symm.trans (fits.mp ⟨named, inside⟩)
        | false =>
          have nothing := (fits.mpr absolute).2
          simp only [absolute, Bool.false_eq_true, if_false, named, nothing, List.nil_append] at candidate
          rw [candidate] at writes ⊢
          exact contained_of_nothing named nothing (root_plain path) writes

/-- A worker started in its workspace with the root written as a dot lets a file anywhere be read. -/
theorem dot_root_reads_anywhere :
    (WorkspacePolicy.new ".").check .Read "/etc/passwd" = .ok [.RootDir, .Normal "etc", .Normal "passwd"] ∧
      ¬ LiesInside "." [.RootDir, .Normal "etc", .Normal "passwd"] := by
  refine ⟨by decide, fun inside => ?_⟩
  have seen := inside ["w"] (by simp [Plain])
  exact absurd seen (by decide)

end Riscdom.Agent
