import Mathlib.Data.List.Induction
import Riscdom.Policy

/-!
Paths in their text alone. A path is the root or nothing, and steps from there:
names, current directories and parents. What its steps lead to is a list of
names, below the root or not; read again from its text it is the same. Paths are POSIX
ones.
-/
namespace Riscdom.Agent

/-- A part that stands for a name in every path. -/
def Plain (name : String) : Prop := name ≠ "" ∧ name ≠ "." ∧ name ≠ ".." ∧ '/' ∉ name.toList

/-- What may follow the start of a path. -/
def Step : Component → Prop
  | .RootDir => False
  | .Normal name => Plain name
  | _ => True

def start (absolute : Bool) : List Component := if absolute then [.RootDir] else []

/-- Names below the root, or below the working directory. -/
def below (absolute : Bool) (names : List String) : List Component := start absolute ++ names.map .Normal

/-- The names that are left when a step is taken. -/
def enter (names : List String) : Component → List String
  | .ParentDir => names.dropLast
  | .Normal name => names ++ [name]
  | _ => names

def follow (names : List String) (steps : List Component) : List String := steps.foldl enter names

/-- The steps of a path after its start. -/
def steps (path : String) : List Component := if is_absolute path then (components path).tail else components path

/-! ### The parts of a text -/

theorem no_separator_inside (separator : Char) (text part : List Char) (inside : part ∈ text.splitOn separator) :
    separator ∉ part := by
  induction text generalizing part with
  | nil =>
    rw [List.splitOn_nil, List.mem_singleton] at inside
    simp [inside]
  | cons c text ih =>
    rw [List.splitOn_cons_eq_if_modifyHead] at inside
    by_cases same : (c == separator) = true
    · rw [if_pos same] at inside
      rcases List.mem_cons.mp inside with rfl | later
      · simp
      · exact ih part later
    · rw [if_neg same] at inside
      cases rest : text.splitOn separator with
      | nil => exact absurd rest (List.splitOn_ne_nil _ _)
      | cons first others =>
        rw [rest, List.modifyHead_cons] at inside
        rcases List.mem_cons.mp inside with rfl | later
        · intro found
          rcases List.mem_cons.mp found with rfl | found
          · simp at same
          · exact ih first (by simp [rest]) found
        · exact ih part (by simp [rest, later])

theorem of_part_step {part : List Char} {c : Component} (single : '/' ∉ part) (found : Component.of_part part = some c) :
    Step c ∧ c ≠ .CurDir := by
  rw [Component.of_part] at found
  by_cases nothing : part = [] ∨ part = ['.']
  · rw [if_pos nothing] at found
    cases found
  · rw [if_neg nothing] at found
    by_cases parent : part = ['.', '.']
    · rw [if_pos parent] at found
      cases found
      exact ⟨trivial, by simp⟩
    · rw [if_neg parent] at found
      cases found
      obtain ⟨empty, dot⟩ := not_or.mp nothing
      refine ⟨⟨?_, ?_, ?_, by simpa using single⟩, by simp⟩
      · exact fun same => empty (by simpa using congrArg String.toList same)
      · exact fun same => dot (by simpa using congrArg String.toList same)
      · exact fun same => parent (by simpa using congrArg String.toList same)

/-- A path is its start and its steps. -/
theorem components_eq (path : String) : components path = start (is_absolute path) ++ steps path := by
  by_cases absolute : is_absolute path = true
  · simp [steps, start, components, absolute]
  · simp [steps, start, absolute]

theorem steps_step (path : String) : ∀ c ∈ steps path, Step c := by
  have parts : ∀ c ∈ (path.toList.splitOn '/').filterMap Component.of_part, Step c := by
    intro c inside
    obtain ⟨part, there, found⟩ := List.mem_filterMap.mp inside
    exact (of_part_step (no_separator_inside '/' _ part there) found).1
  intro c inside
  by_cases absolute : is_absolute path = true
  · simp only [steps, components, absolute, if_true, List.cons_append, List.nil_append, List.tail_cons] at inside
    exact parts c inside
  · simp only [steps, components, absolute, Bool.false_eq_true, if_false] at inside
    rcases List.mem_append.mp inside with first | later
    · split_ifs at first
      · rw [List.mem_singleton.mp first]
        trivial
      · cases first
    · exact parts c later

theorem parent_iff (path : String) : .ParentDir ∈ components path ↔ .ParentDir ∈ steps path := by
  rw [components_eq]
  cases is_absolute path <;> simp [start]

/-! ### Where steps lead -/

theorem pop_below (absolute : Bool) (names : List String) : pop (below absolute names) = below absolute names.dropLast := by
  cases names using List.reverseRecOn with
  | nil => cases absolute <;> rfl
  | append_singleton names name => simp [below, pop, ← List.append_assoc]

theorem push_below {c : Component} (step : Step c) (absolute : Bool) (names : List String) :
    push (below absolute names) c = below absolute (enter names c) := by
  cases c with
  | RootDir => cases step
  | CurDir => rfl
  | ParentDir => exact pop_below absolute names
  | Normal name => simp [push, enter, below]

theorem foldl_push_below {tail : List Component} (all : ∀ c ∈ tail, Step c) (absolute : Bool) (names : List String) :
    tail.foldl push (below absolute names) = below absolute (follow names tail) := by
  induction tail generalizing names with
  | nil => rfl
  | cons c tail ih =>
    obtain ⟨step, rest⟩ := List.forall_mem_cons.mp all
    rw [List.foldl_cons, push_below step, ih rest]
    rfl

/-- Names that steps are taken from below others: these are left as far as the steps climb above them. -/
theorem follow_append (tail : List Component) (above names : List String) :
    ∃ left, left <+: above ∧ above.length ≤ left.length + tail.length ∧
      follow (above ++ names) tail = left ++ follow names tail := by
  induction tail generalizing above names with
  | nil => exact ⟨above, List.prefix_rfl, by simp, rfl⟩
  | cons c tail ih =>
    have next : ∃ above' names', above' <+: above ∧ above.length ≤ above'.length + 1 ∧
        enter (above ++ names) c = above' ++ enter names' c ∧ enter names' c = enter names c := by
      cases c with
      | ParentDir =>
        cases names using List.reverseRecOn with
        | nil => exact ⟨above.dropLast, [], List.dropLast_prefix above, by simp; omega, by simp [enter], rfl⟩
        | append_singleton names name =>
          exact ⟨above, names ++ [name], List.prefix_rfl, by omega, by simp [enter, ← List.append_assoc], rfl⟩
      | _ => exact ⟨above, names, List.prefix_rfl, by omega, by simp [enter], rfl⟩
    obtain ⟨above', names', shorter, close, entered, same⟩ := next
    obtain ⟨left, inside, long, followed⟩ := ih above' (enter names c)
    refine ⟨left, inside.trans shorter, by simp only [List.length_cons]; omega, ?_⟩
    show follow (enter (above ++ names) c) tail = left ++ follow (enter names c) tail
    rw [entered, same, followed]

/-- Without a parent among the steps, the names of the steps are put below. -/
theorem follow_of_no_parent {tail : List Component} (none_up : .ParentDir ∉ tail) (names : List String) :
    follow names tail = names ++ follow [] tail := by
  induction tail generalizing names with
  | nil => simp [follow]
  | cons c tail ih =>
    obtain ⟨not_up, rest⟩ := not_or.mp (mt List.mem_cons.mpr none_up)
    have entered : enter names c = names ++ enter [] c := by
      cases c with
      | ParentDir => exact absurd rfl not_up
      | _ => simp [enter]
    show follow (enter names c) tail = names ++ follow (enter [] c) tail
    rw [ih rest, entered, ih rest (enter [] c), List.append_assoc]

theorem follow_plain {tail : List Component} (all : ∀ c ∈ tail, Step c) {names : List String}
    (plain : ∀ name ∈ names, Plain name) : ∀ name ∈ follow names tail, Plain name := by
  induction tail generalizing names with
  | nil => exact plain
  | cons c tail ih =>
    obtain ⟨step, rest⟩ := List.forall_mem_cons.mp all
    refine ih rest fun name inside => ?_
    cases c with
    | RootDir => cases step
    | CurDir => exact plain name inside
    | ParentDir => exact plain name (List.dropLast_subset names inside)
    | Normal last =>
      rcases List.mem_append.mp inside with old | new
      · exact plain name old
      · rw [List.mem_singleton.mp new]
        exact step

/-- What a path's text leads to, on its own and from a directory. -/
theorem normalize_components (path : String) : normalize (components path) = below (is_absolute path) (follow [] (steps path)) := by
  rw [components_eq, normalize, List.foldl_append]
  cases is_absolute path with
  | false => exact foldl_push_below (steps_step path) false []
  | true => exact foldl_push_below (steps_step path) true []

theorem normalize_below (absolute : Bool) (names : List String) : normalize (below absolute names) = below absolute names := by
  have pushed : (names.map .Normal).foldl push (start absolute) = below absolute names := by
    induction names using List.reverseRecOn with
    | nil => cases absolute <;> rfl
    | append_singleton names name ih =>
      rw [List.map_append, List.foldl_append, ih]
      simp [push, below]
  rw [normalize, below, List.foldl_append]
  cases absolute with
  | false => exact pushed
  | true => exact pushed

theorem normalize_from (absolute : Bool) (names : List String) (path : String) :
    normalize (below absolute names ++ components path) =
      if is_absolute path then below true (follow [] (steps path)) else below absolute (follow names (steps path)) := by
  rw [normalize, List.foldl_append]
  show (components path).foldl push (normalize (below absolute names)) = _
  rw [normalize_below, components_eq, List.foldl_append]
  cases is_absolute path with
  | false => exact foldl_push_below (steps_step path) absolute names
  | true => exact foldl_push_below (steps_step path) true []

theorem starts_below_iff (a b : Bool) (names others : List String) :
    below a names <+: below b others ↔ (a = b ∧ names <+: others) ∨ (a = false ∧ names = []) := by
  have injective : Function.Injective Component.Normal := fun _ _ same => by cases same; rfl
  cases a with
  | false =>
    cases b with
    | false =>
      simp only [below, start, Bool.false_eq_true, if_false, List.nil_append, List.prefix_map_iff_of_injective injective,
        true_and]
      exact ⟨.inl, fun either => either.elim id fun none_left => none_left ▸ List.nil_prefix⟩
    | true => cases names <;> simp [below, start]
  | true =>
    cases b with
    | false => cases others <;> simp [below, start]
    | true => simp [below, start, List.prefix_map_iff_of_injective injective]

/-! ### A path read again from its text -/

theorem of_part_plain {name : String} (plain : Plain name) : Component.of_part name.toList = some (.Normal name) := by
  obtain ⟨empty, dot, dots, -⟩ := plain
  have text (s : String) (other : name ≠ s) : name.toList ≠ s.toList := fun same => other (String.toList_inj.mp same)
  have named : ¬ (name.toList = [] ∨ name.toList = ['.']) := not_or.mpr ⟨text "" empty, text "." dot⟩
  have no_parent : name.toList ≠ ['.', '.'] := text ".." dots
  rw [Component.of_part, if_neg named, if_neg no_parent, String.ofList_toList]

theorem filterMap_plain {names : List String} (plain : ∀ name ∈ names, Plain name) :
    (names.map String.toList).filterMap Component.of_part = names.map .Normal := by
  induction names with
  | nil => rfl
  | cons name rest ih =>
    obtain ⟨here, later⟩ := List.forall_mem_cons.mp plain
    rw [List.map_cons, List.filterMap_cons, of_part_plain here, ih later]
    rfl

theorem splitOn_display {texts : List String} (some_text : texts ≠ []) (single : ∀ text ∈ texts, '/' ∉ text.toList) :
    ("/".intercalate texts).toList.splitOn '/' = texts.map String.toList := by
  have separator : "/".toList = ['/'] := rfl
  rw [String.toList_intercalate, separator]
  refine List.splitOn_intercalate '/' ?_ (by simpa using some_text)
  intro part inside
  obtain ⟨text, there, rfl⟩ := List.mem_map.mp inside
  exact single text there

theorem display_names (names : List String) : (names.map .Normal).map Component.display = names := by
  rw [List.map_map]
  exact List.map_id names

theorem components_display {absolute : Bool} {names : List String} (plain : ∀ name ∈ names, Plain name) :
    is_absolute (display (below absolute names)) = absolute ∧ components (display (below absolute names)) = below absolute names := by
  have single : ∀ name ∈ names, '/' ∉ name.toList := fun name inside => (plain name inside).2.2.2
  cases absolute with
  | true =>
    cases names with
    | nil => decide
    | cons first rest =>
      have text : display (below true (first :: rest)) = "/".intercalate ("" :: first :: rest) := by
        have shown := display_names (first :: rest)
        rw [display, if_neg (by simp [below, start])]
        simp only [below, start, if_true, List.cons_append, List.nil_append, List.map_cons, Component.display] at shown ⊢
        rw [shown]
      have split := @splitOn_display ("" :: first :: rest) (by simp) (by simpa using single)
      have absolute : is_absolute ("/".intercalate ("" :: first :: rest)) = true := by
        simp [is_absolute, String.toList_intercalate, List.intercalate]
      rw [text, components, split, absolute]
      refine ⟨rfl, ?_⟩
      rw [List.map_cons, List.filterMap_cons, filterMap_plain plain]
      rfl
  | false =>
    cases names with
    | nil => decide
    | cons first rest =>
      obtain ⟨empty, dot, dots, slash⟩ := plain first List.mem_cons_self
      have text : display (below false (first :: rest)) = "/".intercalate (first :: rest) := by
        rw [display, if_neg (by simp [below, start])]
        exact congrArg _ (display_names (first :: rest))
      have split := @splitOn_display (first :: rest) (by simp) single
      have relative : is_absolute ("/".intercalate (first :: rest)) = false := by
        cases chars : ("/".intercalate (first :: rest)).toList with
        | nil => simp [is_absolute, chars]
        | cons c others =>
          rw [chars, List.splitOn_cons_eq_if_modifyHead] at split
          have apart : c ≠ '/' := by
            rintro rfl
            rw [if_pos (by decide), List.map_cons] at split
            exact empty (String.toList_inj.mp (List.cons.inj split).1.symm)
          simpa [is_absolute, chars] using apart
      have named : first.toList ≠ ['.'] := fun same => dot (String.toList_inj.mp same)
      rw [text, components, split, relative]
      refine ⟨rfl, ?_⟩
      rw [filterMap_plain plain]
      simp [below, start, named]

/-- A plain name is a path of its own. -/
theorem plain_components {name : String} (plain : Plain name) : is_absolute name = false ∧ components name = [.Normal name] := by
  have named : ∀ other ∈ [name], Plain other := fun other inside => List.mem_singleton.mp inside ▸ plain
  have shown : display (below false [name]) = name := by
    rw [display, if_neg (by simp [below, start])]
    exact @String.intercalate_singleton "/" name
  have read := @components_display false [name] named
  rw [shown] at read
  exact read

end Riscdom.Agent
