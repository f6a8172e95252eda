import Bindery.Proofs.Package.VersionModules

/-!
# Type hints follow the nesting of labels

A label is taken apart in one way only: so many list labels around one that is none. The type hint has as many lists
around the type of the inner label, and what it mentions decides what is imported.
-/
namespace Bindery.TypeHint

open Bindery.Source (Expr Imports builtinTypes)

/-- A label with list labels around it, so many levels deep. -/
def nested : Nat → String → String
  | 0, core => core
  | depth + 1, core => "array<" ++ nested depth core ++ ">"

/-- A label that is not made from another one as a list label. -/
def IsCore (core : String) : Prop := ∀ element, core ≠ "array<" ++ element ++ ">"

/-- An expression with lists around it, so many levels deep. -/
def listsOf : Nat → Expr → Expr
  | 0, element => element
  | depth + 1, element => .item (.name "list") [listsOf depth element]

/-- The documented types that have a type hint, and its name. -/
def typeNames : List (String × String) :=
  [("string", "str"), ("integer", "int"), ("number", "float"), ("boolean", "bool"), ("object", "dict"),
    ("array", "list"), ("file", "Any")]

/-- The expression that a label gets for its type hint, if it gets one, and what has to be imported for it. -/
def hinted (label : Option String) : Option Expr × Imports :=
  ((ofLabel? label).map toExpr, ((ofLabel? label).map imports).getD {})

/-- What methods make of a label: the type hint of a parameter, with none added if it may be left out, and its
imports. -/
theorem hinted_argument (argument : Argument) :
    argument.parameter.hint = (hinted argument.type).1.map
        (fun hint => if argument.required then hint else .union hint .none) ∧
      argument.imports = (hinted argument.type).2 := by
  unfold hinted Argument.imports
  refine ⟨?_, rfl⟩
  rw [Option.map_map]
  rfl

/-! ### List labels -/

theorem elementLabel?_eq_some_iff {label element : List Char} :
    elementLabel? label = some element ↔ label = "array<".toList ++ element ++ ">".toList := by
  have opened : "array<".toList = ['a', 'r', 'r', 'a', 'y', '<'] := by decide
  constructor
  · intro found
    unfold elementLabel? at found
    split at found
    next rest =>
      split at found
      next closed =>
        injection found with same
        -- What is read is all between the opening and the closing bracket.
        obtain ⟨front, rfl⟩ := List.getLast?_eq_some_iff.mp closed
        rw [List.dropLast_concat] at same
        simp [same]
      · contradiction
    · contradiction
  · rintro rfl
    simp [elementLabel?, opened]

theorem wrapped_toList (element : String) :
    ("array<" ++ element ++ ">").toList = "array<".toList ++ element.toList ++ ">".toList := by
  rw [String.toList_append, String.toList_append]

theorem elementLabel?_wrapped (element : String) :
    elementLabel? ("array<" ++ element ++ ">").toList = some element.toList :=
  elementLabel?_eq_some_iff.mpr (wrapped_toList element)

theorem isCore_iff {core : String} : IsCore core ↔ elementLabel? core.toList = none := by
  constructor
  · intro isCore
    by_contra listed
    obtain ⟨element, found⟩ := Option.ne_none_iff_exists'.mp listed
    apply isCore (String.ofList element)
    apply String.toList_injective
    rw [elementLabel?_eq_some_iff.mp found, wrapped_toList, @String.toList_ofList element]
  · rintro none element rfl
    rw [elementLabel?_wrapped] at none
    cases none

theorem wrapped_injective {first second : String} (same : "array<" ++ first ++ ">" = "array<" ++ second ++ ">") :
    first = second := by
  have elements := elementLabel?_wrapped first
  rw [same, elementLabel?_wrapped] at elements
  exact String.toList_injective (Option.some.inj elements).symm

theorem length_wrapped (element : String) : ("array<" ++ element ++ ">").length = element.length + 7 := by
  have brackets : "array<".length = 6 ∧ ">".length = 1 := by decide
  rw [String.length_append, String.length_append, brackets.1, brackets.2]
  omega

/-! ### Nesting -/

/-- Every label has a nesting: its list labels are taken off until none is left, and each makes it shorter. -/
theorem exists_nesting (label : String) : ∃ depth core, label = nested depth core ∧ IsCore core := by
  by_cases isCore : IsCore label
  · exact ⟨0, label, rfl, isCore⟩
  · unfold IsCore at isCore
    push Not at isCore
    obtain ⟨element, same⟩ := isCore
    have shorter : element.length < label.length := by
      rw [same, length_wrapped]
      omega
    obtain ⟨depth, core, rfl, inner⟩ := exists_nesting element
    exact ⟨depth + 1, core, same, inner⟩
  termination_by label.length

theorem nesting_unique {depth other : Nat} {core inner : String} (isCore : IsCore core) (noList : IsCore inner)
    (same : nested depth core = nested other inner) : depth = other ∧ core = inner := by
  induction depth generalizing other with
  | zero =>
    cases other with
    | zero => exact ⟨rfl, same⟩
    -- A core is not in list brackets.
    | succ other => exact absurd same (isCore _)
  | succ depth ih =>
    cases other with
    | zero => exact absurd same.symm (noList _)
    | succ other =>
      obtain ⟨rfl, cores⟩ := ih (wrapped_injective same)
      exact ⟨rfl, cores⟩

/-! ### Type hints of labels -/

/-- A list label gets a list of what its element gets, and needs what that needs. What gets no type hint may be
anything, which has to be imported. -/
theorem hinted_wrapped (element : String) :
    hinted (some ("array<" ++ element ++ ">")) =
      match hinted (some element) with
      | (some inner, needed) => (some (.item (.name "list") [inner]), needed)
      | (none, _) => (some (.item (.name "list") [.name "Any"]), .single "typing" ["Any"]) := by
  -- A label in list brackets is read as a list, so the case without one is impossible.
  have list : ofLabel? (some ("array<" ++ element ++ ">")) =
      some (.listOf ((ofLabel? (some element)).getD .any)) := by
    rw [ofLabel?, Option.bind_some, ofChars?]
    split
    next inner found =>
      rw [elementLabel?_wrapped] at found
      cases found
      rfl
    next missing =>
      rw [elementLabel?_wrapped] at missing
      cases missing
  unfold hinted
  rw [list]
  cases ofLabel? (some element) with
  | none => rfl
  | some hint => rfl

theorem lookup_typeNames (core : String) :
    typeNames.lookup core = if core.toList = ['f', 'i', 'l', 'e'] then some "Any" else primitive? core.toList := by
  have reads (word : String) : (core == word) = decide (core.toList = word.toList) := by
    simp [String.toList_inj, beq_eq_decide]
  simp only [typeNames, List.lookup_cons, List.lookup_nil, reads]
  generalize core.toList = chars
  -- The table is gone through name by name, like the cases of the hint.
  symm
  split
  next same =>
    subst same
    decide
  · unfold primitive?
    split <;> simp_all

theorem hinted_core {core : String} (isCore : IsCore core) :
    (hinted (some core)).1 = (typeNames.lookup core).map Expr.name := by
  have alone : ofLabel? (some core) = if core.toList = ['f', 'i', 'l', 'e'] then some .any
      else (primitive? core.toList).map .builtin := by
    rw [ofLabel?, Option.bind_some, ofChars?]
    split
    next element found =>
      rw [isCore_iff.mp isCore] at found
      cases found
    · rfl
  rw [hinted, alone, lookup_typeNames]
  split
  · rfl
  · rw [Option.map_map]
    rfl

theorem hinted_nested {core : String} (isCore : IsCore core) (depth : Nat) :
    (hinted (some (nested depth core))).1 =
      if depth = 0 then (typeNames.lookup core).map Expr.name
      else some (listsOf depth (.name ((typeNames.lookup core).getD "Any"))) := by
  induction depth with
  | zero => exact hinted_core isCore
  | succ depth ih =>
    rw [nested, hinted_wrapped, if_neg (Nat.succ_ne_zero depth), listsOf]
    generalize hinted (some (nested depth core)) = inner at ih ⊢
    obtain ⟨hint, needed⟩ := inner
    simp only at ih
    subst ih
    -- Only at the bottom there may be no type hint to put into the list.
    cases depth with
    | zero => cases typeNames.lookup core <;> rfl
    | succ depth => rfl

/-! ### Imports of type hints -/

theorem mentionsAny_iff {hint : TypeHint} (known : hint.IsKnown) :
    hint.mentionsAny = true ↔ "Any" ∈ hint.toExpr.loads := by
  induction hint with
  | builtin name =>
    -- No built-in type has that name.
    have builtin : "Any" ≠ name := by
      rintro rfl
      revert known
      simp [IsKnown, builtinTypes]
    simp [mentionsAny, toExpr, builtin]
  | any => simp [mentionsAny, toExpr]
  | listOf element ih =>
    rw [toExpr, Source.loads_item, mentionsAny, ih known]
    simp

def namesOf (label : String) : List String := (hinted (some label)).1.toList.flatMap Expr.loads

theorem hinted_names (label : String) :
    (∀ name ∈ namesOf label, name ∈ builtinTypes ∨ name = "Any") ∧
      (hinted (some label)).2 = if "Any" ∈ namesOf label then .single "typing" ["Any"] else {} := by
  unfold namesOf hinted
  cases read : ofLabel? (some label) with
  | none => simp
  | some hint =>
    have known : hint.IsKnown := ofChars?_known label.toList hint read
    have any := mentionsAny_iff known
    simp only [Option.map_some, Option.toList_some, List.flatMap_singleton, Option.getD_some]
    refine ⟨loads_toExpr known, ?_⟩
    rw [imports]
    exact if_congr any rfl rfl

/-- A label has one nesting. Its type hint has as many lists around the type of the inner label, where what has no type
may be anything; without a list around it there is then no type hint. No other names are in it, and the type of anything
is imported just if it is one of them. -/
theorem hinted_follows_nesting (label : String) : ∃ depth core,
    (∀ levels inner, label = nested levels inner ∧ IsCore inner ↔ levels = depth ∧ inner = core) ∧
      (hinted (some label)).1 =
        (if depth = 0 then (typeNames.lookup core).map Expr.name
          else some (listsOf depth (.name ((typeNames.lookup core).getD "Any")))) ∧
      (∀ name ∈ namesOf label, name ∈ ["str", "int", "float", "bool", "dict", "list", "Any"]) ∧
      (hinted (some label)).2 = if "Any" ∈ namesOf label then ⟨[("typing", ["Any"])]⟩ else ⟨[]⟩ := by
  obtain ⟨names, needed⟩ := hinted_names label
  obtain ⟨depth, core, rfl, isCore⟩ := exists_nesting label
  refine ⟨depth, core, ?_, hinted_nested isCore depth, ?_, needed⟩
  · intro levels inner
    constructor
    · rintro ⟨same, noList⟩
      exact nesting_unique noList isCore same.symm
    · rintro ⟨rfl, rfl⟩
      exact ⟨rfl, isCore⟩
  · intro name member
    rcases names name member with builtin | rfl
    · exact List.mem_append_left ["Any"] builtin
    · simp

/-- A list of lists of nothing is one of lists of anything. -/
example : (hinted (some "array<array<>>")).1 = some (listsOf 2 (.name "Any")) := by cbv

end Bindery.TypeHint
