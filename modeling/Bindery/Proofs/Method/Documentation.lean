import Bindery.Proofs.Method.Compilation
import Bindery.Proofs.Text.Joined

/-!
# Documentation has a line for each argument

Summary and descriptions are put on one line before they are written. Types and allowed values are written as they are
documented, so a line break in one of them breaks the line of its argument; nothing else does.
-/
namespace Bindery

open Bindery.Schema (Definitions Operation)

def linesOf (text : String) : List String := (text.split '\n').toList.map (·.copy)

def breaks (text : String) : Nat := text.toList.count '\n'

theorem breaks_append (first second : String) : breaks (first ++ second) = breaks first + breaks second := by
  rw [breaks, String.toList_append, List.count_append]
  rfl

theorem breaks_eq_zero {text : String} : breaks text = 0 ↔ '\n' ∉ text.toList := List.count_eq_zero

theorem length_linesOf (text : String) : (linesOf text).length = breaks text + 1 := by
  -- Each break starts another line, and any other character goes on with the first one.
  have count (chars : List Char) : (chars.splitOn '\n').length = chars.count '\n' + 1 := by
    induction chars with
    | nil => rfl
    | cons c rest ih =>
      rw [List.splitOn_cons_eq_if_modifyHead]
      split
      next broken => simp_all
      next other => simp_all
  rw [linesOf, String.toList_split_char, List.length_map]
  exact count text.toList

/-- Lines without breaks can be told apart in the text that they are put into. -/
theorem linesOf_intercalate {lines : List String} (some : lines ≠ []) (whole : ∀ line ∈ lines, breaks line = 0) :
    linesOf (String.intercalate "\n" lines) = lines := by
  have split := @String.toList_split_intercalate '\n' lines fun line member => breaks_eq_zero.mp (whole line member)
  rw [if_neg some] at split
  exact split

theorem breaks_intercalate (separator : String) (pieces : List String) :
    breaks (String.intercalate separator pieces) =
      (pieces.map breaks).sum + (pieces.length - 1) * breaks separator := count_joined ..

/-- Lines that are put into one text lead to as many lines, and one more for each break in them. -/
theorem length_linesOf_joined {lines : List String} (some : lines ≠ []) :
    (linesOf (String.intercalate "\n" lines)).length = lines.length + (lines.map breaks).sum := by
  have between : breaks "\n" = 1 := by decide
  have filled := List.length_pos_iff.mpr some
  rw [length_linesOf, breaks_intercalate, between]
  omega

/-! ### Texts on one line -/

theorem words_noBlank {s word : List Char} (member : word ∈ Text.words s) : ∀ c ∈ word, Text.isBlank c = false := by
  -- A character without a blank starts a word or is put on the first of the later words. Blanks go into none.
  fun_induction Text.words s generalizing word with
  | case1 => cases member
  | case2 c rest blank ih => exact ih member
  | case3 c inked =>
    obtain rfl := List.mem_singleton.mp member
    simpa using inked
  | case4 c inked next rest blank ih =>
    rcases List.mem_cons.mp member with rfl | later
    · simpa using inked
    · exact ih later
  | case5 c inked next rest _ none ih =>
    rw [none] at member
    obtain rfl := List.mem_singleton.mp member
    simpa using inked
  | case6 c inked next rest _ first others some ih =>
    rw [some] at member
    rcases List.mem_cons.mp member with rfl | later
    · exact List.forall_mem_cons.mpr ⟨by simpa using inked, ih (some ▸ List.mem_cons_self ..)⟩
    · exact ih (some ▸ List.mem_cons_of_mem _ later)

theorem breaks_oneLine (text : String) : breaks (Text.oneLine text) = 0 := by
  -- A line break is a blank, so it stays in no word, and the words are joined by spaces.
  have whole : ((Text.words text.toList).map (·.count '\n')).sum = 0 := by
    rw [List.sum_eq_zero_iff_forall_eq_nat, List.forall_mem_map]
    intro word member
    rw [List.count_eq_zero]
    intro broken
    have blank := words_noBlank member _ broken
    cases blank
  rw [breaks, Text.oneLine, String.toList_ofList, count_intercalate, whole]
  simp

/-! ### The line of an argument -/

namespace Argument

variable (argument : Argument)

/-- The name as documentation shows it: in brackets if the argument may be left out. -/
def shownName : String := if argument.required then argument.name else "[" ++ argument.name ++ "]"

/-- What documentation says of the values: the ones that are allowed, or else their type. -/
def kind : String :=
  match argument.choices with
  | none | some [] => (Schema.nonEmpty? argument.type).getD "any"
  | some values => String.intercalate "|" values

/-- No line break is in what documentation says of the values. -/
def IsUnbroken : Prop :=
  match argument.choices with
  | none | some [] => ∀ type ∈ argument.type, '\n' ∉ type.toList
  | some values => ∀ value ∈ values, '\n' ∉ value.toList

theorem argumentLine_eq : argumentLine argument =
    "    " ++ argument.shownName ++ " (" ++ argument.kind ++ ")" ++
      Failure.clause (some argument.description) (": " ++ ·) := rfl

theorem breaks_kind : breaks argument.kind = 0 ↔ argument.IsUnbroken := by
  -- An empty type is shown as none at all.
  have typed : breaks ((Schema.nonEmpty? argument.type).getD "any") = 0 ↔
      ∀ type ∈ argument.type, '\n' ∉ type.toList := by
    cases argument.type with
    | none => simp [Schema.nonEmpty?, breaks]
    | some type =>
      by_cases empty : type = "" <;>
        simp [Schema.nonEmpty?, Option.filter, empty, breaks, List.count_eq_zero]
  unfold kind IsUnbroken
  split
  · exact typed
  · exact typed
  · -- Values are joined by a bar, which is no break.
    exact breaks_eq_zero.trans (notMem_joined_iff (by decide))

theorem breaks_name (plain : IsPlain argument.name) : breaks argument.shownName = 0 := by
  have name : breaks argument.name = 0 := by
    rw [breaks_eq_zero]
    intro broken
    -- A name has word characters only, and a break is none.
    have word := plain.word _ broken
    cases word
  have brackets : breaks "[" = 0 ∧ breaks "]" = 0 := by decide
  unfold shownName
  split
  · exact name
  · simp only [breaks_append, name, brackets]

/-- Only what is said of the values can break the line of an argument. -/
theorem breaks_argumentLine (plain : IsPlain argument.name) (whole : breaks argument.description = 0) :
    breaks (argumentLine argument) = breaks argument.kind := by
  have literals : breaks "    " = 0 ∧ breaks " (" = 0 ∧ breaks ")" = 0 ∧ breaks ": " = 0 := by decide
  have described : breaks (Failure.clause (some argument.description) (": " ++ ·)) = 0 := by
    unfold Failure.clause
    simp only
    split
    · rfl
    · simp only [breaks_append, whole, literals]
  rw [argumentLine_eq]
  simp only [breaks_append, argument.breaks_name plain, described, literals, Nat.zero_add, Nat.add_zero]

theorem sum_breaks_kind {arguments : List Argument} :
    (arguments.map fun argument => breaks argument.kind).sum = 0 ↔
      ∀ argument ∈ arguments, argument.IsUnbroken := by
  simp only [List.sum_eq_zero_iff_forall_eq_nat, List.forall_mem_map, breaks_kind]

end Argument

/-- The line of an argument shows its name after four blanks, in brackets if it may be left out, and then in parentheses
its type or the values that are allowed. -/
structure IsLineOf (argument : Argument) (line : String) : Prop where
  starts : ("    " ++ argument.shownName ++ " (" ++ argument.kind ++ ")").toList <+: line.toList
  bracketed : "    [".toList <+: line.toList ↔ argument.required = false

theorem argumentLine_isLineOf {argument : Argument} (plain : IsPlain argument.name) :
    IsLineOf argument (argumentLine argument) := by
  have starts : ("    " ++ argument.shownName ++ " (" ++ argument.kind ++ ")").toList <+: (argumentLine argument).toList := by
    rw [argument.argumentLine_eq]
    exact ⟨_, (String.toList_append ..).symm⟩
  refine ⟨starts, ?_⟩
  obtain ⟨c, rest, chars, word, -, -⟩ := isPlain_iff.mp plain
  -- A bracket after the blanks is not the name's, which has word characters only.
  have noBracket : c ≠ '[' := by
    rintro rfl
    cases word
  rw [argument.argumentLine_eq, Argument.shownName]
  cases argument.required <;> simp [chars, noBracket.symm, List.cons_prefix_cons]

/-! ### Documentation -/

def plannedLines (deprecated : Bool) (arguments : Nat) : Nat :=
  1 + (if deprecated then 2 else 0) + (if arguments = 0 then 0 else 2 + arguments)

/-- A summary that is not empty, a mark if the method is deprecated, and a line for each argument. -/
structure HasLinePerArgument (lines : List String) (deprecated : Bool) (arguments : List Argument) : Prop where
  count : lines.length = plannedLines deprecated arguments.length
  summary : ∃ first rest, lines = first :: rest ∧ first ≠ ""
  each : List.Forall₂ IsLineOf arguments (lines.drop (lines.length - arguments.length))

section Lines

variable (summary : Option String) (deprecated : Bool) {arguments : List Argument}

/-- The lines of the arguments come last, and no line in front of them is broken. -/
theorem documentationLines_front (arguments : List Argument) :
    ∃ front, documentationLines summary deprecated arguments = front ++ arguments.map argumentLine ∧
      ∀ line ∈ front, breaks line = 0 := by
  have first : breaks (if (summaryLine summary).isEmpty then "No description" else summaryLine summary) = 0 := by
    split
    · decide
    · exact breaks_oneLine _
  have mark : ∀ line ∈ if deprecated then ["", "Deprecated."] else [], breaks line = 0 := by
    cases deprecated <;> decide
  have title : ∀ line ∈ ["", "Args:"], breaks line = 0 := by decide
  have start := List.forall_mem_cons (p := fun line => breaks line = 0).mpr ⟨first, mark⟩
  cases arguments with
  | nil => exact ⟨_, rfl, start⟩
  | cons argument rest =>
    refine ⟨_ ++ ["", "Args:"], (List.append_assoc _ ["", "Args:"] _).symm, ?_⟩
    exact List.forall_mem_append.mpr ⟨start, title⟩

theorem documentationLines_hasLinePerArgument (plain : ∀ argument ∈ arguments, IsPlain argument.name) :
    HasLinePerArgument (documentationLines summary deprecated arguments) deprecated arguments where
  count := by
    unfold documentationLines plannedLines
    cases deprecated <;> cases arguments <;> simp <;> omega
  summary := by
    refine ⟨_, _, rfl, ?_⟩
    split
    · decide
    next filled => simpa using filled
  each := by
    obtain ⟨front, lines, -⟩ := documentationLines_front summary deprecated arguments
    have last : (front ++ arguments.map argumentLine).length - arguments.length = front.length := by simp
    rw [lines, last, List.drop_left, List.forall₂_map_right_iff, List.forall₂_same]
    intro argument member
    exact argumentLine_isLineOf (plain argument member)

theorem breaks_documentationLines (plain : ∀ argument ∈ arguments, IsPlain argument.name)
    (whole : ∀ argument ∈ arguments, breaks argument.description = 0) :
    ((documentationLines summary deprecated arguments).map breaks).sum =
      (arguments.map fun argument => breaks argument.kind).sum := by
  obtain ⟨front, lines, unbroken⟩ := documentationLines_front summary deprecated arguments
  -- Only the lines of arguments can have breaks.
  have none : (front.map breaks).sum = 0 := by
    rw [List.sum_eq_zero_iff_forall_eq_nat, List.forall_mem_map]
    exact unbroken
  have each : arguments.map (breaks ∘ argumentLine) = arguments.map fun argument => breaks argument.kind := by
    apply List.map_congr_left
    intro argument member
    exact argument.breaks_argumentLine (plain argument member) (whole argument member)
  rw [lines, List.map_append, List.sum_append, none, Nat.zero_add, List.map_map, each]

theorem documentationLines_ne_nil (arguments : List Argument) :
    documentationLines summary deprecated arguments ≠ [] := List.cons_ne_nil _ _

theorem length_documentation (plain : ∀ argument ∈ arguments, IsPlain argument.name)
    (whole : ∀ argument ∈ arguments, breaks argument.description = 0) :
    (linesOf (String.intercalate "\n" (documentationLines summary deprecated arguments))).length =
      plannedLines deprecated arguments.length + (arguments.map fun argument => breaks argument.kind).sum := by
  rw [length_linesOf_joined (documentationLines_ne_nil summary deprecated arguments),
    (documentationLines_hasLinePerArgument summary deprecated plain).count,
    breaks_documentationLines summary deprecated plain whole]

/-- Without any breaks, the lines of the text are those that it is made of. -/
theorem documentation_hasLinePerArgument (plain : ∀ argument ∈ arguments, IsPlain argument.name)
    (whole : ∀ argument ∈ arguments, breaks argument.description = 0)
    (unbroken : ∀ argument ∈ arguments, argument.IsUnbroken) :
    HasLinePerArgument (linesOf (String.intercalate "\n" (documentationLines summary deprecated arguments)))
      deprecated arguments := by
  have none := breaks_documentationLines summary deprecated plain whole
  rw [Argument.sum_breaks_kind.mpr unbroken, List.sum_eq_zero_iff_forall_eq_nat, List.forall_mem_map] at none
  rw [linesOf_intercalate (documentationLines_ne_nil summary deprecated arguments) none]
  exact documentationLines_hasLinePerArgument summary deprecated plain

end Lines

/-! ### Documentation of operations -/

section Operations

variable {path : String} {operation : Operation} {definitions : Definitions}

/-- Whatever an argument is made from, its description is put on one line. -/
theorem breaks_description {argument : Argument}
    (member : argument ∈ (buildArguments path operation definitions).value.arguments) :
    breaks argument.description = 0 := by
  have made : argument.description ∈ (buildArguments path operation definitions).value.arguments.map (·.description) :=
    List.mem_map_of_mem member
  rw [buildArguments_value] at made
  -- Properties and parameters differ in where their description is found.
  have clean {α : Type} (of : α → Option String) (items : List α)
      (among : argument.description ∈ items.map fun item => summaryLine (of item)) :
      breaks argument.description = 0 := by
    obtain ⟨item, -, same⟩ := List.mem_map.mp among
    exact same ▸ breaks_oneLine _
  split at made
  next parameter properties _ =>
    simp only [propertyArguments_value] at made
    rw [map_zipWith_item (fun property => summaryLine (resolve definitions (some property.2)).value.description)
      (fun _ _ => rfl) (by simp [propertyNames])] at made
    exact clean _ _ made
  next =>
    simp only [parameterArguments_value] at made
    rw [map_zipWith_item (fun parameter => summaryLine parameter.description) (fun _ _ => rfl)
      (by simp [parameterNames])] at made
    exact clean _ _ made

variable {name verb base : String} {method : Noted Method}
  (compiled : compileOperation name verb base path operation definitions = .ok method)
include compiled

theorem compileOperation_documentation : method.value.documentation =
    String.intercalate "\n" (documentationLines operation.summary operation.deprecated method.value.arguments) := by
  simp only [compileOperation] at compiled
  split at compiled
  · cases compiled
  · cases compiled
    rfl

/-- A method's documentation has the planned lines, and one more for each break in what is said of the values of an
argument. So each argument has a line just if there are no such breaks. -/
theorem compileOperation_linePerArgument_iff :
    (linesOf method.value.documentation).length =
        plannedLines operation.deprecated method.value.arguments.length +
          (method.value.arguments.map fun argument => breaks argument.kind).sum ∧
      (HasLinePerArgument (linesOf method.value.documentation) operation.deprecated method.value.arguments ↔
        ∀ argument ∈ method.value.arguments, argument.IsUnbroken) := by
  obtain ⟨-, -, -, -, arguments, -⟩ := compileOperation_eq_ok compiled
  have plain : ∀ argument ∈ method.value.arguments, IsPlain argument.name := by
    intro argument member
    exact argumentNames_isPlain (arguments ▸ member)
  have whole : ∀ argument ∈ method.value.arguments, breaks argument.description = 0 := by
    intro argument member
    exact breaks_description (arguments ▸ member)
  rw [compileOperation_documentation compiled]
  have count := length_documentation operation.summary operation.deprecated plain whole
  refine ⟨count, ?_⟩
  constructor
  · intro each
    -- No line is over, so there are no breaks.
    have planned := each.count
    rw [count, Nat.add_eq_left] at planned
    exact Argument.sum_breaks_kind.mp planned
  · intro unbroken
    exact documentation_hasLinePerArgument operation.summary operation.deprecated plain whole unbroken

end Operations

/-- A deprecated operation with a parameter that must be given, and one for which two values are allowed. -/
def sortedOperation : Operation where
  summary := some "List\nitems"
  deprecated := true
  parameters := [{ name := "sort", place := some "query", enum := some [.text "up", .text "down"] },
    { name := "shop-id", place := some "query", type := some "integer", required := true, description := some "A\nnumber" }]

theorem sorted_items_lines :
    ∃ method, compileOperation "Items" "get" "https://host" "/items" sortedOperation [] = .ok method ∧
      method.value.arguments ≠ [] ∧ (∀ argument ∈ method.value.arguments, argument.IsUnbroken) ∧
      HasLinePerArgument (linesOf method.value.documentation) true method.value.arguments := by
  have facts : (compileOperation "Items" "get" "https://host" "/items" sortedOperation []).toOption.map
      (fun method => method.value.arguments.map fun argument => (argument.type, argument.choices)) =
        some [(some "integer", none), (none, some ["'up'", "'down'"])] := by decide +kernel
  obtain ⟨method, compiled, same⟩ := ok_of_map_eq_some facts
  have unbroken : ∀ argument ∈ method.value.arguments, argument.IsUnbroken := by
    intro argument member
    have shown : (argument.type, argument.choices) ∈ _ := same ▸ List.mem_map_of_mem member
    simp only [List.mem_cons, Prod.mk.injEq, List.not_mem_nil, or_false] at shown
    rcases shown with ⟨typed, free⟩ | ⟨-, chosen⟩
    · simp [Argument.IsUnbroken, typed, free]
    · simp [Argument.IsUnbroken, chosen]
  have some : method.value.arguments ≠ [] := by
    intro none
    rw [none] at same
    cases same
  exact ⟨method, compiled, some, unbroken, (compileOperation_linePerArgument_iff compiled).2.mpr unbroken⟩

/-- A line break in a value that is allowed goes into the documentation, where it adds a line. -/
theorem broken_choice_adds_line :
    ∃ method, compileOperation "Items" "get" "https://host" "/items"
        { parameters := [{ name := "sort", place := some "query", enum := some [.text "up\ndown"] }] } [] = .ok method ∧
      method.value.documentation = "No description\n\nArgs:\n    [sort] ('up\ndown')" ∧
      ¬ HasLinePerArgument (linesOf method.value.documentation) false method.value.arguments := by
  have facts : (compileOperation "Items" "get" "https://host" "/items"
      { parameters := [{ name := "sort", place := some "query", enum := some [.text "up\ndown"] }] } []).toOption.map
        (fun method => (method.value.documentation, method.value.arguments.length)) =
        some ("No description\n\nArgs:\n    [sort] ('up\ndown')", 1) := by decide +kernel
  obtain ⟨method, compiled, same⟩ := ok_of_map_eq_some facts
  simp only [Prod.mk.injEq] at same
  obtain ⟨written, single⟩ := same
  refine ⟨method, compiled, written, fun each => ?_⟩
  have planned := each.count
  rw [written, single, length_linesOf] at planned
  revert planned
  decide

end Bindery
