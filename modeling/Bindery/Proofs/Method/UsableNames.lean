import Bindery.Proofs.Method.Compilation
import Bindery.Proofs.Method.Grouping

/-!
# Usable arguments

Arguments can be written down in a program: each has a plain name of its own that means nothing else there. It is the
documented name made plain, with the first number that keeps it apart from the arguments before it; the search for that
number never goes beyond the number of these arguments, although a number may well lead to a name that is taken.
-/
namespace Bindery

open Bindery.Schema (Definitions Operation Parameter)

/-! ### The search for a free name -/

/-- The names that are tried for an argument, one after another. -/
def attempt (name : String) : Nat → String
  | 0 => apartName name
  | k + 1 => apartName name ++ toString (k + 2)

/-- The first attempt that is not taken is found, after at most as many as there are taken names. -/
structure IsFirstFree (taken : List String) (name found : String) : Prop where
  free : found ∉ taken
  first : ∃ k ≤ taken.length, found = attempt name k ∧ ∀ j < k, attempt name j ∈ taken

/-- Names found one after another, each kept apart from those that were taken and found before. -/
inductive ChosenInTurn : List String → List String → List String → Prop
  | nil (taken : List String) : ChosenInTurn taken [] []
  | cons {taken names others : List String} {name found : String} (chosen : IsFirstFree taken name found)
      (rest : ChosenInTurn (found :: taken) names others) : ChosenInTurn taken (name :: names) (found :: others)

theorem attempt_injective (name : String) : Function.Injective (attempt name) := by
  intro a b same
  have numbered : ∀ k : Nat, apartName name ≠ apartName name ++ toString (k + 2) := by
    intro k same
    have lengths := congrArg String.length same
    have filled : (toString (k + 2)).length ≠ 0 := by simp [Nat.toString_eq_repr]
    rw [String.length_append] at lengths
    omega
  -- Numbers differ in their digits, and the name without a number is shorter than all others.
  cases a with
  | zero =>
    cases b with
    | zero => rfl
    | succ b => exact absurd same (numbered b)
  | succ a =>
    cases b with
    | zero => exact absurd same.symm (numbered a)
    | succ b =>
      exact congrArg Nat.succ (Nat.add_right_cancel (number_of_append_eq same))

theorem freshName_isFirstFree (taken : List String) (name : String) :
    IsFirstFree taken name (freshName taken name) := by
  have found : ∃ k, freshName taken name = attempt name k ∧ ∀ j < k, attempt name j ∈ taken := by
    rw [freshName_eq_ite]
    split
    next occupied =>
      obtain ⟨k, -, found, before, -⟩ := numbered_first taken (apartName name) taken.length 2
      refine ⟨k + 1, ?_, ?_⟩
      · rw [found, attempt, Nat.add_comm]
      · intro j bound
        cases j with
        | zero => simpa [attempt] using occupied
        | succ j => simpa [attempt, Nat.add_comm] using before j (by omega)
    · exact ⟨0, rfl, by simp⟩
  obtain ⟨k, same, before⟩ := found
  refine ⟨freshName_not_mem taken name, k, ?_, same, before⟩
  -- The attempts before the found one are different names, and all of them are taken.
  have distinct : ((List.range k).map (attempt name)).Nodup :=
    List.Nodup.map (attempt_injective name) List.nodup_range
  have included : (List.range k).map (attempt name) ⊆ taken := by
    intro tried member
    obtain ⟨j, bound, rfl⟩ := List.mem_map.mp member
    exact before j (by simpa using bound)
  simpa using distinct.length_le_of_subset included

theorem freshNames_chosenInTurn (taken names : List String) : ChosenInTurn taken names (freshNames taken names) := by
  induction names generalizing taken with
  | nil => exact .nil taken
  | cons name rest ih => exact .cons (freshName_isFirstFree taken name) (ih _)

/-! ### The arguments of an operation -/

/-- Arguments that can be written down, named as it is documented as far as that goes. -/
structure AreUsable (arguments : List Argument) : Prop where
  plain : ∀ argument ∈ arguments, IsPlain argument.name
  unbound : ∀ argument ∈ arguments, argument.name ∉ Name.keywords ∧ argument.name ∉ boundNames
  distinct : (arguments.map (·.name)).Nodup
  chosen : ChosenInTurn [] (arguments.map fun argument => Name.argument argument.documented)
    (arguments.map (·.name))

theorem arguments_areUsable (path : String) (operation : Operation) (definitions : Definitions) :
    AreUsable (buildArguments path operation definitions).value.arguments where
  plain _ member := argumentNames_isPlain member
  unbound _ member := (argumentNames_apart member).symm
  distinct := argumentNames_nodup path operation definitions
  chosen := by
    rw [argumentNames_eq]
    exact freshNames_chosenInTurn [] _

/-- The arguments of every operation can be written down. They are the properties of its sole object, in their order,
or its parameters, required ones first. -/
theorem buildArguments_usable (path : String) (operation : Operation) (definitions : Definitions) :
    let list := (buildArguments path operation definitions).value
    AreUsable list.arguments ∧
      ((∃ parameter properties, SoleObject definitions operation parameter properties ∧ list.grouped = true ∧
          list.arguments.map (·.documented) = properties.map Prod.fst) ∨
        (¬ ∃ parameter properties, SoleObject definitions operation parameter properties) ∧ list.grouped = false ∧
          ∃ ordered, RequiredFirst operation.parameters ordered ∧
            list.arguments.map (·.documented) = ordered.map (·.name) ∧
            list.arguments.map (·.required) = ordered.map (·.required)) := by
  refine ⟨arguments_areUsable path operation definitions, ?_⟩
  by_cases object : ∃ parameter properties, SoleObject definitions operation parameter properties
  · left
    obtain ⟨parameter, properties, object⟩ := object
    obtain ⟨grouped, documented, -⟩ := separated_arguments path object
    exact ⟨parameter, properties, object, grouped, documented⟩
  · right
    have ungrouped := ungrouped_of_no_object path fun parameter properties sole => object ⟨parameter, properties, sole⟩
    have fits : (orderParameters operation.parameters).length =
        (freshNames [] (parameterNames (orderParameters operation.parameters))).length := by simp [parameterNames]
    refine ⟨object, ungrouped, _, orderParameters_requiredFirst operation.parameters, ?_, ?_⟩
    · rw [ungrouped_arguments ungrouped]
      exact map_zipWith_item Parameter.name (fun _ _ => rfl) fits
    · rw [ungrouped_arguments ungrouped]
      exact map_zipWith_item Parameter.required (fun _ _ => rfl) fits

/-- The number of a name leads to a name that is documented itself. -/
example : ((buildArguments "/v1/items" { parameters := [{ name := "a" }, { name := "a" }, { name := "a2" }] }
    []).value.arguments.map (·.name)) = ["a", "a2", "a22"] := by decide +kernel

end Bindery
