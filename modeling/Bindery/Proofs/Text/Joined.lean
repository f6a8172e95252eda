import Mathlib.Algebra.Ring.Nat
import Mathlib.Data.String.Basic

/-!
# Texts joined by a separator

Joined texts have the characters of the texts, and those of the separator once less than there are texts.
-/
namespace Bindery

theorem count_intercalate (c : Char) (separator : List Char) (pieces : List (List Char)) :
    (separator.intercalate pieces).count c =
      (pieces.map (·.count c)).sum + (pieces.length - 1) * separator.count c := by
  induction pieces with
  | nil => simp
  | cons first rest ih =>
    cases rest with
    | nil => simp
    | cons second others =>
      simp only [List.intercalate_cons_cons, List.count_append, ih, List.map_cons, List.sum_cons, List.length_cons,
        Nat.add_sub_cancel, Nat.add_mul, Nat.one_mul]
      omega

theorem count_joined (c : Char) (separator : String) (pieces : List String) :
    (String.intercalate separator pieces).toList.count c =
      (pieces.map (·.toList.count c)).sum + (pieces.length - 1) * separator.toList.count c := by
  rw [String.toList_intercalate, count_intercalate, List.map_map, List.length_map]
  rfl

/-- A character that is not in a text joined from others is in none of them. -/
theorem notMem_of_joined {c : Char} {separator : String} {pieces : List String}
    (absent : c ∉ (String.intercalate separator pieces).toList) : ∀ piece ∈ pieces, c ∉ piece.toList := by
  rw [← List.count_eq_zero, count_joined, Nat.add_eq_zero_iff, List.sum_eq_zero_iff_forall_eq_nat,
    List.forall_mem_map] at absent
  intro piece member
  exact List.count_eq_zero.mp (absent.1 piece member)

/-- A character that the separator does not have is in joined texts just if it is in one of them. -/
theorem notMem_joined_iff {c : Char} {separator : String} (between : c ∉ separator.toList) {pieces : List String} :
    c ∉ (String.intercalate separator pieces).toList ↔ ∀ piece ∈ pieces, c ∉ piece.toList := by
  refine ⟨notMem_of_joined, fun absent => ?_⟩
  have none : (pieces.map (·.toList.count c)).sum = 0 := by
    rw [List.sum_eq_zero_iff_forall_eq_nat, List.forall_mem_map]
    exact fun piece member => List.count_eq_zero.mpr (absent piece member)
  rw [← List.count_eq_zero, count_joined, none, List.count_eq_zero.mpr between, Nat.mul_zero]

end Bindery
