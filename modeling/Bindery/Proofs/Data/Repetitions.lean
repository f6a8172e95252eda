import Mathlib.Data.List.Induction
import Mathlib.Data.List.Nodup

/-!
# Lists without their repetitions

Of equal items the first one stays. What follows describes the rest by what is added at the end of a list, by its order,
and by what can be put into a list without any effect.
-/
namespace Bindery

variable {α : Type} [BEq α] [LawfulBEq α]

/-- An item at the end counts unless it is there already. -/
theorem eraseDups_snoc (items : List α) (item : α) :
    (items ++ [item]).eraseDups = if item ∈ items then items.eraseDups else items.eraseDups ++ [item] := by
  rw [List.eraseDups_append]
  by_cases old : item ∈ items
  · simp [List.removeAll, old]
  · simp [List.removeAll, List.eraseDups_cons, old]

/-- Items stay in the order of their first occurrences. -/
theorem pairwise_eraseDups (items : List α) :
    items.eraseDups.Pairwise fun before after => items.idxOf before < items.idxOf after := by
  induction items using List.reverseRecOn with
  | nil => exact .nil
  | append_singleton items item ih =>
    -- One more item at the end moves no first occurrence.
    have places : items.eraseDups.Pairwise fun before after =>
        (items ++ [item]).idxOf before < (items ++ [item]).idxOf after := by
      refine ih.imp_of_mem fun {before after} left right earlier => ?_
      rwa [List.idxOf_append_of_mem (List.mem_eraseDups.mp left), List.idxOf_append_of_mem (List.mem_eraseDups.mp right)]
    rw [eraseDups_snoc]
    split
    · exact places
    next new =>
      refine List.pairwise_append.mpr ⟨places, List.pairwise_singleton .., fun before left after right => ?_⟩
      have known := List.mem_eraseDups.mp left
      rw [List.mem_singleton.mp right, List.idxOf_append_of_mem known, List.idxOf_append_of_notMem new]
      exact Nat.lt_add_right _ (List.idxOf_lt_length_of_mem known)

theorem nodup_eraseDups (items : List α) : items.eraseDups.Nodup :=
  (pairwise_eraseDups items).imp fun earlier same => absurd (same ▸ earlier) (Nat.lt_irrefl _)

theorem eraseDups_of_nodup {items : List α} (distinct : items.Nodup) : items.eraseDups = items := by
  induction items using List.reverseRecOn with
  | nil => rfl
  | append_singleton items item ih =>
    rw [List.nodup_append] at distinct
    have new : item ∉ items := fun old => distinct.2.2 item old item (List.mem_singleton_self item) rfl
    rw [eraseDups_snoc, if_neg new, ih distinct.1]

/-- Whether items are kept is asked before or after. -/
theorem filter_eraseDups (keep : α → Bool) (items : List α) :
    items.eraseDups.filter keep = (items.filter keep).eraseDups := by
  induction items using List.reverseRecOn with
  | nil => rfl
  | append_singleton items item ih =>
    rw [eraseDups_snoc, List.filter_append]
    cases kept : keep item with
    | false => by_cases old : item ∈ items <;> simp [old, kept, ih]
    | true => by_cases old : item ∈ items <;> simp [old, kept, ih, eraseDups_snoc]

/-- An item that is there already can be put in later on as well. -/
theorem eraseDups_insert {before : List α} {item : α} (old : item ∈ before) (after : List α) :
    (before ++ item :: after).eraseDups = (before ++ after).eraseDups := by
  rw [List.eraseDups_append, List.eraseDups_append]
  simp [List.removeAll, old]

end Bindery
