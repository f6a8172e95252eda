import Mathlib.Data.List.Nodup
import Bindery.Data.Datum
import Bindery.Text.CodePoint

/-!
# Members of objects

Setting a key changes what is found under that key and nothing else. Keys that are no texts, because halves of surrogate
pairs stand alone in them, stay apart from each other and from all texts.
-/
namespace Bindery.Data

variable {α : Type}

theorem lookup_insertMember (members : List (String × α)) (key other : String) (value : α) :
    (insertMember members key value).lookup other =
      if other = key then some value else members.lookup other := by
  induction members with
  | nil =>
    by_cases same : other = key
    · simp [insertMember, same]
    · have apart : (other == key) = false := by simpa using same
      simp [insertMember, List.lookup_cons, same, apart]
  | cons member rest ih =>
    obtain ⟨k, v⟩ := member
    -- The key is set at its first place, so below it nothing changes; before that place the induction goes on.
    by_cases here : k = key
    · subst here
      by_cases same : other = k
      · simp [insertMember, same]
      · have apart : (other == k) = false := by simpa using same
        simp [insertMember, List.lookup_cons, same, apart]
    · simp only [insertMember, if_neg here, List.lookup_cons]
      cases first : other == k with
      | true =>
        have same : other = k := by simpa using first
        have differs : other ≠ key := fun equal => here (same ▸ equal)
        simp only [if_neg differs]
      | false => exact ih

theorem mem_insertMember {members : List (String × α)} {key : String} {value : α}
    {entry : String × α} (member : entry ∈ insertMember members key value) :
    entry = (key, value) ∨ entry ∈ members := by
  induction members with
  | nil => exact .inl (List.mem_singleton.mp member)
  | cons first rest ih =>
    obtain ⟨k, v⟩ := first
    unfold insertMember at member
    split at member
    next same =>
      rcases List.mem_cons.mp member with rfl | later
      · exact .inl (by rw [same])
      · exact .inr (List.mem_cons_of_mem _ later)
    · rcases List.mem_cons.mp member with rfl | later
      · exact .inr (List.mem_cons_self ..)
      · exact (ih later).imp_right (List.mem_cons_of_mem _)

/-- A new key comes last. -/
theorem insertMember_of_absent {members : List (String × α)} {key : String} (absent : key ∉ members.map Prod.fst)
    (value : α) : insertMember members key value = members ++ [(key, value)] := by
  induction members with
  | nil => rfl
  | cons member rest ih =>
    rw [List.map_cons, List.mem_cons, not_or] at absent
    rw [insertMember, if_neg fun same => absent.1 same.symm, ih absent.2, List.cons_append]

theorem keys_insertMember_of_mem {members : List (String × α)} {key : String} (present : key ∈ members.map Prod.fst)
    (value : α) : (insertMember members key value).map Prod.fst = members.map Prod.fst := by
  induction members with
  | nil => cases present
  | cons member rest ih =>
    obtain ⟨k, v⟩ := member
    by_cases here : k = key
    · simp [insertMember, here]
    · have later : key ∈ rest.map Prod.fst := by simpa [Ne.symm here] using present
      simp [insertMember, here, ih later]

theorem nodup_insertMember {members : List (String × α)} (apart : (members.map Prod.fst).Nodup) (key : String) (value : α) :
    ((insertMember members key value).map Prod.fst).Nodup := by
  by_cases present : key ∈ members.map Prod.fst
  · rwa [keys_insertMember_of_mem present]
  · rw [insertMember_of_absent present, List.map_append]
    exact List.Nodup.append apart (List.nodup_singleton key) (by simpa using present)

theorem lookup_eq_none_iff {entries : List (String × α)} {key : String} :
    entries.lookup key = none ↔ key ∉ entries.map Prod.fst := by
  rw [List.lookup_eq_none_iff, List.mem_map]
  constructor
  · rintro apart ⟨entry, member, rfl⟩
    simpa using apart entry member
  · intro free entry member
    simpa using fun same : key = entry.1 => free ⟨entry, member, same.symm⟩

theorem any_key_iff (members : List (String × α)) (key : String) :
    (members.any fun member => decide (member.1 = key)) = (members.lookup key).isSome := by
  induction members with
  | nil => rfl
  | cons member rest ih =>
    obtain ⟨k, v⟩ := member
    by_cases here : k = key
    · subst here
      simp
    · have apart : (key == k) = false := by simpa using fun same : key = k => here same.symm
      simp only [List.any_cons, decide_eq_false here, Bool.false_or, List.lookup_cons, apart, ih]

end Bindery.Data

/-! ### Keys with halves of pairs -/

namespace Bindery.Text

/-- Code points other than the private characters that stand for halves. -/
def CodePoint.IsOrdinary (point : CodePoint) : Prop := ∀ c ∈ point.char?, c.toNat < standInStart

namespace CodePoint

theorem toNat_standIn_half (place : Fin 2048) : (half place).standIn.toNat = standInStart + place := by
  have valid : (standInStart + place).isValidChar := by
    unfold standInStart
    exact .inr ⟨by omega, by omega⟩
  rw [standIn, Char.ofNat, dif_pos valid]
  rfl

theorem standIn_inj {a b : CodePoint} (left : a.IsOrdinary) (right : b.IsOrdinary) (same : a.standIn = b.standIn) :
    a = b := by
  have numbers := congrArg Char.toNat same
  -- The number of an ordinary character is below the numbers that stand for halves.
  cases a with
  | char c =>
    cases b with
    | char d => exact congrArg char same
    | half place =>
      have below := left c rfl
      rw [toNat_standIn_half, standIn] at numbers
      omega
  | half first =>
    cases b with
    | char d =>
      have below := right d rfl
      rw [toNat_standIn_half, standIn] at numbers
      omega
    | half second =>
      rw [toNat_standIn_half, toNat_standIn_half] at numbers
      exact congrArg half (Fin.ext (Nat.add_left_cancel numbers))

end CodePoint

theorem textOfPoints_inj {points others : List CodePoint} (left : ∀ point ∈ points, point.IsOrdinary)
    (right : ∀ point ∈ others, point.IsOrdinary) (same : textOfPoints points = textOfPoints others) :
    points = others := by
  have chars : points.map CodePoint.standIn = others.map CodePoint.standIn := String.ofList_inj.mp same
  clear same
  induction points generalizing others with
  | nil => exact (List.map_eq_nil_iff.mp chars.symm).symm
  | cons first rest ih =>
    cases others with
    | nil => cases chars
    | cons second more =>
      rw [List.forall_mem_cons] at left right
      obtain ⟨here, later⟩ := List.cons.inj chars
      rw [CodePoint.standIn_inj left.1 right.1 here, ih left.2 right.2 later]

/-- Setting a key leaves keys with other halves alone. -/
theorem lookup_insertMember_points {α : Type} {points others : List CodePoint}
    (left : ∀ point ∈ points, point.IsOrdinary) (right : ∀ point ∈ others, point.IsOrdinary) (differ : others ≠ points)
    (members : List (String × α)) (value : α) :
    (Data.insertMember members (textOfPoints points) value).lookup (textOfPoints others) =
      members.lookup (textOfPoints others) := by
  rw [Data.lookup_insertMember, if_neg fun same => differ (textOfPoints_inj right left same)]

end Bindery.Text
