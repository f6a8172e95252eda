import Bindery.Method.Arguments
import Mathlib.Data.List.Nodup
import Mathlib.Data.List.Perm.Subperm

/-!
# Names without clashes

The names that arguments get are different from each other, from the keywords and from what a method
binds already, whatever the documented names are.
-/
namespace Bindery

/-! ### One name -/

/-- A name, or that name apart from the bound ones. -/
def apartName (name : String) : String := if boundNames.contains name then name ++ "_" else name

def endsInDigit (s : String) : Bool := s.toList.getLast?.any Char.isDigit

theorem endsInDigit_append_toString (s : String) (n : Nat) : endsInDigit (s ++ toString n) = true := by
  have digits : ∀ c ∈ (toString n).toList, c.isDigit = true := by
    intro c member
    rw [Nat.toString_eq_repr, Nat.toList_repr] at member
    exact Nat.isDigit_of_mem_toDigits (by decide) (by decide) member
  -- The last character is one of the number: its digits are there, and they come after the name.
  have filled : (toString n).toList ≠ [] := by simp [Nat.toString_eq_repr]
  obtain ⟨c, found⟩ := Option.ne_none_iff_exists'.mp (List.getLast?_eq_none_iff.not.mpr filled)
  rw [endsInDigit, String.toList_append, List.getLast?_append, found, Option.some_or]
  exact digits c (List.mem_of_getLast? found)

/-- Names with different numbers differ. -/
theorem number_of_append_eq {name : String} {a b : Nat} (same : name ++ toString a = name ++ toString b) : a = b := by
  have digits : Nat.toDigits 10 a = Nat.toDigits 10 b := by
    rw [String.append_right_inj, Nat.toString_eq_ofList_toDigits, Nat.toString_eq_ofList_toDigits] at same
    exact String.ofList_inj.mp same
  -- The digits are read back as the number.
  rw [← Nat.ofDigitChars_ten_toDigits (n := a), digits, Nat.ofDigitChars_ten_toDigits]

/-- A search ends with the first number whose name is free, or with the last number that it gets to. -/
theorem numbered_first (taken : List String) (name : String) (budget number : Nat) :
    ∃ k ≤ budget, numbered taken name budget number = name ++ toString (number + k) ∧
      (∀ j < k, name ++ toString (number + j) ∈ taken) ∧ (name ++ toString (number + k) ∈ taken → k = budget) := by
  induction budget generalizing number with
  | zero => exact ⟨0, Nat.le_refl _, rfl, by simp, fun _ => rfl⟩
  | succ budget ih =>
    -- The search for the rest counts on from the next number.
    have shift : ∀ k, number + 1 + k = number + (k + 1) := by omega
    simp only [numbered]
    split
    next occupied =>
      obtain ⟨k, bound, found, before, last⟩ := ih (number + 1)
      simp only [shift] at found before last
      refine ⟨k + 1, by omega, found, ?_, fun ends => by rw [last ends]⟩
      intro j earlier
      cases j with
      | zero => simpa using occupied
      | succ j => exact before j (by omega)
    -- The first number is free, so it is the one found whatever attempts are left.
    next free => exact ⟨0, by omega, rfl, by simp, fun ends => absurd ends (by simpa using free)⟩

/-- One attempt more than there are taken names finds a free one. -/
theorem numbered_not_mem (taken : List String) (name : String) (number : Nat) :
    numbered taken name taken.length number ∉ taken := by
  obtain ⟨k, -, found, before, last⟩ := numbered_first taken name taken.length number
  rw [found]
  intro ends
  -- The search has come to its last number, and the names of all numbers up to it are taken: they are too many.
  obtain rfl := last ends
  let attempts := (List.range (taken.length + 1)).map fun k => name ++ toString (number + k)
  have distinct : attempts.Nodup := by
    refine List.Nodup.map ?_ List.nodup_range
    intro a b same
    exact Nat.add_left_cancel (number_of_append_eq same)
  have included : attempts ⊆ taken := by
    intro attempt member
    obtain ⟨j, bound, rfl⟩ := List.mem_map.mp member
    rcases Nat.lt_succ_iff_lt_or_eq.mp (List.mem_range.mp bound) with earlier | rfl
    · exact before j earlier
    · exact ends
  have short := distinct.length_le_of_subset included
  simp only [attempts, List.length_map, List.length_range] at short
  omega

theorem freshName_eq_ite (taken : List String) (name : String) :
    freshName taken name = if taken.contains (apartName name) then
      numbered taken (apartName name) taken.length 2 else apartName name := rfl

theorem freshName_not_mem (taken : List String) (name : String) : freshName taken name ∉ taken := by
  rw [freshName_eq_ite]
  split
  · exact numbered_not_mem taken _ 2
  next free => simpa using free

/-- A fresh name is the name itself, apart from the bound ones, or that with a number. -/
theorem freshName_eq (taken : List String) (name : String) :
    freshName taken name = apartName name ∨
      ∃ n : Nat, freshName taken name = apartName name ++ toString n := by
  rw [freshName_eq_ite]
  split
  · obtain ⟨k, -, found, -⟩ := numbered_first taken (apartName name) taken.length 2
    exact .inr ⟨2 + k, found⟩
  · exact .inl rfl

/-- A bound name gets an underscore at its end, and every other name stays as it is. -/
theorem apartName_cases (name : String) :
    name ∉ boundNames ∧ apartName name = name ∨ apartName name ∈ boundNames.map (· ++ "_") := by
  unfold apartName
  split
  next bound => exact .inr (List.mem_map_of_mem (by simpa using bound))
  next free => exact .inl ⟨by simpa using free, rfl⟩

/-- Names that do not end in a digit are reserved from numbered names too. -/
theorem freshName_not_reserved {reserved : List String} (plain : ∀ t ∈ reserved, endsInDigit t = false)
    (taken : List String) {name : String} (apart : apartName name ∉ reserved) :
    freshName taken name ∉ reserved := by
  rcases freshName_eq taken name with same | ⟨n, same⟩
  · exact same ▸ apart
  · rw [same]
    -- A reserved name cannot end in a digit, and this one does.
    intro member
    have digit := endsInDigit_append_toString (apartName name) n
    rw [plain _ member] at digit
    cases digit

theorem apartName_not_bound (name : String) : apartName name ∉ boundNames := by
  have spare : ∀ t ∈ boundNames.map (· ++ "_"), t ∉ boundNames := by decide
  rcases apartName_cases name with ⟨free, same⟩ | extended
  · rwa [same]
  · exact spare _ extended

theorem freshName_not_bound (taken : List String) (name : String) :
    freshName taken name ∉ boundNames :=
  freshName_not_reserved (by decide) taken (apartName_not_bound name)

/-! ### Keywords -/

theorem keyword_ends : ∀ t ∈ Name.keywords, endsInDigit t = false ∧ t.toList.getLast? ≠ some '_' := by
  decide

theorem avoidKeyword_not_keyword (name : String) : Name.avoidKeyword name ∉ Name.keywords := by
  unfold Name.avoidKeyword
  split
  · intro member
    exact (keyword_ends _ member).2 (by simp [String.toList_append])
  next free => simpa [Name.isKeyword] using free

theorem argument_not_keyword (name : String) : Name.argument name ∉ Name.keywords := by
  unfold Name.argument
  split
  · decide
  · exact avoidKeyword_not_keyword _

theorem freshName_not_keyword (taken : List String) {name : String} (free : name ∉ Name.keywords) :
    freshName taken name ∉ Name.keywords := by
  have spare : ∀ t ∈ boundNames.map (· ++ "_"), t ∉ Name.keywords := by decide
  refine freshName_not_reserved (fun t member => (keyword_ends t member).1) taken ?_
  rcases apartName_cases name with ⟨-, same⟩ | extended
  · rwa [same]
  · exact spare _ extended

/-! ### A list of names -/

/-- Names one after another, each apart from those before it. -/
def freshNames (taken : List String) : List String → List String
  | [] => []
  | name :: rest => freshName taken name :: freshNames (freshName taken name :: taken) rest

theorem freshNames_disjoint (taken names : List String) : ∀ name ∈ freshNames taken names, name ∉ taken := by
  induction names generalizing taken with
  | nil => simp [freshNames]
  | cons first rest ih =>
    intro name member
    rcases List.mem_cons.mp member with rfl | later
    · exact freshName_not_mem taken first
    · exact fun old => ih _ name later (List.mem_cons_of_mem _ old)

theorem freshNames_nodup (taken names : List String) : (freshNames taken names).Nodup := by
  induction names generalizing taken with
  | nil => exact List.nodup_nil
  | cons first rest ih =>
    refine List.nodup_cons.mpr ⟨fun again => ?_, ih _⟩
    exact freshNames_disjoint _ rest _ again (List.mem_cons_self ..)

/-- Every name of the list is the fresh form of one of the names asked for. -/
theorem mem_freshNames {taken names : List String} {name : String} (member : name ∈ freshNames taken names) :
    ∃ asked ∈ names, ∃ others, name = freshName others asked := by
  induction names generalizing taken with
  | nil => cases member
  | cons first rest ih =>
    rcases List.mem_cons.mp member with rfl | later
    · exact ⟨first, List.mem_cons_self .., taken, rfl⟩
    -- What is taken grows along the list, so only its existence is said of it.
    · obtain ⟨asked, among, others, same⟩ := ih later
      exact ⟨asked, List.mem_cons_of_mem _ among, others, same⟩

end Bindery
