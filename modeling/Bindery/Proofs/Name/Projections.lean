import Bindery.Proofs.Name.Identifiers

/-!
# Names that stay as they are

Making a name usable changes nothing about a name that is usable already, and makes every other text into one that is.
So both ways of making names are projections, onto the usable names and onto these together with the empty one.
-/
namespace Bindery

open Bindery.Text (isWordChar)

/-- A map whose values are just those that have a property, each of which it leaves as it is. -/
structure IsProjectionOnto (map : String → String) (Holds : String → Prop) : Prop where
  into : ∀ s, Holds (map s)
  again : ∀ s, map (map s) = map s
  fixed_iff : ∀ s, map s = s ↔ Holds s

theorem IsProjectionOnto.of_fixed {map : String → String} {Holds : String → Prop} (into : ∀ s, Holds (map s))
    (fixed : ∀ s, Holds s → map s = s) : IsProjectionOnto map Holds where
  into := into
  again s := fixed (map s) (into s)
  fixed_iff s := by
    constructor
    · intro same
      exact same ▸ into s
    · exact fixed s

/-- A name that can be given to an argument or a method: letters, digits and underscores of ASCII, a digit not the first
of them, and no keyword. -/
structure IsUsableName (name : String) : Prop where
  form : ∃ c rest, name.toList = c :: rest ∧ (c.isAlpha = true ∨ c = '_') ∧
    ∀ d ∈ rest, d.isAlpha = true ∨ d.isDigit = true ∨ d = '_'
  free : name ∉ Name.keywords

theorem wordChar_iff (c : Char) : isWordChar c = true ↔ c.isAlpha = true ∨ c.isDigit = true ∨ c = '_' := by
  simp [isWordChar, Char.isAlphanum, or_assoc]

theorem wordStart_iff (c : Char) : isWordChar c = true ∧ c.isDigit = false ↔ c.isAlpha = true ∨ c = '_' := by
  constructor
  · rintro ⟨word, noDigit⟩
    simpa [noDigit] using (wordChar_iff c).mp word
  · rintro (letter | rfl)
    · -- Letters are ASCII characters, few enough to go through.
      have ascii := ascii_of_isWordChar (isWordChar_of_isAlpha letter)
      have noDigit := @forall_ascii (fun c => c.isAlpha = true → c.isDigit = false) (by decide) c ascii letter
      exact ⟨isWordChar_of_isAlpha letter, noDigit⟩
    · decide

theorem isUsableName_iff {name : String} : IsUsableName name ↔ IsPlain name ∧ name ∉ Name.keywords := by
  have form : (∃ c rest, name.toList = c :: rest ∧ (c.isAlpha = true ∨ c = '_') ∧
      ∀ d ∈ rest, d.isAlpha = true ∨ d.isDigit = true ∨ d = '_') ↔ IsPlain name := by
    simp only [isPlain_iff, ← wordChar_iff, ← wordStart_iff, and_assoc]
  constructor
  · rintro ⟨shaped, free⟩
    exact ⟨form.mp shaped, free⟩
  · rintro ⟨plain, free⟩
    exact ⟨form.mpr plain, free⟩

/-! ### Usable names are kept -/

/-- Word characters have no accents. -/
theorem baseChars_word {s : List Char} (word : ∀ c ∈ s, isWordChar c = true) : s.flatMap Text.baseChars = s := by
  induction s with
  | nil => rfl
  | cons c rest ih =>
    rw [List.forall_mem_cons] at word
    rw [List.flatMap_cons, ih word.2, Text.baseChars, if_pos (ascii_of_isWordChar word.1)]
    rfl

theorem identifierChars_plain {name : String} (plain : IsPlain name) :
    Name.identifierChars name.toList = name.toList := by
  obtain ⟨c, rest, chars, -, noDigit, -⟩ := isPlain_iff.mp plain
  have kept : (name.toList.flatMap Text.baseChars).filter isWordChar = name.toList := by
    rw [baseChars_word plain.word]
    exact List.filter_eq_self.mpr plain.word
  rw [Name.identifierChars, kept, chars]
  exact if_neg (by simp [noDigit])

theorem joinParts_plain {name : String} (plain : IsPlain name) : Name.joinParts name.toList = name.toList := by
  -- Without hyphens and dots a name has one part, and what is title-cased are the other ones.
  have whole : ∀ c ∈ name.toList, (decide (c = '-') || decide (c = '.')) = false := by
    intro c member
    have word := plain.word c member
    by_contra broken
    rcases Bool.or_eq_true_iff.mp (Bool.not_eq_false _ ▸ broken) with hyphen | dot
    · rw [of_decide_eq_true hyphen] at word
      cases word
    · rw [of_decide_eq_true dot] at word
      cases word
  rw [Name.joinParts, splitOnAny_of_none whole]
  exact List.append_nil _

theorem avoidKeyword_of_free {name : String} (free : name ∉ Name.keywords) : Name.avoidKeyword name = name := by
  rw [Name.avoidKeyword, Name.isKeyword, if_neg (by simpa using free)]

theorem argument_of_usable {name : String} (usable : IsUsableName name) : Name.argument name = name := by
  obtain ⟨plain, free⟩ := isUsableName_iff.mp usable
  rw [Name.argument, joinParts_plain plain, identifierChars_plain plain]
  split
  next empty => exact absurd (String.toList_eq_nil_iff.mp empty) plain.ne_empty
  · rw [String.ofList_toList, avoidKeyword_of_free free]

theorem member_of_usable {name : String} (usable : IsUsableName name) : Name.member name = name := by
  obtain ⟨plain, free⟩ := isUsableName_iff.mp usable
  rw [Name.member, identifierChars_plain plain, String.ofList_toList, avoidKeyword_of_free free]

/-! ### Projections -/

/-- Argument names are made by a projection onto the usable names, and method names by one onto the usable names and
the empty one. -/
theorem names_project :
    IsProjectionOnto Name.argument IsUsableName ∧
      IsProjectionOnto Name.member fun name => name = "" ∨ IsUsableName name := by
  constructor
  · apply IsProjectionOnto.of_fixed
    · intro name
      exact isUsableName_iff.mpr ⟨argument_isPlain name, argument_not_keyword name⟩
    · intro name usable
      exact argument_of_usable usable
  · apply IsProjectionOnto.of_fixed
    · intro name
      by_cases nothing : Name.member name = ""
      · exact .inl nothing
      · exact .inr (isUsableName_iff.mpr ⟨member_isPlain nothing, avoidKeyword_not_keyword _⟩)
    · rintro name (rfl | usable)
      · decide
      · exact member_of_usable usable

end Bindery
