import Bindery.Proofs.Name.Identifiers
import Mathlib.Data.List.Forall2

/-!
# Names of versions

The class of a version tells its API, but not always the version: a final `.0` goes, and what is no part of an
identifier becomes an underscore. Two versions of an API get the same class just if they are alike in this sense.
-/
namespace Bindery

open Bindery.Name (versionClass versionKey versionKeyChars versionSuffix)
open Bindery.Text (isWordChar)

/-- Is a character an underscore in the name of a version? -/
def isFiller (c : Char) : Bool := c = '_' || !isWordChar c

/-- Are two versions the same but for a final `.0` and for what becomes an underscore? -/
def IsAlike (first second : String) : Prop :=
  List.Forall₂ (fun c d => c = d ∨ isFiller c = true ∧ isFiller d = true) (versionKeyChars first.toList)
    (versionKeyChars second.toList)

/-- Characters are written alike if they are the same or fillers. -/
theorem suffixChar_eq_iff (c d : Char) : (if isWordChar c then c else '_') = (if isWordChar d then d else '_') ↔
    c = d ∨ isFiller c = true ∧ isFiller d = true := by
  have under : isWordChar '_' = true := by decide
  grind [isFiller]

theorem versionSuffix_eq_iff {first second : String} :
    versionSuffix first = versionSuffix second ↔ IsAlike first second := by
  rw [versionSuffix, versionSuffix, String.ofList_inj, ← List.forall₂_eq_eq_eq, List.forall₂_map_left_iff,
    List.forall₂_map_right_iff, IsAlike]
  simp only [suffixChar_eq_iff]

/-- Versions with the same key are alike. -/
theorem isAlike_of_versionKey {first second : String} (same : versionKey first = versionKey second) :
    IsAlike first second := by
  rw [versionKey, versionKey, String.ofList_inj] at same
  rw [IsAlike, same]
  exact List.forall₂_same.mpr fun _ _ => .inl rfl

/-- A version whose key has no fillers is like the versions with this key only. -/
theorem versionKey_of_isAlike {first second : String} (alike : IsAlike first second)
    (plain : ∀ c ∈ (versionKey first).toList, isFiller c = false) : versionKey first = versionKey second := by
  rw [versionKey, String.toList_ofList] at plain
  rw [versionKey, versionKey, String.ofList_inj]
  unfold IsAlike at alike
  generalize versionKeyChars first.toList = left, versionKeyChars second.toList = right at alike plain ⊢
  -- Each pair of characters is the same, since the first one of it is no filler.
  induction alike with
  | nil => rfl
  | cons same _ ih =>
    rw [List.forall_mem_cons] at plain
    obtain rfl := same.resolve_right fun ⟨filler, _⟩ => Bool.false_ne_true (plain.1.symm.trans filler)
    rw [ih plain.2]

/-- A class tells its API, and its version up to what is alike. -/
theorem versionClass_eq_iff {api api' : String} (left : '_' ∉ api.toList) (right : '_' ∉ api'.toList)
    {version version' : String} :
    versionClass api version = versionClass api' version' ↔ api = api' ∧ IsAlike version version' := by
  have chars (api version : String) :
      (versionClass api version).toList = api.toList ++ '_' :: (versionSuffix version).toList := by
    simp [versionClass, String.toList_append]
  -- What stands before the first underscore is the API.
  have owner {name : String} (free : '_' ∉ name.toList) (rest : List Char) :
      (name.toList ++ '_' :: rest).takeWhile (· ≠ '_') = name.toList := by
    have whole : ∀ c ∈ name.toList, decide (c ≠ '_') = true := fun c member =>
      decide_eq_true fun same => free (same ▸ member)
    rw [List.takeWhile_append_of_pos whole, List.takeWhile_cons_of_neg (by decide), List.append_nil]
  rw [← versionSuffix_eq_iff, ← String.toList_inj, chars, chars]
  constructor
  · intro same
    have apis := congrArg (List.takeWhile (· ≠ '_')) same
    rw [owner left, owner right] at apis
    rw [apis] at same
    exact ⟨String.toList_inj.mp apis, String.toList_inj.mp (List.cons.inj (List.append_cancel_left same)).2⟩
  · rintro ⟨rfl, same⟩
    rw [same]

/-- A class starts like its API, with a letter. -/
theorem versionClass_start {api : String} (letters : IsLetters api) (version : String) :
    ∃ c rest, (versionClass api version).toList = c :: rest ∧ c.isAlpha = true := by
  obtain ⟨c, rest, chars, letter, -⟩ := letters.exists_cons
  refine ⟨c, rest ++ '_' :: (versionSuffix version).toList, ?_, letter⟩
  simp [versionClass, String.toList_append, chars]

theorem IsLetters.noUnderscore {name : String} (letters : IsLetters name) : '_' ∉ name.toList := fun member =>
  absurd (letters.letters _ member) (by decide)

end Bindery
