import Bindery.Proofs.Name.Identifiers

/-!
# Names of hosts

An API is named after the first label of its host, part by part between the hyphens. Neither what stands in front of the
host nor what follows the label has a say in the name, and the case of the letters has none.
-/
namespace Bindery

/-- ASCII letters and hyphens, at least one of them. -/
structure IsHostLabel (label : List Char) : Prop where
  nonempty : label ≠ []
  chars : ∀ c ∈ label, c.isAlpha = true ∨ c = '-'

instance (label : List Char) : Decidable (IsHostLabel label) :=
  decidable_of_iff (label ≠ [] ∧ label.all (fun c => c.isAlpha || c = '-') = true)
    ⟨fun ⟨nonempty, chars⟩ => ⟨nonempty, by simpa using chars⟩, fun ⟨nonempty, chars⟩ => ⟨nonempty, by simpa using chars⟩⟩

/-- A part of a label with a capital letter in front of small ones. -/
def capitalized : List Char → List Char
  | [] => []
  | c :: rest => c.toUpper :: rest.map Char.toLower

/-- The name that a label gives, if it has more than hyphens. -/
def labelName? (label : List Char) : Option String :=
  if label.all (· = '-') then none else some (String.ofList ((label.splitOn '-').flatMap capitalized))

/-! ### Parts -/

theorem splitOnAny_hyphen (label : List Char) : Name.splitOnAny (· = '-') label = label.splitOn '-' := by
  rw [splitOnAny_eq_splitOnP, List.splitOn_eq_splitOnP]
  rfl

theorem titleList_eq_capitalized {part : List Char} (letters : ∀ c ∈ part, c.isAlpha = true) :
    Text.titleList part = capitalized part := by
  cases part with
  | nil => rfl
  | cons c rest => exact titleList_letters letters

/-- The parts of a label have no characters just if it has none but hyphens. -/
theorem flatMap_capitalized_eq_nil {label : List Char} :
    (label.splitOn '-').flatMap capitalized = [] ↔ label.all (· = '-') = true := by
  simp only [List.all_eq_true, decide_eq_true_iff]
  rw [List.flatMap_eq_nil_iff, ← splitOnAny_hyphen]
  constructor
  · intro none c member
    obtain hyphen | ⟨piece, among, inside⟩ := @mem_splitOnAny_or_break (· = '-') label c member
    · simpa using hyphen
    -- A part with a character has a title with one.
    · cases piece with
      | nil => cases inside
      | cons d rest => cases none _ among
  · intro hyphens piece among
    cases piece with
    | nil => rfl
    | cons c rest =>
      obtain ⟨member, other⟩ := mem_splitOnAny among c (List.mem_cons_self ..)
      simp [hyphens c member] at other

/-! ### Hosts -/

theorem hostLabel?_append {before : List Char} (noSlash : '/' ∉ before) (rest : List Char) :
    Name.hostLabel? (before ++ rest) = Name.hostLabel? rest := by
  induction before with
  | nil => rfl
  | cons c before ih =>
    rw [List.mem_cons, not_or] at noSlash
    rw [List.cons_append, Name.hostLabel?, if_neg (Ne.symm noSlash.1), ih noSlash.2]

theorem hostLabel?_host {scheme label : List Char} (noSlash : '/' ∉ scheme) (valid : IsHostLabel label) (rest : List Char) :
    Name.hostLabel? (scheme ++ ':' :: '/' :: '/' :: (label ++ '.' :: rest)) = some label := by
  have all : ∀ c ∈ label, Name.isLabelChar c = true := fun c member => by simpa [Name.isLabelChar] using valid.chars c member
  obtain ⟨c, others, rfl⟩ := List.exists_cons_of_ne_nil valid.nonempty
  have taken : (c :: others ++ '.' :: rest).takeWhile Name.isLabelChar = c :: others := by
    rw [List.takeWhile_append_of_pos all, List.takeWhile_cons_of_neg (by decide), List.append_nil]
  have left : (c :: others ++ '.' :: rest).dropWhile Name.isLabelChar = '.' :: rest := by
    rw [List.dropWhile_append_of_pos all, List.dropWhile_cons_of_neg (by decide)]
  -- The first slash is followed by another one, and the second one by the label.
  have first : ('/' :: (c :: others ++ '.' :: rest)).takeWhile Name.isLabelChar = [] :=
    List.takeWhile_cons_of_neg (by decide)
  rw [hostLabel?_append noSlash, Name.hostLabel?, if_neg (by decide), Name.hostLabel?, if_pos rfl, first]
  dsimp only
  rw [Name.hostLabel?, if_pos rfl, taken, left]
  rfl

theorem api?_host {label : List Char} (valid : IsHostLabel label) {scheme : String} (noSlash : '/' ∉ scheme.toList)
    (rest : String) : Name.api? (scheme ++ "://" ++ String.ofList label ++ "." ++ rest) = labelName? label := by
  have chars : (scheme ++ "://" ++ String.ofList label ++ "." ++ rest).toList =
      scheme.toList ++ ':' :: '/' :: '/' :: (label ++ '.' :: rest.toList) := by
    simp [String.toList_append]
  -- No part of the label has a hyphen, so each is made of letters and its title is the simple one.
  have named : Name.labelName label = (label.splitOn '-').flatMap capitalized := by
    rw [Name.labelName, ← splitOnAny_hyphen]
    refine List.flatMap_congr fun part member => titleList_eq_capitalized fun c among => ?_
    obtain ⟨inside, noHyphen⟩ := mem_splitOnAny member c among
    simpa [decide_eq_false_iff_not.mp noHyphen] using valid.chars c inside
  rw [Name.api?, chars, hostLabel?_host noSlash valid, Option.map_some, named, labelName?]
  split
  next same => cases same
  next same => rw [if_pos (flatMap_capitalized_eq_nil.mp (Option.some.inj same))]
  next name something same =>
    cases same
    rw [if_neg (mt flatMap_capitalized_eq_nil.mpr something)]

/-! ### Letter case -/

theorem toLower_eq_self {c : Char} (small : c.isUpper = false) : c.toLower = c :=
  dif_neg fun capital => by
    have upper : c.isUpper = true := decide_eq_true capital
    rw [small] at upper
    cases upper

/-- Only ASCII characters have a lower case of their own. -/
theorem lowered_induction {P : Char → Char → Prop} (ascii : ∀ n < 128, P (Char.ofNat n) (Char.ofNat n).toLower)
    (same : ∀ c, c.toLower = c → P c c) (c : Char) : P c c.toLower := by
  cases capital : c.isUpper with
  | true =>
    have letter := isWordChar_of_isAlpha (isAlpha_iff.mpr (.inl capital))
    exact @forall_ascii (fun c => P c c.toLower) ascii c (ascii_of_isWordChar letter)
  | false =>
    have kept := toLower_eq_self capital
    exact kept.symm ▸ same c kept

theorem toLower_eq_hyphen {c : Char} : c.toLower = '-' ↔ c = '-' :=
  lowered_induction (P := fun c lowered => lowered = '-' ↔ c = '-') (by decide) (fun _ _ => Iff.rfl) c

theorem toLower_toLower (c : Char) : c.toLower.toLower = c.toLower :=
  lowered_induction (P := fun _ lowered => lowered.toLower = lowered) (by decide) (fun _ same => same) c

theorem toUpper_toLower (c : Char) : c.toLower.toUpper = c.toUpper :=
  lowered_induction (P := fun c lowered => lowered.toUpper = c.toUpper) (by decide) (fun _ _ => rfl) c

theorem capitalized_toLower (part : List Char) : capitalized (part.map Char.toLower) = capitalized part := by
  cases part with
  | nil => rfl
  | cons c rest =>
    simp only [List.map_cons, capitalized, toUpper_toLower, List.map_map, Function.comp_def, toLower_toLower]

theorem splitOn_toLower (label : List Char) :
    (label.map Char.toLower).splitOn '-' = (label.splitOn '-').map (List.map Char.toLower) := by
  rw [List.splitOn_eq_splitOnP, List.splitOn_eq_splitOnP]
  induction label with
  | nil => rfl
  | cons c rest ih =>
    rw [List.map_cons, List.splitOnP_cons_eq_if_modifyHead, List.splitOnP_cons_eq_if_modifyHead, ih]
    simp only [beq_iff_eq, toLower_eq_hyphen]
    split
    · rfl
    · cases rest.splitOnP (· == '-') <;> rfl

/-- Labels that differ in letter case only give one name. -/
theorem labelName?_toLower (label : List Char) : labelName? (label.map Char.toLower) = labelName? label := by
  simp only [labelName?, List.all_map, Function.comp_def, toLower_eq_hyphen, splitOn_toLower, List.flatMap_map,
    capitalized_toLower]

end Bindery
