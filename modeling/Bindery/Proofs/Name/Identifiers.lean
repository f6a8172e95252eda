import Bindery.Name.Api
import Bindery.Name.Method
import Bindery.Name.Version
import Bindery.Proofs.Method.FreshNames
import Mathlib.Data.List.TakeWhile

/-!
# Names are identifiers

Every name that is derived for the generated package is an identifier of ASCII characters, whatever it is
derived from.
-/
namespace Bindery

open Bindery.Text (isIdentifier isWordChar)

/-- An identifier of ASCII characters. -/
structure IsPlain (name : String) : Prop where
  identifier : isIdentifier name = true
  ascii : ∀ c ∈ name.toList, c.toNat < 128

instance (name : String) : Decidable (IsPlain name) :=
  decidable_of_iff (isIdentifier name = true ∧ name.toList.all (fun c => c.toNat < 128) = true)
    ⟨fun ⟨identifier, ascii⟩ => ⟨identifier, by simpa using ascii⟩,
      fun ⟨identifier, ascii⟩ => ⟨identifier, by simpa using ascii⟩⟩

/-! ### Characters -/

theorem isUpper_iff {c : Char} : c.isUpper = true ↔ 65 ≤ c.toNat ∧ c.toNat ≤ 90 := decide_eq_true_iff

theorem isLower_iff {c : Char} : c.isLower = true ↔ 97 ≤ c.toNat ∧ c.toNat ≤ 122 :=
  Bool.and_eq_true_iff.trans (and_congr decide_eq_true_iff decide_eq_true_iff)

theorem isAlpha_iff {c : Char} : c.isAlpha = true ↔ c.isUpper = true ∨ c.isLower = true := Bool.or_eq_true_iff

theorem ascii_of_isWordChar {c : Char} (word : isWordChar c = true) : c.toNat < 128 := by
  simp only [isWordChar, Char.isAlphanum, Bool.or_eq_true, isAlpha_iff, isUpper_iff, isLower_iff, Char.isDigit,
    Bool.and_eq_true, decide_eq_true_eq, UInt32.le_iff_toNat_le, ge_iff_le] at word
  rcases word with ((⟨-, bound⟩ | ⟨-, bound⟩) | ⟨-, bound⟩) | rfl
  · omega
  · omega
  · exact Nat.lt_of_le_of_lt bound (by decide)
  · decide

/-- What holds of all ASCII characters is checked one by one. -/
theorem forall_ascii {P : Char → Prop} (all : ∀ n < 128, P (Char.ofNat n)) {c : Char} (ascii : c.toNat < 128) :
    P c := by
  simpa using all c.toNat ascii

/-- An ASCII identifier is a word that does not start with a digit. -/
theorem isPlain_iff {name : String} :
    IsPlain name ↔ ∃ c rest, name.toList = c :: rest ∧ isWordChar c = true ∧ c.isDigit = false ∧
      ∀ d ∈ rest, isWordChar d = true := by
  -- On ASCII characters the table of identifiers is not looked at.
  have start : ∀ c : Char, c.toNat < 128 →
      (Text.isIdentifierStart c = true ↔ isWordChar c = true ∧ c.isDigit = false) := by
    intro c ascii
    have apart : (c.isAlpha || c = '_') = (isWordChar c && !c.isDigit) :=
      @forall_ascii (fun c => (c.isAlpha || c = '_') = (isWordChar c && !c.isDigit)) (by decide) c ascii
    rw [Text.isIdentifierStart, if_pos ascii, apart, Bool.and_eq_true, Bool.not_eq_true']
  have part : ∀ c : Char, c.toNat < 128 → Text.isIdentifierPart c = isWordChar c := by
    intro c ascii
    rw [Text.isIdentifierPart, if_pos ascii]
  constructor
  · rintro ⟨identifier, ascii⟩
    unfold isIdentifier at identifier
    split at identifier
    · cases identifier
    next c rest chars =>
      rw [chars] at ascii
      rw [Bool.and_eq_true, start c (ascii c (List.mem_cons_self ..)), List.all_eq_true] at identifier
      refine ⟨c, rest, chars, identifier.1.1, identifier.1.2, fun d member => ?_⟩
      exact (part d (ascii d (List.mem_cons_of_mem _ member))) ▸ identifier.2 d member
  · rintro ⟨c, rest, chars, first, noDigit, others⟩
    have ascii : ∀ d ∈ rest, d.toNat < 128 := fun d member => ascii_of_isWordChar (others d member)
    refine ⟨?_, ?_⟩
    · rw [isIdentifier, chars]
      simp only [Bool.and_eq_true, List.all_eq_true]
      exact ⟨(start c (ascii_of_isWordChar first)).mpr ⟨first, noDigit⟩,
        fun d member => (part d (ascii d member)).trans (others d member)⟩
    · rw [chars]
      exact List.forall_mem_cons.mpr ⟨ascii_of_isWordChar first, ascii⟩

theorem IsPlain.word {name : String} (plain : IsPlain name) : ∀ c ∈ name.toList, isWordChar c = true := by
  obtain ⟨c, rest, chars, first, -, others⟩ := isPlain_iff.mp plain
  rw [chars]
  exact List.forall_mem_cons.mpr ⟨first, others⟩

theorem IsPlain.ne_empty {name : String} (plain : IsPlain name) : name ≠ "" := by
  rintro rfl
  obtain ⟨c, rest, chars, -⟩ := isPlain_iff.mp plain
  cases chars

theorem IsPlain.append {name : String} (plain : IsPlain name) {more : String}
    (word : ∀ c ∈ more.toList, isWordChar c = true) : IsPlain (name ++ more) := by
  obtain ⟨c, rest, chars, first, noDigit, others⟩ := isPlain_iff.mp plain
  refine isPlain_iff.mpr ⟨c, rest ++ more.toList, ?_, first, noDigit, ?_⟩
  · rw [String.toList_append, chars, List.cons_append]
  · intro d member
    exact (List.mem_append.mp member).elim (others d) (word d)

/-! ### Derived names -/

theorem identifierChars_isPlain {s : List Char} (something : Name.identifierChars s ≠ []) :
    IsPlain (String.ofList (Name.identifierChars s)) := by
  rw [isPlain_iff, String.toList_ofList]
  have word : ∀ d ∈ (s.flatMap Text.baseChars).filter isWordChar, isWordChar d = true := fun d member =>
    (List.mem_filter.mp member).2
  unfold Name.identifierChars at something ⊢
  generalize (s.flatMap Text.baseChars).filter isWordChar = kept at something word ⊢
  -- Word characters are kept; only the first of them may be a digit, which gets an underscore in front.
  cases kept with
  | nil => exact absurd rfl something
  | cons c rest =>
    by_cases digit : c.isDigit = true
    · simp only [if_pos digit]
      exact ⟨'_', c :: rest, rfl, by decide, by decide, word⟩
    · simp only [if_neg digit]
      rw [List.forall_mem_cons] at word
      exact ⟨c, rest, rfl, word.1, by simpa using digit, word.2⟩

private theorem underscore_word : ∀ c ∈ "_".toList, isWordChar c = true := by
  simp [isWordChar]

theorem avoidKeyword_isPlain {name : String} (plain : IsPlain name) : IsPlain (Name.avoidKeyword name) := by
  unfold Name.avoidKeyword
  split
  · exact plain.append underscore_word
  · exact plain

theorem argument_isPlain (name : String) : IsPlain (Name.argument name) := by
  unfold Name.argument
  split
  · exact isPlain_iff.mpr ⟨'p', ['a', 'r', 'a', 'm'], by simp, by decide, by decide, by simp [isWordChar]⟩
  next something => exact avoidKeyword_isPlain (identifierChars_isPlain something)

theorem toString_word (n : Nat) : ∀ c ∈ (toString n).toList, isWordChar c = true := by
  intro c member
  rw [Nat.toString_eq_repr, Nat.toList_repr] at member
  have digit : c.isDigit = true := Nat.isDigit_of_mem_toDigits (by decide) (by decide) member
  simp [isWordChar, Char.isAlphanum, digit]

theorem freshName_isPlain (taken : List String) {name : String} (plain : IsPlain name) :
    IsPlain (freshName taken name) := by
  have apart : IsPlain (apartName name) := by
    unfold apartName
    split
    · exact plain.append underscore_word
    · exact plain
  rcases freshName_eq taken name with same | ⟨n, same⟩
  · exact same ▸ apart
  · exact same ▸ apart.append (toString_word n)

/-- A derived method name is an identifier unless nothing is left of it. -/
theorem member_isPlain {name : String} (something : Name.member name ≠ "") : IsPlain (Name.member name) := by
  unfold Name.member at something ⊢
  refine avoidKeyword_isPlain (identifierChars_isPlain fun nothing => something ?_)
  rw [nothing]
  decide

/-! ### Verbs -/

/-- The verbs of the protocol with a capital letter. -/
def verbTitles : List String :=
  ["Connect", "Delete", "Get", "Head", "Options", "Patch", "Post", "Put", "Trace"]

theorem tableEntries_ofList (letters : List Char) :
    Text.tableEntries (String.ofList letters) =
      (Text.splitAt ' ' (letters.map fun c => if c = '\n' then ' ' else c)).filter (!·.isEmpty) := by
  rw [Text.tableEntries, String.toList_ofList]

/-- A check of the runs of a table that is given by its letters, as they can be computed with. -/
theorem forall_runs (check : Text.CharRun → Bool) (letters : List Char)
    (all : (((Text.splitAt ' ' (letters.map fun c => if c = '\n' then ' ' else c)).filter
      (!·.isEmpty)).map Text.CharRun.ofText).all check = true) :
    ∀ run ∈ Text.CharMap.ofText (String.ofList letters), check run = true := by
  intro run member
  rw [Text.CharMap.ofText, tableEntries_ofList, List.mem_toArray] at member
  exact List.all_eq_true.mp all run member

set_option maxRecDepth 100000 in
/-- Lower case leads beyond ASCII, but for the sign of the kelvin. -/
theorem lowerRuns_far : ∀ run ∈ Text.lowerRuns,
    (128 ≤ run.target || run.target = 107 && run.count = 1 : Bool) = true := by
  unfold Text.lowerRuns
  refine forall_runs _ _ ?_
  decide +kernel

theorem ofNat_far {n : Nat} (far : 128 ≤ n) : 128 ≤ (Char.ofNat n).toNat ∨ (Char.ofNat n).toNat = 0 := by
  by_cases valid : n.isValidChar
  · left
    rwa [Char.ofNat, dif_pos valid]
  · right
    rw [Char.ofNat, dif_neg valid]
    rfl

/-- A table leaves a character as it is, or one of its runs says what becomes of it. -/
theorem apply_cases (map : Text.CharMap) (c : Char) :
    map.apply c = c ∨
      ∃ run ∈ map, ∃ k < run.count, map.apply c = Char.ofNat (run.target + k * run.targetStep) := by
  unfold Text.CharMap.apply
  split
  next run found =>
    -- The run that was looked up may end before the character, or step over it.
    by_cases inside : run.first ≤ c.toNat ∧ (c.toNat - run.first) % run.step = 0 ∧
        (c.toNat - run.first) / run.step < run.count
    · exact .inr ⟨run, Array.mem_of_getElem? found, _, inside.2.2, if_pos inside⟩
    · exact .inl (if_neg inside)
  · exact .inl rfl

/-- No character beyond ASCII has an ASCII lower case, but for the sign of the kelvin and the dotted
capital I. -/
theorem lowerChar_far {c : Char} (far : 128 ≤ c.toNat) (noDot : c.toNat ≠ 0x130) :
    128 ≤ (Text.lowerChar c).toNat ∨ (Text.lowerChar c).toNat = 0 ∨ Text.lowerChar c = 'k' := by
  rw [Text.lowerChar, if_neg (by omega), if_neg noDot]
  -- What the table leaves alone stays beyond ASCII, and so does whatever a run leads to, except for the kelvin.
  rcases apply_cases Text.lowerRuns c with same | ⟨run, member, k, bound, image⟩
  · rw [same]
    exact .inl far
  · have known := lowerRuns_far run member
    simp only [Bool.or_eq_true, Bool.and_eq_true, decide_eq_true_eq] at known
    rw [image]
    rcases known with target | ⟨kelvin, alone⟩
    · rcases ofNat_far (n := run.target + k * run.targetStep) (by omega) with far | null
      · exact .inl far
      · exact .inr (.inl null)
    · obtain rfl : k = 0 := by omega
      rw [kelvin, Nat.zero_mul]
      exact .inr (.inr rfl)

/-- A character whose lower case is plain is one that has the same lower case everywhere. -/
theorem lowerFrom_cons_of_plain {before rest : List Char} {c : Char}
    (plain : ∀ d ∈ Text.lowerFrom before (c :: rest), d.toNat < 128) :
    c.toNat ≠ 0x3a3 ∧ c.toNat ≠ 0x130 := by
  constructor
  -- A sigma becomes one of the two small sigmas, and neither is ASCII.
  · intro sigma
    have first := plain (if Text.startsCased before && !Text.startsCased rest then Char.ofNat 0x3c2
      else Char.ofNat 0x3c3) (by simp [Text.lowerFrom, sigma])
    revert first
    split <;> decide
  -- A dotted capital I leaves a combining dot behind.
  · intro dotted
    have second := plain (Char.ofNat 0x307) (by simp [Text.lowerFrom, dotted])
    revert second
    decide

theorem lowerFrom_eq_of_plain {before s : List Char} (other : List Char)
    (plain : ∀ d ∈ Text.lowerFrom before s, d.toNat < 128) :
    Text.lowerFrom other s = Text.lowerFrom before s := by
  induction s generalizing before other with
  | nil => rfl
  | cons c rest ih =>
    obtain ⟨noSigma, noDot⟩ := lowerFrom_cons_of_plain plain
    simp only [Text.lowerFrom, noSigma, noDot, if_false, List.singleton_append, List.mem_cons,
      forall_eq_or_imp] at plain ⊢
    rw [ih (c :: other) plain.2]

theorem lowerList_tail {c : Char} {rest : List Char}
    (plain : ∀ d ∈ Text.lowerList (c :: rest), d.toNat < 128) :
    Text.lowerList rest = (Text.lowerList (c :: rest)).tail := by
  obtain ⟨noSigma, noDot⟩ := lowerFrom_cons_of_plain plain
  unfold Text.lowerList at plain ⊢
  simp only [Text.lowerFrom, noSigma, noDot, if_false, List.singleton_append, List.mem_cons,
    forall_eq_or_imp, List.tail_cons] at plain ⊢
  exact lowerFrom_eq_of_plain [] plain.2

private theorem httpVerbs_plain : ∀ word ∈ Schema.httpVerbs, (word.toList.all fun d => d.toNat < 128) = true := by
  decide

theorem httpVerbs_titles : ∀ word ∈ Schema.httpVerbs, ∃ c rest, word.toList = c :: rest ∧ c ≠ 'k' ∧
    c.toNat ≠ 0 ∧ String.ofList (c.toUpper :: rest) ∈ verbTitles := by
  simp [Schema.httpVerbs, verbTitles]

theorem verbTitles_not_keyword : ∀ title ∈ verbTitles, title ∉ Name.keywords := by
  decide

theorem verbTitles_isPlain : ∀ title ∈ verbTitles, IsPlain title := by
  decide

/-- The title of a verb is its lower case with a capital letter. -/
theorem title_eq {verb : String} (known : Schema.isVerb verb = true) :
    ∃ c rest, (Text.lower verb).toList = c :: rest ∧ Text.title verb = String.ofList (c.toUpper :: rest) := by
  have listed : Text.lower verb ∈ Schema.httpVerbs := by simpa [Schema.isVerb] using known
  have plain := fun d member => decide_eq_true_iff.mp (List.all_eq_true.mp (httpVerbs_plain _ listed) d member)
  obtain ⟨d, tail, letters, noKelvin, noNull, -⟩ := httpVerbs_titles _ listed
  refine ⟨d, tail, letters, ?_⟩
  rw [letters] at plain
  rw [Text.lower, String.toList_ofList] at letters
  rw [Text.title]
  cases chars : verb.toList with
  | nil =>
    rw [chars] at letters
    cases letters
  | cons c rest =>
    rw [chars] at letters
    -- The lower case of a verb is ASCII, which rules out all letters with a lower case of their own.
    have lowered : ∀ e ∈ Text.lowerList (c :: rest), e.toNat < 128 := letters ▸ plain
    obtain ⟨noSigma, noDot⟩ := lowerFrom_cons_of_plain lowered
    have others : Text.lowerList rest = tail := by rw [lowerList_tail lowered, letters, List.tail_cons]
    have first : Text.lowerChar c = d := by
      unfold Text.lowerList Text.lowerFrom at letters
      simp only [if_neg noSigma, if_neg noDot, List.singleton_append] at letters
      exact (List.cons.inj letters).1
    -- The first letter is ASCII: what else has an ASCII lower case starts no verb.
    have ascii : c.toNat < 128 := by
      by_contra far
      have small := plain d (List.mem_cons_self ..)
      have cases := lowerChar_far (Nat.le_of_not_lt far) noDot
      rw [first] at cases
      rcases cases with far | null | kelvin
      · omega
      · exact noNull null
      · exact noKelvin kelvin
    have upper : Text.upperChars c = [d.toUpper] := by
      rw [Text.upperChars, if_pos ascii, ← first, Text.lowerChar, if_pos ascii]
      exact @forall_ascii (fun c => [c.toUpper] = [c.toLower.toUpper]) (by decide) c ascii
    rw [Text.titleList, upper, others]
    rfl

theorem title_mem {verb : String} (known : Schema.isVerb verb = true) : Text.title verb ∈ verbTitles := by
  have listed : Text.lower verb ∈ Schema.httpVerbs := by simpa [Schema.isVerb] using known
  obtain ⟨c, rest, letters, title⟩ := title_eq known
  obtain ⟨d, tail, same, -, -, titled⟩ := httpVerbs_titles _ listed
  rw [letters] at same
  obtain ⟨rfl, rfl⟩ := List.cons.inj same
  exact title ▸ titled

theorem httpVerbs_lower : ∀ word ∈ Schema.httpVerbs, ∀ c ∈ word.toList.head?, c.toUpper.toLower = c := by
  simp [Schema.httpVerbs]

/-- Verbs of one title are the same but for case. -/
theorem lower_eq_of_title_eq {first second : String} (left : Schema.isVerb first = true)
    (right : Schema.isVerb second = true) (same : Text.title first = Text.title second) :
    Text.lower first = Text.lower second := by
  have small : ∀ verb, Schema.isVerb verb = true → ∀ c ∈ (Text.lower verb).toList.head?, c.toUpper.toLower = c :=
    fun verb known => httpVerbs_lower _ (by simpa [Schema.isVerb] using known)
  obtain ⟨c, rest, letters, title⟩ := title_eq left
  obtain ⟨d, tail, letters', title'⟩ := title_eq right
  rw [title, title', String.ofList_inj] at same
  obtain ⟨upper, rfl⟩ := List.cons.inj same
  have first_small := small first left c (by simp [letters])
  have second_small := small second right d (by simp [letters'])
  -- The first letters are small, so they come back from their capitals.
  have letter : c = d := by rw [← first_small, upper, second_small]
  exact String.toList_inj.mp (by rw [letters, letters', letter])

/-! ### APIs and versions -/

/-- A text of ASCII letters that is not empty, as the names of APIs are. -/
structure IsLetters (name : String) : Prop where
  something : name ≠ ""
  letters : ∀ c ∈ name.toList, c.isAlpha = true

theorem isWordChar_of_isAlpha {c : Char} (letter : c.isAlpha = true) : isWordChar c = true := by
  simp [isWordChar, Char.isAlphanum, letter]

theorem IsLetters.exists_cons {name : String} (letters : IsLetters name) :
    ∃ c rest, name.toList = c :: rest ∧ c.isAlpha = true ∧ ∀ d ∈ rest, d.isAlpha = true := by
  obtain ⟨c, rest, chars⟩ := List.exists_cons_of_ne_nil fun nothing =>
    letters.something (String.toList_eq_nil_iff.mp nothing)
  have known := letters.letters
  rw [chars, List.forall_mem_cons] at known
  exact ⟨c, rest, chars, known⟩

theorem IsLetters.isPlain {name : String} (letters : IsLetters name) : IsPlain name := by
  obtain ⟨c, rest, chars, letter, others⟩ := letters.exists_cons
  have word := isWordChar_of_isAlpha letter
  have noDigit := @forall_ascii (fun c => c.isAlpha = true → c.isDigit = false) (by decide) c
    (ascii_of_isWordChar word) letter
  exact isPlain_iff.mpr ⟨c, rest, chars, word, noDigit, fun d member => isWordChar_of_isAlpha (others d member)⟩

theorem versionSuffix_word (version : String) : ∀ c ∈ (Name.versionSuffix version).toList, isWordChar c = true := by
  intro c member
  rw [Name.versionSuffix, String.toList_ofList] at member
  obtain ⟨d, -, rfl⟩ := List.mem_map.mp member
  split
  next word => exact word
  · decide

/-- The class of a version has an identifier for its name. -/
theorem versionClass_isPlain {api : String} (plain : IsPlain api) (version : String) :
    IsPlain (Name.versionClass api version) :=
  (plain.append underscore_word).append (versionSuffix_word version)

theorem keywords_without_underscore : ∀ keyword ∈ Name.keywords, '_' ∉ keyword.toList := by
  decide

theorem versionClass_not_keyword (api version : String) : Name.versionClass api version ∉ Name.keywords := by
  intro member
  refine keywords_without_underscore _ member ?_
  simp [Name.versionClass, String.toList_append]

theorem lowerFrom_letters {s : List Char} (letters : ∀ c ∈ s, c.isAlpha = true) (before : List Char) :
    Text.lowerFrom before s = s.map Char.toLower := by
  induction s generalizing before with
  | nil => rfl
  | cons c rest ih =>
    rw [List.forall_mem_cons] at letters
    have ascii := ascii_of_isWordChar (isWordChar_of_isAlpha letters.1)
    rw [Text.lowerFrom, if_neg (by omega), if_neg (by omega), ih letters.2, Text.lowerChar, if_pos ascii]
    rfl

/-- The title of letters: a capital letter, and the others. -/
theorem titleList_letters {c : Char} {rest : List Char} (letters : ∀ d ∈ c :: rest, d.isAlpha = true) :
    Text.titleList (c :: rest) = c.toUpper :: rest.map Char.toLower := by
  rw [List.forall_mem_cons] at letters
  have ascii := ascii_of_isWordChar (isWordChar_of_isAlpha letters.1)
  rw [Text.titleList, Text.upperChars, if_pos ascii, Text.lowerList, lowerFrom_letters letters.2]
  rfl

theorem toUpper_isUpper {c : Char} (letter : c.isAlpha = true) : c.toUpper.isUpper = true :=
  @forall_ascii (fun c => c.isAlpha = true → c.toUpper.isUpper = true) (by decide) c
    (ascii_of_isWordChar (isWordChar_of_isAlpha letter)) letter

theorem toLower_isAlpha {c : Char} (letter : c.isAlpha = true) : c.toLower.isAlpha = true :=
  @forall_ascii (fun c => c.isAlpha = true → c.toLower.isAlpha = true) (by decide) c
    (ascii_of_isWordChar (isWordChar_of_isAlpha letter)) letter

/-! ### Pieces between breaks -/

theorem splitOnAny_eq_splitOnP (isBreak : Char → Bool) (s : List Char) :
    Name.splitOnAny isBreak s = s.splitOnP isBreak := by
  induction s with
  | nil => rfl
  | cons c rest ih =>
    rw [Name.splitOnAny, List.splitOnP_cons_eq_if_modifyHead, ih]
    refine congrArg _ ?_
    cases pieces : rest.splitOnP isBreak with
    | nil => exact (List.splitOnP_ne_nil isBreak rest pieces).elim
    | cons piece others => rfl

theorem splitOnAny_of_none {isBreak : Char → Bool} {s : List Char} (none : ∀ c ∈ s, isBreak c = false) :
    Name.splitOnAny isBreak s = [s] := by
  rw [splitOnAny_eq_splitOnP, List.splitOnP_eq_singleton none]

theorem splitOnAny_append_cons {isBreak : Char → Bool} {s rest : List Char} {b : Char}
    (none : ∀ c ∈ s, isBreak c = false) (broken : isBreak b = true) :
    Name.splitOnAny isBreak (s ++ b :: rest) = s :: Name.splitOnAny isBreak rest := by
  rw [splitOnAny_eq_splitOnP, splitOnAny_eq_splitOnP, List.splitOnP_append_cons_of_forall_mem none b broken]

/-- Pieces have the characters of the text that are no breaks. -/
theorem mem_splitOnAny {isBreak : Char → Bool} {s piece : List Char}
    (member : piece ∈ Name.splitOnAny isBreak s) : ∀ c ∈ piece, c ∈ s ∧ isBreak c = false := by
  induction s generalizing piece with
  | nil =>
    obtain rfl : piece = [] := by simpa [Name.splitOnAny] using member
    simp
  | cons d rest ih =>
    unfold Name.splitOnAny at member
    -- At a break a new piece starts; any other character goes to the front of the first piece.
    by_cases isBreak' : isBreak d = true
    · rw [if_pos isBreak'] at member
      rcases List.mem_cons.mp member with rfl | later
      · simp
      · exact fun c among => (ih later c among).imp_left (List.mem_cons_of_mem _)
    · rw [if_neg isBreak'] at member
      cases pieces : Name.splitOnAny isBreak rest with
      | nil =>
        obtain rfl : piece = [d] := by simpa [pieces] using member
        simpa using isBreak'
      | cons first others =>
        simp only [pieces, List.mem_cons] at member ih
        rcases member with rfl | later
        · refine List.forall_mem_cons.mpr ⟨⟨List.mem_cons_self .., by simpa using isBreak'⟩, fun c among => ?_⟩
          exact (ih (.inl rfl) c among).imp_left (List.mem_cons_of_mem _)
        · exact fun c among => (ih (.inr later) c among).imp_left (List.mem_cons_of_mem _)

/-- A character of a text is a break or in a piece. -/
theorem mem_splitOnAny_or_break {isBreak : Char → Bool} {s : List Char} {c : Char} (member : c ∈ s) :
    isBreak c = true ∨ ∃ piece ∈ Name.splitOnAny isBreak s, c ∈ piece := by
  induction s with
  | nil => cases member
  | cons d rest ih =>
    unfold Name.splitOnAny
    by_cases broken : isBreak d = true
    · rw [if_pos broken]
      rcases List.mem_cons.mp member with rfl | later
      · exact .inl broken
      · refine (ih later).imp_right fun ⟨piece, among, inside⟩ => ?_
        exact ⟨piece, List.mem_cons_of_mem _ among, inside⟩
    · rw [if_neg broken]
      -- A character that is no break joins the first piece of what follows it.
      cases pieces : Name.splitOnAny isBreak rest with
      | nil =>
        rcases List.mem_cons.mp member with rfl | later
        · exact .inr ⟨_, List.mem_singleton_self _, List.mem_singleton_self _⟩
        · refine (ih later).imp_right fun ⟨piece, among, _⟩ => ?_
          rw [pieces] at among
          cases among
      | cons first others =>
        rcases List.mem_cons.mp member with rfl | later
        · exact .inr ⟨_, List.mem_cons_self .., List.mem_cons_self ..⟩
        · refine (ih later).imp_right fun ⟨piece, among, inside⟩ => ?_
          rw [pieces] at among
          rcases List.mem_cons.mp among with rfl | other
          · exact ⟨_, List.mem_cons_self .., List.mem_cons_of_mem _ inside⟩
          · exact ⟨piece, List.mem_cons_of_mem _ other, inside⟩

/-- Titles of letters one after another are letters, the first one a capital. -/
theorem flatMap_titleList {pieces : List (List Char)}
    (letters : ∀ piece ∈ pieces, ∀ c ∈ piece, c.isAlpha = true) :
    (∀ c ∈ pieces.flatMap Text.titleList, c.isAlpha = true) ∧
      ∀ c ∈ (pieces.flatMap Text.titleList).head?, c.isUpper = true := by
  induction pieces with
  | nil => simp
  | cons piece others ih =>
    rw [List.forall_mem_cons] at letters
    obtain ⟨alpha, capital⟩ := ih letters.2
    cases piece with
    | nil => exact ⟨alpha, capital⟩
    | cons c rest =>
      have first := toUpper_isUpper (letters.1 c (List.mem_cons_self ..))
      rw [List.flatMap_cons, titleList_letters letters.1]
      refine ⟨fun d member => ?_, fun d member => ?_⟩
      · rcases List.mem_append.mp member with here | later
        · rcases List.mem_cons.mp here with rfl | lowered
          · exact isAlpha_iff.mpr (.inl first)
          · obtain ⟨e, among, rfl⟩ := List.mem_map.mp lowered
            exact toLower_isAlpha (letters.1 e (List.mem_cons_of_mem _ among))
        · exact alpha d later
      · rw [List.cons_append, List.head?_cons, Option.mem_some_iff] at member
        exact member ▸ first

theorem hostLabel?_chars {s label : List Char} (found : Name.hostLabel? s = some label) :
    ∀ c ∈ label, Name.isLabelChar c = true := by
  induction s with
  | nil => cases found
  | cons c rest ih =>
    unfold Name.hostLabel? at found
    split at found
    · split at found
      next l label' after taken _ =>
        cases found
        exact fun d member => List.mem_takeWhile_imp (taken ▸ member)
      · exact ih found
    · exact ih found

/-- The name that an API gets from its address consists of letters, the first one a capital. -/
theorem api?_isLetters {url name : String} (found : Name.api? url = some name) :
    IsLetters name ∧ ∀ c ∈ name.toList.head?, c.isUpper = true := by
  unfold Name.api? at found
  split at found
  · cases found
  · cases found
  next chars something same =>
    cases found
    obtain ⟨label, here, rfl⟩ := Option.map_eq_some_iff.mp same
    -- Between the hyphens of a label there are letters only.
    have pieces : ∀ piece ∈ Name.splitOnAny (· = '-') label, ∀ c ∈ piece, c.isAlpha = true := by
      intro piece member c among
      obtain ⟨inside, noHyphen⟩ := mem_splitOnAny member c among
      simpa [Name.isLabelChar, decide_eq_false_iff_not.mp noHyphen] using hostLabel?_chars here c inside
    obtain ⟨alpha, capital⟩ := flatMap_titleList pieces
    refine ⟨⟨fun empty => ?_, ?_⟩, ?_⟩
    · exact something (by simpa using empty)
    · rw [String.toList_ofList]
      exact alpha
    · rw [String.toList_ofList]
      exact capital

end Bindery
