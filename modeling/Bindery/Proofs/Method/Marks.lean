import Bindery.Proofs.Method.Interpolation
import Bindery.Proofs.Path.Layout

/-!
# URLs as rows of letters and values

If literals are apart, a URL is known from its letters and values in a row, and interpolation
replaces the first occurrence of a text in that row.
-/
namespace Bindery

open Bindery.Path (IsToken)

/-- A letter or a value of a URL. -/
inductive Mark where
  | letter (c : Char)
  | value (value : Value)
  deriving DecidableEq

def letters (text : List Char) : List Mark := text.map Mark.letter

/-- The letters and values of a URL in a row. -/
def marks : List UrlPart → List Mark
  | [] => []
  | .text literal :: rest => letters literal.toList ++ marks rest
  | .value value :: rest => .value value :: marks rest

/-- Replace the first occurrence of a text by a value. -/
def replaceFirst (text : List Char) (value : Value) : List Mark → List Mark
  | [] => []
  | mark :: rest =>
    if (letters text).isPrefixOf (mark :: rest) then .value value :: (mark :: rest).drop text.length
    else mark :: replaceFirst text value rest

@[simp]
theorem letters_nil : letters [] = [] := rfl

@[simp]
theorem letters_append (x y : List Char) : letters (x ++ y) = letters x ++ letters y := List.map_append

@[simp]
theorem marks_append (front back : List UrlPart) : marks (front ++ back) = marks front ++ marks back := by
  induction front with
  | nil => rfl
  | cons part front ih => cases part <;> simp [marks, ih]

@[simp]
theorem marks_literalPart (text : List Char) : marks (literalPart text) = letters text := by
  cases text <;> simp [literalPart, marks]

/-! ### Occurrences -/

/-- Nothing is replaced among letters where the text does not occur. -/
theorem replaceFirst_skip {text : List Char} (value : Value) {x : List Char} {rest : List Mark}
    (absent : ∀ y z, x = y ++ z → z ≠ [] → ¬ letters text <+: letters z ++ rest) :
    replaceFirst text value (letters x ++ rest) = letters x ++ replaceFirst text value rest := by
  induction x with
  | nil => rfl
  | cons c x ih =>
    have here := absent [] (c :: x) rfl (by simp)
    have later := ih fun y z split something => absent (c :: y) z (by simp [split]) something
    have differs : ¬ (letters text).isPrefixOf (Mark.letter c :: (letters x ++ rest)) = true :=
      fun found => here (List.isPrefixOf_iff_prefix.mp found)
    calc replaceFirst text value (letters (c :: x) ++ rest)
        = .letter c :: replaceFirst text value (letters x ++ rest) := if_neg differs
      _ = letters (c :: x) ++ replaceFirst text value rest := by rw [later]; rfl

theorem replaceFirst_here {text : List Char} (something : text ≠ []) (value : Value) (rest : List Mark) :
    replaceFirst text value (letters text ++ rest) = .value value :: rest := by
  obtain ⟨c, text, rfl⟩ := List.exists_cons_of_ne_nil something
  have found : (letters (c :: text)).isPrefixOf (Mark.letter c :: (letters text ++ rest)) = true :=
    List.isPrefixOf_iff_prefix.mpr ⟨rest, rfl⟩
  calc replaceFirst (c :: text) value (letters (c :: text) ++ rest)
      = .value value :: (letters (c :: text) ++ rest).drop (c :: text).length := if_pos found
    _ = .value value :: rest := by simp [letters]

theorem replaceFirst_value {text : List Char} (something : text ≠ []) (value other : Value)
    (rest : List Mark) :
    replaceFirst text value (.value other :: rest) = .value other :: replaceFirst text value rest := by
  obtain ⟨c, text, rfl⟩ := List.exists_cons_of_ne_nil something
  rfl

/-- Marks that do not go on with a letter. -/
def EndsLetters (rest : List Mark) : Prop := ∀ c more, rest ≠ .letter c :: more

/-- An occurrence among letters ends with them. -/
theorem prefix_of_letters {text x : List Char} {rest : List Mark} (stops : EndsLetters rest)
    (here : letters text <+: letters x ++ rest) : text <+: x := by
  induction text generalizing x with
  | nil => exact List.nil_prefix
  | cons c text ih =>
    cases x with
    | nil =>
      obtain ⟨more, same⟩ := here
      -- The letters are over and the text is not, so it would have to go on in the rest.
      exact absurd same.symm (stops c _)
    | cons d x =>
      obtain ⟨same, deeper⟩ := List.cons_prefix_cons.mp here
      cases same
      exact List.cons_prefix_cons.mpr ⟨rfl, ih deeper⟩

/-! ### Splitting a literal -/

theorem splitOnce_eq_none {piece s : List Char} (absent : splitOnce piece s = none) (y z : List Char)
    (split : s = y ++ z) : ¬ piece <+: z := by
  induction s generalizing y with
  | nil =>
    unfold splitOnce at absent
    obtain ⟨rfl, rfl⟩ := List.append_eq_nil_iff.mp split.symm
    intro here
    rw [List.prefix_nil] at here
    simp [here] at absent
  -- An occurrence at the start is what the search looks for; any other is in the rest that it goes on with.
  | cons c rest ih =>
    unfold splitOnce at absent
    split at absent
    · cases absent
    next differs =>
      cases y with
      | nil =>
        intro here
        rw [List.nil_append] at split
        exact differs (List.isPrefixOf_iff_prefix.mpr (split ▸ here))
      | cons d y => exact ih (by simpa using absent) y (List.cons.inj split).2

/-- The text before the first occurrence has no earlier one. -/
theorem splitOnce_first {piece s before after : List Char}
    (found : splitOnce piece s = some (before, after)) (y z : List Char) (split : before = y ++ z)
    (something : z ≠ []) : ¬ piece <+: z ++ (piece ++ after) := by
  induction s generalizing before y with
  | nil =>
    unfold splitOnce at found
    split at found
    next =>
      cases found
      -- Found at once, there is no text before the occurrence, so none for an earlier one to start in.
      exact absurd (List.append_eq_nil_iff.mp split.symm).2 something
    · cases found
  | cons c rest ih =>
    unfold splitOnce at found
    split at found
    next =>
      cases found
      exact absurd (List.append_eq_nil_iff.mp split.symm).2 something
    next differs =>
      obtain ⟨⟨earlier, last⟩, later, same⟩ := Option.map_eq_some_iff.mp found
      cases same
      cases y with
      | nil =>
        -- An occurrence at the start of the whole text would have been found first.
        intro here
        rw [← List.nil_append z, ← split, List.cons_append, ← List.append_assoc,
          ← splitOnce_eq_some later] at here
        exact differs (List.isPrefixOf_iff_prefix.mpr here)
      | cons d y => exact ih later y (List.cons.inj split).2

theorem replaceFirst_literal {text : List Char} (something : text ≠ []) (value : Value)
    {literal : List Char} {rest : List Mark} (stops : EndsLetters rest) :
    replaceFirst text value (letters literal ++ rest) =
      match splitOnce text literal with
      | some (before, after) => letters before ++ .value value :: (letters after ++ rest)
      | none => letters literal ++ replaceFirst text value rest := by
  -- What follows the literal does not go on with letters, so an occurrence is within the literal.
  cases found : splitOnce text literal with
  | none =>
    refine replaceFirst_skip value fun y z split _ here => ?_
    exact splitOnce_eq_none found y z split (prefix_of_letters stops here)
  | some parts =>
    obtain ⟨before, after⟩ := parts
    have whole : letters literal ++ rest = letters before ++ (letters text ++ (letters after ++ rest)) := by
      rw [splitOnce_eq_some found]
      simp
    rw [whole, replaceFirst_skip, replaceFirst_here something]
    intro y z split nonempty here
    refine splitOnce_first found y z split nonempty (prefix_of_letters stops ?_)
    simpa using here

private theorem endsLetters_of_apart {literal : String} {rest : List UrlPart}
    (apart : (.text literal :: rest).IsChain UrlPart.Apart) : EndsLetters (marks rest) := by
  intro c more
  cases rest with
  | nil => simp [marks]
  | cons part rest =>
    cases part with
    | text other => exact absurd (List.isChain_cons_cons.mp apart).1 id
    | value value => simp [marks]

/-- Interpolation replaces the first occurrence. -/
theorem marks_interpolate {parts : List UrlPart} (apart : parts.IsChain UrlPart.Apart) {text : String}
    (something : text.toList ≠ []) (value : Value) :
    marks (interpolate text value parts) = replaceFirst text.toList value (marks parts) := by
  induction parts with
  | nil => rfl
  | cons part rest ih =>
    -- The literal has a value after it or nothing, which is what the lemma about one literal asks for.
    have later := ih apart.tail
    cases part with
    | text literal =>
      simp only [interpolate, marks, replaceFirst_literal something value (endsLetters_of_apart apart)]
      cases splitOnce text.toList literal.toList with
      | none => rw [marks, later]
      | some parts => simp [marks]
    | value other =>
      rw [marks, replaceFirst_value something, interpolate, marks, later]

/-! ### Places of values -/

/-- A value does not stand among letters. -/
theorem split_letters {x : List Char} {rest front back : List Mark} {value : Value}
    (split : letters x ++ rest = front ++ .value value :: back) :
    ∃ more, front = letters x ++ more ∧ rest = more ++ .value value :: back := by
  induction x generalizing front with
  | nil => exact ⟨front, rfl, split⟩
  | cons c x ih =>
    cases front with
    | nil => cases split
    | cons mark front =>
      obtain ⟨same, deeper⟩ := List.cons.inj split
      obtain ⟨more, rfl, rest⟩ := ih deeper
      exact ⟨more, by rw [← same]; rfl, rest⟩

/-- Where there is a value in the row, there is the value in the URL. -/
theorem split_marks {parts : List UrlPart} {front back : List Mark} {value : Value}
    (split : marks parts = front ++ .value value :: back) :
    ∃ left right, parts = left ++ .value value :: right ∧ marks left = front ∧ marks right = back := by
  induction parts generalizing front with
  | nil => cases front <;> cases split
  | cons part rest ih =>
    cases part with
    | text literal =>
      -- The value is behind the letters of the literal.
      obtain ⟨more, rfl, later⟩ := split_letters split
      obtain ⟨left, right, rfl, same, after⟩ := ih later
      exact ⟨.text literal :: left, right, rfl, by rw [marks, same], after⟩
    | value other =>
      cases front with
      | nil =>
        cases split
        exact ⟨[], rest, rfl, rfl, rfl⟩
      | cons mark front =>
        obtain ⟨here, deeper⟩ := List.cons.inj split
        obtain ⟨left, right, rfl, same, after⟩ := ih deeper
        exact ⟨.value other :: left, right, rfl, by rw [marks, same, here], after⟩

/-- What a row of letters and values spells. -/
def spelledMarks? (spell : Value → Option (List Char)) : List Mark → Option (List Char)
  | [] => some []
  | .letter c :: rest => (spelledMarks? spell rest).map (c :: ·)
  | .value value :: rest => (spell value).bind fun text => (spelledMarks? spell rest).map (text ++ ·)

theorem spelledMarks?_letters (spell : Value → Option (List Char)) (x : List Char) (rest : List Mark) :
    spelledMarks? spell (letters x ++ rest) = (spelledMarks? spell rest).map (x ++ ·) := by
  induction x with
  | nil => simp
  | cons c x ih =>
    have here : spelledMarks? spell (letters (c :: x) ++ rest) =
        (spelledMarks? spell (letters x ++ rest)).map (c :: ·) := rfl
    rw [here, ih, Option.map_map]
    rfl

theorem spelledMarks?_marks (spell : Value → Option (List Char)) (parts : List UrlPart) :
    spelledMarks? spell (marks parts) = spelled? spell parts := by
  induction parts with
  | nil => rfl
  | cons part rest ih =>
    cases part with
    | text literal => rw [marks, spelledMarks?_letters, ih, spelled?]
    | value value => rw [marks, spelledMarks?, ih, spelled?]

end Bindery
