import Bindery.Text.Quoted
import Mathlib.Data.Nat.Digits.Defs

/-!
# What quoted texts consist of

Whatever a text holds, its literal has printable characters only, apart from line breaks and tabs where
these stay as they are.
-/
namespace Bindery.Text

/-- Can the character stand in source? -/
def IsVisible (c : Char) : Prop := isPrintable c = true ∨ c = '\n' ∨ c = '\t'

theorem IsVisible.ne_null {c : Char} (visible : IsVisible c) : c ≠ '\x00' := by
  rintro rfl
  rcases visible with printable | line | tab
  · exact absurd printable (by decide)
  · exact absurd line (by decide)
  · exact absurd tab (by decide)

theorem digitChar_printable : ∀ d < 16, isPrintable (Nat.digitChar d) = true := by decide

theorem toDigits_printable (n : Nat) : ∀ c ∈ Nat.toDigits 16 n, isPrintable c = true := by
  -- On the number: all digits but the last are those of its quotient.
  induction n using Nat.strongRecOn with
  | ind n ih =>
    by_cases small : n < 16
    · rw [Nat.toDigits_of_lt_base small]
      simpa using digitChar_printable n small
    · rw [Nat.toDigits_of_base_le (by decide) (Nat.le_of_not_lt small), List.forall_mem_append]
      refine ⟨ih _ (by omega), ?_⟩
      simpa using digitChar_printable (n % 16) (by omega)

theorem hexDigits_printable (count n : Nat) : ∀ c ∈ hexDigits count n, isPrintable c = true := by
  simp only [hexDigits]
  rw [List.forall_mem_append]
  refine ⟨fun c member => ?_, toDigits_printable n⟩
  rw [(List.mem_replicate.mp member).2]
  decide

theorem escapeChar_printable (c : Char) : ∀ d ∈ escapeChar c, isPrintable d = true := by
  have backslash : isPrintable '\\' = true := by decide
  unfold escapeChar
  split
  · exact List.forall_mem_cons.mpr ⟨backslash, List.forall_mem_singleton.mpr backslash⟩
  split
  · exact List.forall_mem_cons.mpr ⟨backslash, List.forall_mem_singleton.mpr (by decide)⟩
  split
  · exact List.forall_mem_cons.mpr ⟨backslash, List.forall_mem_singleton.mpr (by decide)⟩
  split
  · exact List.forall_mem_cons.mpr ⟨backslash, List.forall_mem_singleton.mpr (by decide)⟩
  split
  · exact List.forall_mem_cons.mpr ⟨backslash, List.forall_mem_cons.mpr ⟨by decide, hexDigits_printable _ _⟩⟩
  split
  · exact List.forall_mem_cons.mpr ⟨backslash, List.forall_mem_cons.mpr ⟨by decide, hexDigits_printable _ _⟩⟩
  · exact List.forall_mem_cons.mpr ⟨backslash, List.forall_mem_cons.mpr ⟨by decide, hexDigits_printable _ _⟩⟩

theorem escaped_printable (c : Char) :
    ∀ d ∈ (if needsEscape c then escapeChar c else [c]), isPrintable d = true := by
  split
  · exact escapeChar_printable c
  next plain => simp_all [needsEscape]

theorem literalQuote_printable (s : List Char) : isPrintable (literalQuote s) = true := by
  unfold literalQuote
  split <;> decide

theorem literalBody_printable (s : List Char) : ∀ c ∈ literalBody s, isPrintable c = true := by
  intro c member
  obtain ⟨d, -, inside⟩ := List.mem_flatMap.mp member
  split at inside
  next quote =>
    rcases List.mem_cons.mp inside with rfl | same
    · decide
    · rw [List.mem_singleton.mp same, quote]
      exact literalQuote_printable s
  · exact escaped_printable d c inside

theorem literal_printable (s : String) : ∀ c ∈ (literal s).toList, isPrintable c = true := by
  have quote := literalQuote_printable s.toList
  simp only [literal, String.toList_ofList]
  rw [List.cons_append, List.forall_mem_cons, List.forall_mem_append, List.forall_mem_singleton]
  exact ⟨quote, literalBody_printable _, quote⟩

/-- What is enclosed can stand in source. -/
theorem enclose_visible (s : List Char) (allowed : List Quote) (escapeLayout : Bool) :
    ∀ c ∈ (enclose s allowed escapeLayout).body, IsVisible c := by
  -- What is escaped is printable, and what is left as it is was printable before or is layout.
  have escaped : ∀ c ∈ s.flatMap fun c =>
      if (c = '\n' ∨ c = '\t') ∧ !escapeLayout then [c]
      else if needsEscape c then escapeChar c else [c], IsVisible c := by
    intro c member
    obtain ⟨d, -, inside⟩ := List.mem_flatMap.mp member
    split at inside
    next layout =>
      obtain rfl := List.mem_singleton.mp inside
      exact .inr layout.1
    · exact .inl (escaped_printable d c inside)
  simp only [enclose]
  -- From here on it does not matter how the text was made, nor which quotes were allowed.
  generalize s.flatMap _ = text at escaped ⊢
  generalize (if '\n' ∈ text then allowed.filter Quote.isTriple else allowed) = fitting
  split
  · exact fun c member => .inl (literalBody_printable s c member)
  · exact escaped
  -- A final quote is escaped apart from the rest.
  next last final _ =>
    split
    · rw [List.forall_mem_append]
      refine ⟨fun c member => escaped c (List.dropLast_subset _ member), ?_⟩
      rw [List.forall_mem_cons, List.forall_mem_singleton]
      exact ⟨.inl (by decide), escaped last (List.mem_of_getLast? final)⟩
    · exact escaped

theorem Quote.text_visible (quote : Quote) : ∀ c ∈ quote.text, IsVisible c := by
  intro c member
  rw [(List.mem_replicate.mp member).2]
  cases quote <;> exact .inl (by decide)

theorem Enclosed.text_visible {enclosed : Enclosed} (body : ∀ c ∈ enclosed.body, IsVisible c) :
    ∀ c ∈ enclosed.text, IsVisible c := by
  have quote : ∀ c ∈ (enclosed.quotes.head?.map Quote.text).getD [], IsVisible c := by
    cases enclosed.quotes.head? with
    | none => simp
    | some first => exact first.text_visible
  rw [Enclosed.text, List.forall_mem_append, List.forall_mem_append]
  exact ⟨⟨quote, body⟩, quote⟩

theorem docstring_visible (s : String) : ∀ c ∈ (docstring s).toList, IsVisible c := by
  rw [docstring, String.toList_ofList]
  exact Enclosed.text_visible (enclose_visible _ _ _)

theorem innerLiteral_visible (s : String) : ∀ c ∈ (innerLiteral s).toList, IsVisible c := by
  rw [innerLiteral, String.toList_ofList]
  exact Enclosed.text_visible (enclose_visible _ _ _)

end Bindery.Text
