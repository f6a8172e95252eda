import Bindery.Proofs.Method.Placement
import Mathlib.Data.List.Chain
import Mathlib.Data.List.Perm.Subperm

/-!
# Interpolation

Putting a value into a URL splits one literal at most. What the URL spells stays the same if the
value spells the text that it takes the place of.
-/
namespace Bindery

/-- What a URL spells, if it is known what its values spell. -/
def spelled? (spell : Value → Option (List Char)) : List UrlPart → Option (List Char)
  | [] => some []
  | .text literal :: rest => (spelled? spell rest).map (literal.toList ++ ·)
  | .value value :: rest => (spell value).bind fun text => (spelled? spell rest).map (text ++ ·)

def urlValues : List UrlPart → List Value
  | [] => []
  | .text _ :: rest => urlValues rest
  | .value value :: rest => value :: urlValues rest

/-- Two neighbouring parts of a URL of which one is a value. -/
def UrlPart.Apart : UrlPart → UrlPart → Prop
  | .text _, .text _ => False
  | _, _ => True

theorem spelled?_append (spell : Value → Option (List Char)) (front back : List UrlPart) :
    spelled? spell (front ++ back) =
      (spelled? spell front).bind fun text => (spelled? spell back).map (text ++ ·) := by
  induction front with
  | nil => simp [spelled?]
  | cons part front ih =>
    cases part with
    | text literal =>
      simp only [List.cons_append, spelled?, ih]
      -- Whether the front can be spelled decides for both sides.
      cases spelled? spell front with
      | none => rfl
      | some text => simp [Function.comp_def]
    | value value =>
      simp only [List.cons_append, spelled?, ih]
      cases spell value with
      | none => rfl
      | some first =>
        cases spelled? spell front with
        | none => rfl
        | some text => simp [Function.comp_def]

@[simp]
theorem urlValues_append (front back : List UrlPart) :
    urlValues (front ++ back) = urlValues front ++ urlValues back := by
  induction front with
  | nil => rfl
  | cons part front ih => cases part <;> simp [urlValues, ih]

@[simp]
theorem spelled?_literalPart (spell : Value → Option (List Char)) (text : List Char) :
    spelled? spell (literalPart text) = some text := by
  cases text <;> simp [literalPart, spelled?]

@[simp]
theorem urlValues_literalPart (text : List Char) : urlValues (literalPart text) = [] := by
  cases text <;> rfl

/-! ### One value -/

theorem splitOnce_eq_some {piece s before after : List Char} (found : splitOnce piece s = some (before, after)) :
    s = before ++ piece ++ after := by
  induction s generalizing before with
  | nil =>
    unfold splitOnce at found
    split at found
    next empty =>
      cases found
      simpa using empty.symm
    · cases found
  | cons c rest ih =>
    unfold splitOnce at found
    -- It is found here, or after the first letter, which then belongs to the text before it.
    split at found
    next here =>
      cases found
      obtain ⟨after, same⟩ := List.isPrefixOf_iff_prefix.mp here
      simp [← same]
    next =>
      obtain ⟨⟨earlier, last⟩, later, same⟩ := Option.map_eq_some_iff.mp found
      cases same
      simpa using ih later

/-- A URL stays as it is, or one of its literals falls apart around the value. -/
theorem interpolate_cases (placeholder : String) (value : Value) (parts : List UrlPart) :
    interpolate placeholder value parts = parts ∨
      ∃ front literal back before after, parts = front ++ .text literal :: back ∧
        literal.toList = before ++ placeholder.toList ++ after ∧
        interpolate placeholder value parts =
          front ++ literalPart before ++ .value value :: (literalPart after ++ back) := by
  induction parts with
  | nil => exact .inl rfl
  | cons part rest ih =>
    cases part with
    | text literal =>
      unfold interpolate
      -- Interpolation stops at the first literal with the placeholder. Before it every part is kept.
      cases found : splitOnce placeholder.toList literal.toList with
      | some split =>
        obtain ⟨before, after⟩ := split
        exact .inr ⟨[], literal, rest, before, after, rfl, splitOnce_eq_some found, by simp⟩
      | none =>
        rcases ih with same | ⟨front, other, back, before, after, rfl, split, result⟩
        · exact .inl (congrArg _ same)
        · exact .inr ⟨.text literal :: front, other, back, before, after, rfl, split, by simp [result]⟩
    | value other =>
      unfold interpolate
      rcases ih with same | ⟨front, literal, back, before, after, rfl, split, result⟩
      · exact .inl (congrArg _ same)
      · exact .inr ⟨.value other :: front, literal, back, before, after, rfl, split, by simp [result]⟩

theorem spelled?_interpolate {spell : Value → Option (List Char)} {placeholder : String} {value : Value}
    (same : spell value = some placeholder.toList) (parts : List UrlPart) :
    spelled? spell (interpolate placeholder value parts) = spelled? spell parts := by
  rcases interpolate_cases placeholder value parts with
    unchanged | ⟨front, literal, back, before, after, rfl, split, result⟩
  · rw [unchanged]
  · rw [result]
    -- The literal spelled the text before, the placeholder and the text after; the value spells the placeholder.
    simp only [spelled?_append, spelled?, spelled?_literalPart, same, split]
    cases spelled? spell front with
    | none => rfl
    | some text =>
      cases spelled? spell back with
      | none => rfl
      | some rest => simp

/-- The values of a URL are those that were there, with the new one if it found its place. -/
theorem urlValues_interpolate (placeholder : String) (value : Value) (parts : List UrlPart) :
    (urlValues (interpolate placeholder value parts)).Subperm (value :: urlValues parts) := by
  rcases interpolate_cases placeholder value parts with
    unchanged | ⟨front, literal, back, before, after, rfl, -, result⟩
  · rw [unchanged]
    exact (List.sublist_cons_self ..).subperm
  · rw [result]
    simp only [urlValues_append, urlValues, urlValues_literalPart, List.append_nil, List.nil_append]
    exact List.perm_middle.subperm

private theorem apart_value (part : UrlPart) (value : Value) : part.Apart (.value value) := by
  cases part <;> trivial

private theorem value_apart (value : Value) (part : UrlPart) : (UrlPart.value value).Apart part := by
  cases part <;> trivial

private theorem chain_value {front : List UrlPart} {last : UrlPart}
    (chain : (front ++ [last]).IsChain UrlPart.Apart) (value : Value) :
    (front ++ [UrlPart.value value]).IsChain UrlPart.Apart := by
  cases front using List.reverseRec with
  | nil => exact .singleton _
  | append_singleton front other _ =>
    rw [List.append_assoc, List.singleton_append, List.isChain_append_cons_cons] at chain ⊢
    exact ⟨chain.1, apart_value other value, .singleton _⟩

private theorem chain_text {front : List UrlPart} {literal : String}
    (chain : (front ++ [UrlPart.text literal]).IsChain UrlPart.Apart) (other : String) :
    (front ++ [UrlPart.text other]).IsChain UrlPart.Apart := by
  cases front using List.reverseRec with
  | nil => exact .singleton _
  | append_singleton front last _ =>
    rw [List.append_assoc, List.singleton_append, List.isChain_append_cons_cons] at chain ⊢
    refine ⟨chain.1, ?_, .singleton _⟩
    cases last with
    | text _ => exact chain.2.1
    | value _ => trivial

/-- Literals stay apart. -/
theorem apart_interpolate {parts : List UrlPart} (apart : parts.IsChain UrlPart.Apart)
    (placeholder : String) (value : Value) :
    (interpolate placeholder value parts).IsChain UrlPart.Apart := by
  rcases interpolate_cases placeholder value parts with
    unchanged | ⟨front, literal, back, before, after, rfl, -, result⟩
  · rwa [unchanged]
  · rw [result]
    -- Cut the chain at the literal: its left end is checked with what came before, its right end with what comes.
    obtain ⟨left, right⟩ := List.isChain_split.mp apart
    refine List.isChain_split.mpr ⟨?_, ?_⟩
    -- An empty text before the value leaves no literal, and then the value is next to what was before.
    · cases before with
      | nil => simpa [literalPart] using chain_value left value
      | cons c before =>
        simp only [literalPart, List.isEmpty_cons, Bool.false_eq_true, if_false, List.append_assoc,
          List.singleton_append]
        exact List.isChain_append_cons_cons.mpr ⟨chain_text left _, trivial, .singleton _⟩
    -- Likewise on the other side.
    · cases after with
      | nil =>
        cases back with
        | nil => exact .singleton _
        | cons part back =>
          rw [List.isChain_cons_cons] at right
          exact .cons_cons (value_apart value part) right.2
      | cons c after =>
        refine .cons_cons trivial ?_
        cases back with
        | nil => exact .singleton _
        | cons part back =>
          rw [List.isChain_cons_cons] at right
          refine .cons_cons ?_ right.2
          cases part with
          | text _ => exact right.1
          | value _ => trivial

/-- No literal becomes empty. -/
theorem filled_interpolate {parts : List UrlPart} (filled : UrlPart.text "" ∉ parts)
    (placeholder : String) (value : Value) : UrlPart.text "" ∉ interpolate placeholder value parts := by
  rcases interpolate_cases placeholder value parts with
    unchanged | ⟨front, literal, back, before, after, rfl, -, result⟩
  · rwa [unchanged]
  · rw [result]
    have literals : ∀ text, UrlPart.text "" ∉ literalPart text := by
      intro text
      cases text <;> simp [literalPart]
    simp only [List.mem_append, List.mem_cons, not_or] at filled ⊢
    exact ⟨⟨filled.1, literals before⟩, by simp, literals after, filled.2.2⟩

/-! ### Several values -/

/-- Values that spell the texts they take the place of. -/
def SpellsAll (spell : Value → Option (List Char)) (bindings : List UrlBinding) : Prop :=
  ∀ binding ∈ bindings, spell binding.2 = some binding.1.toList

theorem spelled?_bindAll {spell : Value → Option (List Char)} {bindings : List UrlBinding}
    (spells : SpellsAll spell bindings) (parts : List UrlPart) :
    spelled? spell (bindAll parts bindings) = spelled? spell parts := by
  induction bindings generalizing parts with
  | nil => rfl
  | cons binding rest ih =>
    have first := spells binding (List.mem_cons_self ..)
    have others : SpellsAll spell rest := fun other member => spells other (List.mem_cons_of_mem _ member)
    exact (ih others _).trans (spelled?_interpolate first parts)

theorem urlValues_bindAll (bindings : List UrlBinding) (parts : List UrlPart) :
    (urlValues (bindAll parts bindings)).Subperm (bindings.map Prod.snd ++ urlValues parts) := by
  induction bindings generalizing parts with
  | nil => exact List.Subperm.refl _
  | cons binding rest ih =>
    have first := urlValues_interpolate binding.1 binding.2 parts
    -- Values come to the front one by one, so what the rest adds is in another order.
    have moved : (rest.map Prod.snd ++ binding.2 :: urlValues parts).Perm
        ((binding :: rest).map Prod.snd ++ urlValues parts) := List.perm_middle
    exact ((ih _).trans ((List.subperm_append_left _).mpr first)).trans moved.subperm

/-- A URL that was one literal has no values but those put into it. -/
theorem urlValues_bindAll_text (bindings : List UrlBinding) (url : String) :
    (urlValues (bindAll [.text url] bindings)).Subperm (bindings.map Prod.snd) := by
  have values := urlValues_bindAll bindings [.text url]
  rwa [show urlValues [UrlPart.text url] = [] from rfl, List.append_nil] at values

theorem apart_bindAll (bindings : List UrlBinding) {parts : List UrlPart}
    (apart : parts.IsChain UrlPart.Apart) : (bindAll parts bindings).IsChain UrlPart.Apart := by
  induction bindings generalizing parts with
  | nil => exact apart
  | cons binding rest ih => exact ih (apart_interpolate apart binding.1 binding.2)

theorem filled_bindAll (bindings : List UrlBinding) {parts : List UrlPart}
    (filled : UrlPart.text "" ∉ parts) : UrlPart.text "" ∉ bindAll parts bindings := by
  induction bindings generalizing parts with
  | nil => exact filled
  | cons binding rest ih => exact ih (filled_interpolate filled binding.1 binding.2)

end Bindery
