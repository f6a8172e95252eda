import Bindery.Proofs.Pattern.Ways
import Mathlib.Algebra.BigOperators.Group.List.Basic
import Mathlib.Computability.Language

/-!
# Languages of patterns

A pattern of characters, sequences and repeated characters leads from a place over each word of its language that
follows there. Where no word of such a language starts another one, there is at most one way, and a text that consists of
matches and of filler between them is taken apart again.
-/
namespace Bindery

/-! ### Words with one end -/

/-- Does a text start with one word of a language at most? -/
def IsPrefixFree (words : Language Char) : Prop :=
  ∀ u ∈ words, ∀ v ∈ words, ∀ x y, u ++ x = v ++ y → u = v

theorem isPrefixFree_singleton (word : List Char) : IsPrefixFree {word} := by
  rintro u rfl v rfl x y -
  rfl

theorem IsPrefixFree.mul {first second : Language Char} (left : IsPrefixFree first) (right : IsPrefixFree second) :
    IsPrefixFree (first * second) := by
  intro u member v member' x y same
  obtain ⟨a, inFirst, b, inSecond, rfl⟩ := Language.mem_mul.mp member
  obtain ⟨a', inFirst', b', inSecond', rfl⟩ := Language.mem_mul.mp member'
  rw [List.append_assoc, List.append_assoc] at same
  -- The first parts agree, and so the texts behind them do.
  obtain rfl := left a inFirst a' inFirst' _ _ same
  rw [right b inSecond b' inSecond' x y (List.append_cancel_left same)]

/-- The words of some characters whose number is between two bounds. -/
def runsOf (holds : Char → Bool) (least : Nat) (most : Option Nat) : Language Char :=
  {word | (∀ c ∈ word, holds c = true) ∧ least ≤ word.length ∧ most.all (word.length ≤ ·) = true}

/-- Where a run comes to an end, the run before it does as well. -/
theorem run_end {holds : Char → Bool} {u v x y : List Char} {c d : Char} (inside : ∀ c ∈ u, holds c = true)
    (inside' : ∀ c ∈ v, holds c = true) (out : holds c = false) (out' : holds d = false)
    (same : u ++ c :: x = v ++ d :: y) : u = v := by
  -- The run is what can be taken of the text as long as the characters hold.
  have taken {word : List Char} {c : Char} (rest : List Char) (all : ∀ c ∈ word, holds c = true) (out : holds c = false) :
      (word ++ c :: rest).takeWhile holds = word := by
    rw [List.takeWhile_append_of_pos all, List.takeWhile_cons_of_neg (by simp [out]), List.append_nil]
  rw [← taken x inside out, same, taken y inside' out']

/-- A run is told from what follows by the first character that is not in it. -/
theorem isPrefixFree_run {holds : Char → Bool} {least : Nat} {most : Option Nat} {after : Language Char}
    (free : IsPrefixFree after) (ends : ∀ word ∈ after, ∃ c rest, word = c :: rest ∧ holds c = false) :
    IsPrefixFree (runsOf holds least most * after) := by
  intro u member v member' x y same
  obtain ⟨a, inside, b, following, rfl⟩ := Language.mem_mul.mp member
  obtain ⟨a', inside', b', following', rfl⟩ := Language.mem_mul.mp member'
  rw [List.append_assoc, List.append_assoc] at same
  obtain ⟨c, rest, start, out⟩ := ends b following
  obtain ⟨d, rest', start', out'⟩ := ends b' following'
  -- The runs agree, as both end at a character that is not in them.
  obtain rfl : a = a' := by
    rw [start, start'] at same
    exact run_end inside.1 inside'.1 out out' same
  rw [free b following b' following' x y (List.append_cancel_left same)]

namespace Cursor

theorem skip_skip (s : Cursor) (first second : Nat) : (s.skip first).skip second = s.skip (first + second) := by
  simp [skip, List.take_add, Nat.add_assoc]

@[simp]
theorem skip_zero (s : Cursor) : s.skip 0 = s := by simp [skip]

/-- What follows a word is next after it. -/
theorem rest_skip {s : Cursor} {word rest : List Char} (chars : s.rest = word ++ rest) : (s.skip word.length).rest = rest := by
  simp [skip, chars]

/-- The same place with one more group. -/
def fill (s : Cursor) (index : Nat) (text : List Char) : Cursor := { s with groups := (index, text) :: s.groups }

end Cursor

namespace Pattern

/-- Does a pattern lead over the words of a language, and nowhere else? -/
def Spells (pattern : Pattern) (words : Language Char) : Prop :=
  ∀ s t, t ∈ pattern.ways s ↔ ∃ word ∈ words, ∃ rest, s.rest = word ++ rest ∧ t = s.skip word.length

/-! ### Characters and sequences -/

theorem mem_ways_oneOf {items : List CharItem} {inside : Bool} {rule : CaseRule} {s t : Cursor} :
    t ∈ (oneOf items inside rule).ways s ↔
      ∃ c rest, s.rest = c :: rest ∧ (items.any (·.holds rule c) == inside) = true ∧ t = s.skip 1 := by
  rw [ways]
  cases chars : s.rest with
  | nil => simp
  | cons c rest =>
    dsimp only
    split
    next held => simp only [List.mem_singleton, List.cons.injEq]; grind
    next out => simp only [List.not_mem_nil, List.cons.injEq]; grind

def char (c : Char) : Pattern := oneOf [.range c.toNat c.toNat] true .exact

theorem holds_char (c d : Char) : ([CharItem.range c.toNat c.toNat].any (·.holds .exact d) == true) = (c == d) := by
  rw [List.any_cons, List.any_nil, Bool.or_false, CharItem.holds, if_pos rfl, CaseRule.same]
  by_cases same : c = d
  · simp [same]
  · have apart : c.toNat ≠ d.toNat := fun codes => same (Char.toNat_inj.mp codes)
    simp [same, apart]

theorem spells_char (c : Char) : (char c).Spells {[c]} := by
  intro s t
  simp only [char, mem_ways_oneOf, holds_char, beq_iff_eq]
  constructor
  · rintro ⟨_, rest, chars, rfl, rfl⟩
    exact ⟨_, rfl, rest, chars, rfl⟩
  · rintro ⟨_, rfl, rest, chars, rfl⟩
    exact ⟨c, rest, chars, rfl, rfl⟩

theorem Spells.seq {first second : Pattern} {words others : Language Char} (spells : first.Spells words)
    (spells' : second.Spells others) : (first.seq second).Spells (words * others) := by
  intro s t
  simp only [ways, List.mem_flatMap, spells s, spells' _ t, Language.mem_mul]
  constructor
  -- What is left after the first word starts with the second one.
  · rintro ⟨_, ⟨word, member, _, chars, rfl⟩, other, member', rest, chars', rfl⟩
    rw [Cursor.rest_skip chars] at chars'
    refine ⟨_, ⟨word, member, other, member', rfl⟩, rest, ?_, ?_⟩
    · rw [chars, chars', List.append_assoc]
    · rw [Cursor.skip_skip, List.length_append]
  · rintro ⟨_, ⟨word, member, other, member', rfl⟩, rest, chars, rfl⟩
    rw [List.append_assoc] at chars
    refine ⟨_, ⟨word, member, _, chars, rfl⟩, other, member', rest, Cursor.rest_skip chars, ?_⟩
    rw [Cursor.skip_skip, List.length_append]

/-- A text in front of a pattern. -/
def literal (text : List Char) (after : Pattern) : Pattern := text.foldr (fun c after => (char c).seq after) after

theorem singleton_cons_mul (c : Char) (text : List Char) (words : Language Char) :
    ({[c]} : Language Char) * ({text} * words) = {c :: text} * words := by
  ext word
  simp only [Language.mem_mul]
  constructor
  · rintro ⟨_, rfl, _, ⟨_, rfl, rest, member, rfl⟩, rfl⟩
    exact ⟨_, rfl, rest, member, rfl⟩
  · rintro ⟨_, rfl, rest, member, rfl⟩
    exact ⟨_, rfl, _, ⟨_, rfl, rest, member, rfl⟩, rfl⟩

theorem Spells.literal {after : Pattern} {words : Language Char} (spells : after.Spells words) (text : List Char) :
    (after.literal text).Spells ({text} * words) := by
  induction text with
  | nil => rwa [show ({[]} : Language Char) = 1 from rfl, one_mul]
  | cons c text ih => exact singleton_cons_mul c text words ▸ (spells_char c).seq ih

/-- The pattern of a text is spelled by this text alone. -/
theorem spells_text (text : List Char) (c : Char) : ((char c).literal text).Spells {text ++ [c]} := by
  have spells := (spells_char c).literal text
  rwa [show ({text} : Language Char) * {[c]} = {text ++ [c]} from Set.image2_singleton] at spells

/-! ### Repeated characters -/

theorem mem_repeatWays_succ {body : Cursor → List Cursor} {least : Nat} {most : Option Nat} {greedy : Bool}
    {budget count : Nat} {last : Option Nat} {s t : Cursor} :
    t ∈ repeatWays body least most greedy (budget + 1) count last s ↔
      least ≤ count ∧ t = s ∨
        (count < least ∨ most.all (count < ·) = true ∧ last ≠ some s.position) ∧
          ∃ place ∈ body s, t ∈ repeatWays body least most greedy budget (count + 1)
            (if count < least then last else some s.position) place := by
  rw [repeatWays]
  -- Below the least number there is no way out; above it, each round has to lead on.
  by_cases few : count < least
  · simp [few, Nat.not_le.mpr few]
  · by_cases more : most.all (count < ·) = true ∧ last ≠ some s.position <;>
      cases greedy <;> simp [few, Nat.not_lt.mp few, more, or_comm]

/-- A repetition of one character leads over the characters that the body holds, as many as are allowed. -/
theorem mem_repeatWays {holds : Char → Bool} {body : Cursor → List Cursor}
    (one : ∀ s t, t ∈ body s ↔ ∃ c rest, s.rest = c :: rest ∧ holds c = true ∧ t = s.skip 1)
    {least : Nat} {most : Option Nat} (bounds : most.all (least ≤ ·) = true) {greedy : Bool} {t : Cursor}
    {budget count : Nat} {last : Option Nat} {s : Cursor} (enough : s.rest.length < budget)
    (moved : ∀ position ∈ last, position < s.position) (within : most.all (count ≤ ·) = true) :
    t ∈ repeatWays body least most greedy budget count last s ↔
      ∃ word, (∀ c ∈ word, holds c = true) ∧ least ≤ count + word.length ∧ most.all (count + word.length ≤ ·) = true ∧
        ∃ rest, s.rest = word ++ rest ∧ t = s.skip word.length := by
  induction budget generalizing count last s with
  | zero => exact absurd enough (Nat.not_lt_zero _)
  | succ budget ih =>
    -- One more character leads to a place from which the rest of the word is read.
    have further {c : Char} {rest : List Char} (chars : s.rest = c :: rest)
        (more : count < least ∨ most.all (count < ·) = true) :=
      @ih (count + 1) (if count < least then last else some s.position) (s.skip 1)
        (by simp only [Cursor.skip, List.length_drop]; rw [chars] at enough ⊢; simp at enough ⊢; omega)
        (by
          intro position known
          split at known
          · exact Nat.lt_succ_of_lt (moved position known)
          · cases known
            exact Nat.lt_succ_self _)
        (by cases most <;> simp_all; omega)
    rw [mem_repeatWays_succ]
    constructor
    -- Either the repetition ends here with no word, or one more character is read in front of the rest.
    · rintro (⟨reached, rfl⟩ | ⟨more, place, leads, later⟩)
      · exact ⟨[], by simp, reached, within, t.rest, rfl, (Cursor.skip_zero t).symm⟩
      · obtain ⟨c, rest, chars, held, rfl⟩ := (one s place).mp leads
        obtain ⟨word, all, low, high, rest', chars', rfl⟩ := (further chars (more.imp_right And.left)).mp later
        have start : (s.skip 1).rest = rest := @Cursor.rest_skip s [c] rest chars
        refine ⟨c :: word, List.forall_mem_cons.mpr ⟨held, all⟩, ?_, ?_, rest', ?_, ?_⟩
        · rw [List.length_cons]; omega
        · rwa [List.length_cons, ← Nat.add_assoc, Nat.add_right_comm]
        · rw [chars, ← start, chars', List.cons_append]
        · rw [Cursor.skip_skip, List.length_cons, Nat.add_comm]
    -- A word with a character left is read on, and the place has moved since the last round.
    · rintro ⟨word, all, low, high, rest, chars, rfl⟩
      cases word with
      | nil => exact .inl ⟨low, Cursor.skip_zero s⟩
      | cons c word =>
        rw [List.forall_mem_cons] at all
        rw [List.length_cons] at low high
        have more : count < least ∨ most.all (count < ·) = true := .inr (by cases most <;> simp_all; omega)
        refine .inr ⟨more.imp_right fun below => ⟨below, fun known => Nat.lt_irrefl _ (moved _ known)⟩, s.skip 1, ?_, ?_⟩
        · exact (one ..).mpr ⟨c, word ++ rest, chars, all.1, rfl⟩
        · refine (further chars more).mpr ⟨word, all.2, ?_, ?_, rest, @Cursor.rest_skip s [c] _ chars, ?_⟩
          · omega
          · rwa [Nat.add_right_comm, Nat.add_assoc]
          · rw [Cursor.skip_skip, List.length_cons, Nat.add_comm]

theorem spells_repeated {holds : Char → Bool} {items : List CharItem} {inside : Bool} {rule : CaseRule} {least : Nat}
    {most : Option Nat} (same : ∀ c, (items.any (·.holds rule c) == inside) = holds c)
    (bounds : most.all (least ≤ ·) = true) (greedy : Bool) :
    (repeated least most greedy (oneOf items inside rule)).Spells (runsOf holds least most) := by
  obtain rfl : (fun c => items.any (·.holds rule c) == inside) = holds := funext same
  intro s t
  rw [ways, mem_repeatWays (fun _ _ => mem_ways_oneOf) bounds (by omega) (by simp) (by cases most <;> simp)]
  simp only [Nat.zero_add]
  constructor
  · rintro ⟨word, all, low, high, follows⟩
    exact ⟨word, ⟨all, low, high⟩, follows⟩
  · rintro ⟨word, ⟨all, low, high⟩, follows⟩
    exact ⟨word, all, low, high, follows⟩

/-! ### Matches with one group -/

/-- Does a pattern lead over the words of a product of three languages, and nowhere else, with the word of the second
one in a group? -/
def Captures (pattern : Pattern) (index : Nat) (front inside back : Language Char) : Prop :=
  ∀ s t, t ∈ pattern.ways s ↔ ∃ a ∈ front, ∃ b ∈ inside, ∃ c ∈ back, ∃ rest, s.rest = a ++ (b ++ (c ++ rest)) ∧
    t = (s.skip (a ++ (b ++ c)).length).fill index b

theorem Spells.group {body after : Pattern} {inside back : Language Char} (spells : body.Spells inside)
    (spells' : after.Spells back) (index : Nat) : ((body.group index).seq after).Captures index 1 inside back := by
  intro s t
  -- The group is filled with what was read since its start, which is the word.
  have taken {b rest : List Char} (chars : s.rest = b ++ rest) : consumed s (s.skip b.length) = b := by
    simp [consumed, Cursor.skip, chars]
  simp only [ways, List.flatMap_map, List.mem_flatMap, spells s]
  constructor
  · rintro ⟨_, ⟨b, member, rest, chars, rfl⟩, later⟩
    obtain ⟨c, member', rest', chars', rfl⟩ := (spells' ..).mp later
    obtain rfl : rest = c ++ rest' := (Cursor.rest_skip chars).symm.trans chars'
    refine ⟨[], rfl, b, member, c, member', rest', chars, ?_⟩
    rw [taken chars, List.nil_append, List.length_append, ← Cursor.skip_skip]
    rfl
  · rintro ⟨_, rfl, b, member, c, member', rest, chars, rfl⟩
    rw [List.nil_append] at chars
    refine ⟨_, ⟨b, member, c ++ rest, chars, rfl⟩, (spells' ..).mpr ⟨c, member', rest, Cursor.rest_skip chars, ?_⟩⟩
    rw [taken chars, List.nil_append, List.length_append, ← Cursor.skip_skip]
    rfl

theorem Captures.seq {first second : Pattern} {words front inside back : Language Char} {index : Nat}
    (captures : second.Captures index front inside back) (spells : first.Spells words) :
    (first.seq second).Captures index (words * front) inside back := by
  intro s t
  simp only [ways, List.mem_flatMap, spells s, captures _ t, Language.mem_mul]
  constructor
  · rintro ⟨_, ⟨word, member, rest, chars, rfl⟩, a, inFront, b, inGroup, c, inBack, rest', chars', rfl⟩
    obtain rfl := (Cursor.rest_skip chars).symm.trans chars'
    refine ⟨_, ⟨word, member, a, inFront, rfl⟩, b, inGroup, c, inBack, rest', ?_, ?_⟩
    · rw [chars, List.append_assoc]
    · rw [Cursor.skip_skip, List.append_assoc, ← List.length_append]
  · rintro ⟨_, ⟨word, member, a, inFront, rfl⟩, b, inGroup, c, inBack, rest, chars, rfl⟩
    rw [List.append_assoc] at chars
    refine ⟨_, ⟨word, member, _, chars, rfl⟩, a, inFront, b, inGroup, c, inBack, rest, Cursor.rest_skip chars, ?_⟩
    rw [Cursor.skip_skip, List.append_assoc, ← List.length_append]

theorem Captures.literal {after : Pattern} {front inside back : Language Char} {index : Nat}
    (captures : after.Captures index front inside back) (text : List Char) :
    (after.literal text).Captures index ({text} * front) inside back := by
  induction text with
  | nil => rwa [show ({[]} : Language Char) = 1 from rfl, one_mul]
  | cons c text ih => exact singleton_cons_mul c text front ▸ ih.seq (spells_char c)

/-- Items that each have a counterpart are the images of a list of counterparts. -/
theorem exists_map_eq {α β γ : Type} {f : α → γ} {g : β → γ} {P : β → Prop} {items : List α}
    (each : ∀ item ∈ items, ∃ b, P b ∧ f item = g b) : ∃ others : List β, (∀ b ∈ others, P b) ∧ items.map f = others.map g := by
  induction items with
  | nil => exact ⟨[], by simp, rfl⟩
  | cons item items ih =>
    obtain ⟨⟨b, holds, same⟩, rest⟩ := List.forall_mem_cons.mp each
    obtain ⟨others, all, mapped⟩ := ih rest
    exact ⟨b :: others, List.forall_mem_cons.mpr ⟨holds, all⟩, by rw [List.map_cons, List.map_cons, same, mapped]⟩

/-- Every match has a word of the language of the group in it. -/
theorem Captures.groups {pattern : Pattern} {index : Nat} {front inside back : Language Char}
    (captures : pattern.Captures index front inside back) (text : List Char) :
    ∃ words : List (List Char), (∀ word ∈ words, word ∈ inside) ∧
      (pattern.findAll text).map (·.group? index) = words.map some := by
  refine exists_map_eq fun place found => ?_
  obtain ⟨start, way, -⟩ := mem_ways_of_findAll found
  obtain ⟨-, -, word, member, -, -, -, -, rfl⟩ := (captures start place).mp way
  exact ⟨word, member, by simp [Cursor.fill, Cursor.group?]⟩

/-! ### Pages -/

/-- A piece of a page: some filler, and a match in three parts. -/
structure Piece where
  filler : List Char
  front : List Char
  inside : List Char
  back : List Char

namespace Piece

def text (piece : Piece) : List Char := piece.filler ++ (piece.front ++ (piece.inside ++ piece.back))

end Piece

section Pages

variable {pattern : Pattern} {index : Nat} {front inside back : Language Char} {mark : Char}
  (captures : pattern.Captures index front inside back)
  (starts : ∀ word ∈ front, ∃ rest, word = mark :: rest)
include captures starts

/-- Where the mark of a match is not next, there is no match. -/
theorem matchAt?_apart {advance : Bool} {s : Cursor} (apart : ∀ rest, s.rest ≠ mark :: rest) :
    pattern.matchAt? advance s = none := by
  cases found : pattern.matchAt? advance s with
  | none => rfl
  | some t =>
    obtain ⟨a, member, b, -, c, -, rest, chars, -⟩ := (captures s t).mp (mem_ways_of_matchAt? found)
    obtain ⟨word, rfl⟩ := starts a member
    exact absurd chars (apart _)

variable (freeFront : IsPrefixFree front) (freeInside : IsPrefixFree inside) (freeBack : IsPrefixFree back)

include freeFront freeInside freeBack in
theorem matchAt?_here {advance : Bool} {s : Cursor} {a b c rest : List Char} (inFront : a ∈ front) (inGroup : b ∈ inside)
    (inBack : c ∈ back) (chars : s.rest = a ++ (b ++ (c ++ rest))) :
    pattern.matchAt? advance s = some ((s.skip (a ++ (b ++ c)).length).fill index b) := by
  have way := (captures s _).mpr ⟨a, inFront, b, inGroup, c, inBack, rest, chars, rfl⟩
  cases found : pattern.matchAt? advance s with
  | none =>
    -- A place is turned down only if it is the start, but the mark has been read.
    obtain ⟨word, rfl⟩ := starts a inFront
    have still := (matchAt?_eq_none found _ way).2
    simp [Cursor.fill, Cursor.skip] at still
  | some t =>
    obtain ⟨a', inFront', b', inGroup', c', inBack', rest', chars', rfl⟩ := (captures s t).mp (mem_ways_of_matchAt? found)
    -- The words that were read are those of the page, part by part.
    have same := chars'.symm.trans chars
    obtain rfl := freeFront a' inFront' a inFront _ _ same
    have same := List.append_cancel_left same
    obtain rfl := freeInside b' inGroup' b inGroup _ _ same
    obtain rfl := freeBack c' inBack' c inBack _ _ (List.append_cancel_left same)
    rfl

/-- Filler without the mark is passed. -/
theorem search_filler {filler : List Char} (plain : mark ∉ filler) (position : Nat) (before : List Char) (advance : Bool)
    (rest : List Char) :
    ∃ advance', pattern.search position before advance (filler ++ rest) =
      pattern.search (position + filler.length) (filler.reverse ++ before) advance' rest := by
  induction filler generalizing position before advance with
  | nil => exact ⟨advance, rfl⟩
  | cons c filler ih =>
    rw [List.mem_cons, not_or] at plain
    have none : pattern.matchAt? advance ⟨position, before, c :: (filler ++ rest), []⟩ = none :=
      matchAt?_apart captures starts fun rest same => plain.1 (List.cons.inj same).1.symm
    obtain ⟨advance', passed⟩ := ih plain.2 (position + 1) (c :: before) false
    refine ⟨advance', ?_⟩
    rw [List.cons_append, search_cons none, passed, List.length_cons, List.reverse_cons, List.append_assoc,
      Nat.add_assoc, Nat.add_comm 1]
    rfl

theorem search_plain {text : List Char} (plain : mark ∉ text) (position : Nat) (before : List Char) (advance : Bool) :
    pattern.search position before advance text = none := by
  obtain ⟨advance', passed⟩ := search_filler captures starts plain position before advance []
  rw [List.append_nil] at passed
  rw [passed]
  exact search_nil (matchAt?_apart captures starts fun rest same => nomatch same)

include freeFront freeInside freeBack in
/-- A page that consists of matches and of filler without their mark has just these matches. -/
theorem Captures.findAll {pieces : List Piece} {tail : List Char} (plain : mark ∉ tail)
    (each : ∀ piece ∈ pieces, mark ∉ piece.filler ∧ piece.front ∈ front ∧ piece.inside ∈ inside ∧ piece.back ∈ back) :
    (pattern.findAll (pieces.flatMap Piece.text ++ tail)).map (·.group? index) = pieces.map fun piece => some piece.inside := by
  -- After each match the page goes on with the next piece, and the search starts anew.
  have through : ∀ (budget : Nat) (s : Cursor) (advance : Bool), pieces.length < budget →
      s.rest = pieces.flatMap Piece.text ++ tail →
      (pattern.searchAll budget s advance).map (·.group? index) = pieces.map fun piece => some piece.inside := by
    induction pieces with
    | nil =>
      intro budget s advance enough chars
      cases budget with
      | zero => rfl
      | succ budget => rw [searchAll, chars]; simp [search_plain captures starts plain]
    | cons piece pieces ih =>
      intro budget s advance enough chars
      obtain ⟨⟨clean, inFront, inGroup, inBack⟩, others⟩ := List.forall_mem_cons.mp each
      obtain ⟨budget, rfl⟩ := Nat.exists_eq_add_one_of_ne_zero (Nat.ne_zero_of_lt enough)
      set rest := pieces.flatMap Piece.text ++ tail with next
      have split : s.rest = piece.filler ++ (piece.front ++ (piece.inside ++ (piece.back ++ rest))) := by
        simp [chars, Piece.text, next]
      obtain ⟨advance', passed⟩ := search_filler captures starts clean s.position s.before advance
        (piece.front ++ (piece.inside ++ (piece.back ++ rest)))
      rw [search_of_matchAt? (matchAt?_here captures starts freeFront freeInside freeBack inFront inGroup inBack rfl)]
        at passed
      rw [searchAll, split, passed, List.map_cons, List.map_cons, ih others _ _ _ (Nat.lt_of_succ_lt_succ enough)]
      · simp [Cursor.fill, Cursor.group?]
      · simp [Cursor.fill, Cursor.skip]
  refine through _ _ _ ?_ rfl
  -- Each piece has its mark at least, so the budget is larger than the number of matches.
  have long : pieces.length ≤ (pieces.flatMap Piece.text).length := by
    rw [List.length_flatMap]
    refine le_of_eq_of_le (List.length_map _).symm (List.length_le_sum_of_one_le _ (List.forall_mem_map.mpr ?_))
    intro piece member
    obtain ⟨word, start⟩ := starts _ (each piece member).2.1
    simp [Piece.text, start]
    omega
  rw [List.length_append]
  omega

end Pages

end Pattern

end Bindery
