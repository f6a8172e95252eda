import Bindery.Text.Charset.KsX1001

/-!
# Korean encodings

Pairs of large bytes hold the characters of KS X 1001, among them the common syllables. The other
syllables follow in their order, or are put together of letters.
-/
namespace Bindery.Text

/-- The letters that begin a syllable. -/
def initialLetters : List Char := "ㄱㄲㄴㄷㄸㄹㅁㅂㅃㅅㅆㅇㅈㅉㅊㅋㅌㅍㅎ".toList

/-- The letters that end a syllable. -/
def finalLetters : List Char := "ㄱㄲㄳㄴㄵㄶㄷㄹㄺㄻㄼㄽㄾㄿㅀㅁㅂㅄㅅㅆㅇㅈㅊㅋㅌㅍㅎ".toList

/-- The first of the vowels, which are in order. -/
def firstVowel : Nat := 0x314f

/-- The syllable of an initial, a vowel and a final; a final of zero is none. -/
def syllable (initial vowel final : Nat) : Char := Char.ofNat (0xac00 + 588 * initial + 28 * vowel + final)

/-- The character of KS X 1001 for two large bytes. -/
def ksX1001Pair? (a b : Nat) : Option Char :=
  if 128 ≤ a ∧ 128 ≤ b then ksX1001Grid.pair? (a - 128) (b - 128) else none

/-- The letter of KS X 1001 for the second byte of its pair. -/
def letterOf (b : Nat) : Char := Char.ofNat (0x3131 + (b - 0xa1))

/-- A syllable that is put together of four pairs: a filler, an initial, a vowel and a final. The
filler also stands for no final. -/
def composed? (pairs : List UInt8) : Option Char :=
  match pairs with
  | [_, _, 0xa4, initial, 0xa4, vowel, 0xa4, final] => do
    let vowel ← if 0xbf ≤ vowel.toNat ∧ vowel.toNat ≤ 0xd3 then some (vowel.toNat - 0xbf) else none
    let initial ← if 0xa1 ≤ initial.toNat then initialLetters.idxOf? (letterOf initial.toNat) else none
    let final ← if final = 0xd4 then some 0
      else if 0xa1 ≤ final.toNat then (finalLetters.idxOf? (letterOf final.toNat)).map (· + 1)
      else none
    return syllable initial vowel final
  | _ => none

def foundEucKr : List UInt8 → Found
  | 0xa4 :: 0xd4 :: rest =>
    if rest.length < 6 then .cut
    else .ofChar? (composed? (0xa4 :: 0xd4 :: rest.take 6)) 8
  | bytes => foundPair ksX1001Pair? bytes

/-- The syllables that are not in KS X 1001. -/
def otherSyllables : Thunk (Array Char) := Thunk.mk fun _ => ksX1001Grid.others 0x30 0x48 0xac00 0xd7a3

/-- The place of a second byte in a row of other syllables. -/
def syllableColumn? (b : Nat) : Option Nat :=
  if 0x41 ≤ b ∧ b ≤ 0x5a then some (b - 0x41)
  else if 0x61 ≤ b ∧ b ≤ 0x7a then some (b - 0x47)
  else if 0x81 ≤ b ∧ b ≤ 0xfe then some (b - 0x4d)
  else none

/-- The character of code page 949 for two bytes. Rows of other syllables are shorter from the
thirty-third on, where KS X 1001 begins. -/
def page949Pair? (a b : Nat) : Option Char :=
  match ksX1001Pair? a b with
  | some c => some c
  | none => do
    let column ← syllableColumn? b
    if 0x81 ≤ a ∧ a ≤ 0xa0 then otherSyllables.get[178 * (a - 0x81) + column]?
    else if 0xa1 ≤ a ∧ column < 84 then otherSyllables.get[5696 + 84 * (a - 0xa1) + column]?
    else none

/-! ## Johab: five bits to each letter of a syllable -/

/-- A letter's place in a syllable: left open, or filled. -/
inductive LetterSlot where
  | empty
  | letter (position : Nat)
  deriving DecidableEq, Repr

/-- The slot for five bits, given the spans of bits that stand for letters. -/
def slotIn (filler : Nat) (spans : List (Nat × Nat × Nat)) (bits : Nat) : Option LetterSlot :=
  if bits = filler then some .empty
  else spans.findSome? fun (low, high, position) =>
    if low ≤ bits ∧ bits ≤ high then some (.letter (position + (bits - low))) else none

def initialSlot? : Nat → Option LetterSlot := slotIn 1 [(2, 20, 0)]

def vowelSlot? : Nat → Option LetterSlot := slotIn 2 [(3, 7, 0), (10, 15, 5), (18, 23, 11), (26, 29, 17)]

def finalSlot? : Nat → Option LetterSlot := slotIn 1 [(2, 17, 0), (19, 29, 16)]

/-- The syllable or the lone letter for three slots. -/
def ofSlots? : LetterSlot → LetterSlot → LetterSlot → Option Char
  | .empty, .empty, .empty => some (Char.ofNat 0x3000)
  | .letter initial, .empty, .empty => initialLetters[initial]?
  | .empty, .letter vowel, .empty => some (Char.ofNat (firstVowel + vowel))
  | .empty, .empty, .letter final => finalLetters[final]?
  | .letter initial, .letter vowel, .empty => some (syllable initial vowel 0)
  | .letter initial, .letter vowel, .letter final => some (syllable initial vowel (final + 1))
  | _, _, _ => none

/-- The place in KS X 1001 of two bytes outside the syllables. Each first byte stands for two rows. -/
def johabSign? (a b : Nat) : Option Char :=
  let isPlace := a ≤ 0xf9 && a ≠ 0xdf && ((0x31 ≤ b && b ≤ 0x7e) || (0x91 ≤ b && b ≤ 0xfe)) &&
    !(a = 0xda && 0xa1 ≤ b && b ≤ 0xd3)
  if isPlace then
    let row := if a < 0xe0 then 2 * (a - 0xd9) else 2 * a - 0x197
    let column := if b < 0x91 then b - 0x31 else b - 0x43
    let second := decide (94 ≤ column)
    -- Rows before the first and the letters are not used.
    if a = 0xd8 then none
    else ksX1001Grid.find? (row + (if second then 1 else 0) + 33) (if second then column - 94 else column)
  else none

def johabPair? (a b : Nat) : Option Char :=
  if a < 0xd8 then do
    ofSlots? (← initialSlot? (a / 4 % 32)) (← vowelSlot? (a % 4 * 8 + b / 32)) (← finalSlot? (b % 32))
  else johabSign? a b

end Bindery.Text
