import Bindery.Text.Charset.Chinese
import Bindery.Text.Charset.CodePage
import Bindery.Text.Charset.Japanese
import Bindery.Text.Charset.Korean

/-!
# Encodings that switch between sets of characters

In the encodings of ISO 2022 all bytes are small. An escape sequence puts a set of characters into
one of three slots. Plain bytes take their characters from the first slot, or after a shift from the
second one; a character of the third slot has an escape of its own.
-/
namespace Bindery.Text

/-- How an escape sequence calls a set of characters: by its last byte, and whether the characters
take two bytes. -/
structure SheetName where
  final : UInt8
  wide : Bool
  deriving DecidableEq, Repr, Inhabited

def asciiSheet : SheetName := ⟨0x42, false⟩

/-- The characters of a set of characters. -/
structure Sheet where
  name : SheetName
  /-- The text for the bytes of one character. -/
  text? : Nat → Nat → Option (List Char)

def SheetName.width (name : SheetName) : Nat := if name.wide then 2 else 1

def Sheet.ofGrid (final : UInt8) (grid : CharGrid) : Sheet :=
  ⟨⟨final, true⟩, fun row column => (grid.pair? row column).map fun c => [c]⟩

/-- An encoding: the sets that can be chosen, and which means of choice there are. -/
structure SwitchRules where
  sheets : List Sheet
  /-- Are there control characters that shift between the first two slots? -/
  shifts : Bool := false
  /-- Is there a third slot? -/
  third : Bool := false
  /-- May a revision be announced before a set is chosen? -/
  announces : Bool := true

structure SwitchState where
  first : SheetName := asciiSheet
  second : SheetName := asciiSheet
  third : SheetName := asciiSheet
  shifted : Bool := false
  /-- Are we within an escape sequence that is passed on? -/
  passing : Bool := false
  deriving Inhabited

def isSequenceEnd (byte : UInt8) : Bool := (0x41 ≤ byte.toNat && byte.toNat ≤ 0x5a) || byte = 0x40

/-- The bytes after an escape character up to the end of the sequence, at most as many as the fuel
says. `none` within means that the bytes end before. -/
def sequenceAfter (announces : Bool) : Nat → List UInt8 → Option (Option (List UInt8))
  | 0, _ => none
  | _ + 1, [] => some none
  | fuel + 1, byte :: rest =>
    if isSequenceEnd byte then some (some [byte])
    else match announces, byte, rest with
      | true, 0x26, 0x40 :: more =>
        -- An announcement has an escape character of its own after it.
        match more with
        | [] => some none
        | escape :: others =>
          (sequenceAfter announces (fuel - 2) others).map fun found =>
            found.map fun sequence => byte :: 0x40 :: escape :: sequence
      | _, _, _ =>
        (sequenceAfter announces fuel rest).map fun found => found.map fun sequence => byte :: sequence

/-- The most bytes of a sequence after its escape character. -/
def longestSequence : Nat := 15

inductive SheetSlot where
  | first
  | second
  | third

/-- What an escape sequence says, without its escape character. -/
def chosen? (rules : SwitchRules) : List UInt8 → Option (SheetSlot × SheetName)
  | [0x24, final] => some (.first, ⟨final, true⟩)
  | [0x28, final] => some (.first, ⟨final, false⟩)
  | [0x29, final] => some (.second, ⟨final, false⟩)
  | [0x2e, final] => if rules.third then some (.third, ⟨final, false⟩) else none
  | [0x24, 0x28, final] => some (.first, ⟨final, true⟩)
  | [0x24, 0x29, final] => some (.second, ⟨final, true⟩)
  | [0x26, 0x40, 0x1b, 0x24, 0x42] => if rules.announces then some (.first, ⟨0x42, true⟩) else none
  | _ => none

def SwitchState.choose (state : SwitchState) (slot : SheetSlot) (name : SheetName) : SwitchState :=
  match slot with
  | .first => { state with first := name }
  | .second => { state with second := name }
  | .third => { state with third := name }

/-- Can a set be chosen? -/
def SwitchRules.knows (rules : SwitchRules) (name : SheetName) : Bool :=
  name = asciiSheet || rules.sheets.any fun sheet => sheet.name = name

/-- Obey an escape sequence. -/
def foundSequence (rules : SwitchRules) (state : SwitchState) (rest : List UInt8) : Found × SwitchState :=
  match sequenceAfter rules.announces longestSequence rest with
  | none => (.nothing 1, state)
  | some none => (.cut, state)
  | some (some sequence) =>
    match chosen? rules sequence with
    | some (slot, name) =>
      if rules.knows name then (.chars [] (sequence.length + 1), state.choose slot name)
      else (.nothing (sequence.length + 1), state)
    | none => (.nothing (sequence.length + 1), state)

/-- The Greek letters of the third slot, in the edition without a euro sign. -/
def thirdGreek? (n : Nat) : Option Char :=
  if 128 ≤ n then some (Char.ofNat (n - 128))
  else if n = 0x24 ∨ n = 0x25 ∨ n = 0x2a then none
  else greekPage.char? (UInt8.ofNat (n + 128))

def thirdChar? (name : SheetName) (n : Nat) : Option Char :=
  if name = ⟨0x41, false⟩ then if n < 128 then some (Char.ofNat (n + 128)) else none
  else if name = ⟨0x46, false⟩ then thirdGreek? n
  else if n < 128 then some (Char.ofNat n)
  else none

/-- The character of a set at the front of some bytes. -/
def foundIn (rules : SwitchRules) (name : SheetName) (bytes : List UInt8) : Found :=
  match bytes, rules.sheets.find? fun sheet => sheet.name = name with
  | a :: rest, some sheet =>
    if name.wide then
      match rest with
      | [] => .cut
      | b :: _ => match sheet.text? a.toNat b.toNat with
        | some text => .chars text 2
        | none => .nothing 2
    else match sheet.text? a.toNat 0 with
      | some text => .chars text 1
      | none => .nothing 1
  | _, _ => .nothing name.width

def foundSwitched (rules : SwitchRules) (state : SwitchState) (bytes : List UInt8) :
    Found × SwitchState :=
  match bytes with
  | [] => (.cut, state)
  | byte :: rest =>
    let plain := Found.chars [Char.ofNat byte.toNat] 1
    -- what belongs to a sequence that nothing knows passes as plain text up to its end
    if state.passing then (plain, { state with passing := !isSequenceEnd byte })
    else if byte = 0x1b then
      match rest with
      | [] => (.cut, state)
      | kind :: more =>
        if [0x28, 0x29, 0x24, 0x2e, 0x26].contains kind then foundSequence rules state rest
        else if rules.third ∧ kind = 0x4e then
          match more with
          | [] => (.cut, state)
          | c :: _ => (match thirdChar? state.third c.toNat with
            | some c => .chars [c] 3
            | none => .nothing 3, state)
        else (plain, { state with passing := true })
    else if rules.shifts ∧ byte = 0x0f then (.chars [] 1, { state with shifted := false })
    else if rules.shifts ∧ byte = 0x0e then (.chars [] 1, { state with shifted := true })
    -- a line ends in the first set
    else if byte = 0x0a then (plain, { state with shifted := false })
    else if byte.toNat < 0x20 then (plain, state)
    else if 128 ≤ byte.toNat then (.nothing 1, state)
    else
      let name := if state.shifted then state.second else state.first
      (if name = asciiSheet then plain else foundIn rules name bytes, state)

/-! ## The encodings -/

/-- The Latin letters that Japanese sets come with, where two signs are changed. -/
def japaneseLatin : Sheet := ⟨⟨0x4a, false⟩, fun n _ => (shiftJisSingle? n).map fun c => [c]⟩

/-- The half-width letters. -/
def japaneseKana : Sheet := ⟨⟨0x49, false⟩, fun n _ => (halfWidth? (n + 128)).map fun c => [c]⟩

/-- JIS X 0208 in its two editions, which have the same characters. -/
def jisSheets : List Sheet := [.ofGrid 0x42 jisX0208Grid, .ofGrid 0x40 jisX0208Grid]

def supplementSheet : Sheet := .ofGrid 0x44 jisX0212Grid

/-- JIS X 0213, whose first plane is called by a byte of each edition. -/
def editionSheets (final : UInt8) (edition : JisEdition) : List Sheet := [
  .ofGrid 0x42 jisX0208Grid,
  ⟨⟨final, true⟩, firstPlane? edition⟩,
  .ofGrid 0x50 jisX0213SecondGrid]

def koreanRules : SwitchRules :=
  { sheets := [.ofGrid 0x43 ksX1001Grid], shifts := true, announces := false }

def japaneseRules : SwitchRules := { sheets := japaneseLatin :: jisSheets }

def supplementedRules : SwitchRules := { sheets := supplementSheet :: japaneseLatin :: jisSheets }

def kanaRules : SwitchRules := { sheets := japaneseKana :: supplementSheet :: japaneseLatin :: jisSheets }

/-- The rules with sets of other languages, two of them for the third slot alone. -/
def multilingualRules : SwitchRules :=
  { sheets := [⟨⟨0x41, false⟩, fun _ _ => none⟩, ⟨⟨0x46, false⟩, fun _ _ => none⟩, .ofGrid 0x41 gb2312Grid,
      .ofGrid 0x43 ksX1001Grid, supplementSheet, japaneseLatin] ++ jisSheets
    third := true }

def editionRules : JisEdition → SwitchRules
  | .of2000 => { sheets := editionSheets 0x4f .of2000 }
  | .of2004 => { sheets := editionSheets 0x51 .of2004 }

end Bindery.Text
