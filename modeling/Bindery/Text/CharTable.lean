/-!
# Tables of characters

Properties of characters are kept as short texts of hexadecimal numbers and read once:

* a span `first+count` holds `count` neighbouring characters, and `first` alone holds one;
* a run `first+count*step:target*step` maps `count` characters, each `step` after the one before,
  to characters that advance by a step of their own (steps of one are left out);
* an entry `char:c₁,c₂,…` maps one character to several.

Blanks and line breaks part the entries. They are listed by ascending first character, so that a
look-up is a binary search.
-/
namespace Bindery.Text

/-- What stands for a character that cannot be represented. -/
def replacement : Char := Char.ofNat 0xfffd

def isHexDigit (c : Char) : Bool :=
  c.isDigit || ('a' ≤ c && c ≤ 'f') || ('A' ≤ c && c ≤ 'F')

/-- The value of a hexadecimal digit; other characters count as zero. -/
def hexValue (c : Char) : Nat :=
  if c.isDigit then c.toNat - 48
  else if 'a' ≤ c ∧ c ≤ 'f' then c.toNat - 87
  else if 'A' ≤ c ∧ c ≤ 'F' then c.toNat - 55
  else 0

def hexNumber (digits : List Char) : Nat := digits.foldl (fun n c => 16 * n + hexValue c) 0

def splitAt (separator : Char) : List Char → List (List Char)
  | [] => [[]]
  | c :: rest =>
    let pieces := splitAt separator rest
    if c = separator then [] :: pieces
    else match pieces with
      | [] => [[c]]
      | piece :: others => (c :: piece) :: others

def tableEntries (text : String) : List (List Char) :=
  (splitAt ' ' (text.toList.map fun c => if c = '\n' then ' ' else c)).filter (!·.isEmpty)

/-- A number with an optional second one after a separator. -/
def hexPair (separator : Char) (default : Nat) (text : List Char) : List Char × Nat :=
  match splitAt separator text with
  | [] => ([], default)
  | [first] => (first, default)
  | first :: second :: _ => (first, hexNumber second)

/-- The last index below `high` whose entry starts at or before `key`, searched from `low`. -/
def lastStart (start : Nat → Nat) (key low high : Nat) : Nat :=
  if h : low + 1 < high then
    let middle := (low + high) / 2
    if start middle ≤ key then lastStart start key middle high
    else lastStart start key low middle
  else low
  termination_by high - low
  decreasing_by all_goals omega

/-- Neighbouring characters. -/
structure CharSpan where
  first : Nat
  count : Nat
  deriving Inhabited

/-- A set of characters as ascending spans. -/
abbrev CharSet := Array CharSpan

def CharSpan.ofText (text : List Char) : CharSpan :=
  let (first, count) := hexPair '+' 1 text
  ⟨hexNumber first, count⟩

def CharSet.ofText (text : String) : CharSet :=
  ((tableEntries text).map CharSpan.ofText).toArray

def CharSet.span? (set : CharSet) (c : Char) : Option CharSpan :=
  (set[lastStart (fun i => (set.getD i default).first) c.toNat 0 set.size]?).filter fun span =>
    span.first ≤ c.toNat && c.toNat < span.first + span.count

def CharSet.contains (set : CharSet) (c : Char) : Bool := (set.span? c).isSome

/-- Characters at even distances, mapped to characters at even distances. -/
structure CharRun where
  first : Nat
  count : Nat
  step : Nat
  target : Nat
  targetStep : Nat
  deriving Inhabited

/-- A map of characters to characters as ascending runs. -/
abbrev CharMap := Array CharRun

def CharRun.ofText (text : List Char) : CharRun :=
  match splitAt ':' text with
  | source :: image :: _ =>
    let (span, step) := hexPair '*' 1 source
    let (first, count) := hexPair '+' 1 span
    let (target, targetStep) := hexPair '*' 1 image
    ⟨hexNumber first, count, step, hexNumber target, targetStep⟩
  | _ => default

def CharMap.ofText (text : String) : CharMap :=
  ((tableEntries text).map CharRun.ofText).toArray

/-- The image of a character; characters outside the runs stay as they are. -/
def CharMap.apply (map : CharMap) (c : Char) : Char :=
  match map[lastStart (fun i => (map.getD i default).first) c.toNat 0 map.size]? with
  | some run =>
    let offset := c.toNat - run.first
    if run.first ≤ c.toNat ∧ offset % run.step = 0 ∧ offset / run.step < run.count then
      Char.ofNat (run.target + offset / run.step * run.targetStep)
    else c
  | none => c

/-- A map of characters to texts, ascending. -/
abbrev CharTexts := Array (Nat × List Char)

def CharTexts.ofText (text : String) : CharTexts :=
  ((tableEntries text).map fun entry =>
    match splitAt ':' entry with
    | source :: image :: _ =>
      (hexNumber source, (splitAt ',' image).map fun digits => Char.ofNat (hexNumber digits))
    | _ => (0, [])).toArray

def CharTexts.find? (map : CharTexts) (c : Char) : Option (List Char) :=
  match map[lastStart (fun i => (map.getD i default).1) c.toNat 0 map.size]? with
  | some (source, text) => if source = c.toNat then some text else none
  | none => none

end Bindery.Text
