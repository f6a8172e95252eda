import Bindery.Data.Yaml.ScalarText
import Bindery.Text.Charset

/-!
# The tokens of a YAML text

The scan turns indentation into tokens that open and close collections. Where a key may begin it
leaves a mark; if a colon follows in time, the mark becomes the sign of a key, and in the end the
other marks are dropped.
-/
namespace Bindery.Data.Yaml

inductive Token where
  | versionDirective (major : Nat)
  | tagDirective (handle expansion : String)
  | otherDirective
  | documentStart
  | documentEnd
  | sequenceStart
  | mappingStart
  /-- The end of a collection given by indentation. -/
  | blockEnd
  | flowSequenceStart
  | flowSequenceEnd
  | flowMappingStart
  | flowMappingEnd
  | comma
  | dash
  | key
  | value
  | aliasOf (name : String)
  | anchor (name : String)
  | tag (handle : Option String) (suffix : String)
  | scalar (text : String) (plain : Bool)
  /-- A quoted text with half of a character pair in it. -/
  | brokenScalar (text : String)
  /-- A key may begin here. -/
  | mark (number : Nat)
  deriving DecidableEq, Repr, Inhabited

/-- A place where a key may have begun. -/
structure Candidate where
  /-- How many flow collections are around it. -/
  depth : Nat
  mark : Nat
  /-- Must it turn out to be a key? -/
  required : Bool
  place : Place
  deriving Repr

structure Scan where
  place : Place
  depth : Nat := 0
  /-- The column of the innermost collection given by indentation. -/
  indent : Int := -1
  /-- The columns of those around it, innermost first. -/
  outer : List Int := []
  /-- May a key begin here? -/
  keyAllowed : Bool := true
  candidates : List Candidate := []
  marks : Nat := 0
  /-- Marks that became keys; with `true`, they also open a mapping. -/
  keys : List (Nat × Bool) := []
  /-- The tokens so far, the latest first. -/
  tokens : List Token := []
  deriving Repr

namespace Scan

abbrev Step := Scan → Except Fault Scan

def push (token : Token) (s : Scan) : Scan := { s with tokens := token :: s.tokens }

/-- Push a token made of the next characters. -/
def pushSign (token : Token) (length : Nat) (s : Scan) : Scan :=
  { s with tokens := token :: s.tokens, place := s.place.skip length }

def allowKey (allowed : Bool) (s : Scan) : Scan := { s with keyAllowed := allowed }

/-- Close the collections that are indented by more than a column. -/
def closeDown (column : Int) : List Int → Int → List Token → List Int × Int × List Token
  | outer, indent, tokens =>
    if indent ≤ column then (outer, indent, tokens)
    else match outer with
      | [] => ([], -1, .blockEnd :: tokens)
      | around :: rest => closeDown column rest around (.blockEnd :: tokens)

def unindent (column : Int) (s : Scan) : Scan :=
  if s.depth ≠ 0 then s
  else
    let (outer, indent, tokens) := closeDown column s.outer s.indent s.tokens
    { s with outer, indent, tokens }

/-- Is a column further to the right than the collection around it? -/
def opens (column : Nat) (s : Scan) : Bool := s.indent < column

def enter (column : Nat) (s : Scan) : Scan :=
  { s with outer := s.indent :: s.outer, indent := column }

/-- Open a collection at the present column, if it is further to the right. -/
def openHere (token : Token) (s : Scan) : Scan :=
  if s.opens s.place.column then (s.enter s.place.column).push token else s

/-- Drop candidates; one that must become a key is a fault. -/
def dropCandidates (stale : Candidate → Bool) : Step := fun s =>
  if s.candidates.any fun c => stale c && c.required then .error .malformed
  else .ok { s with candidates := s.candidates.filter fun c => !stale c }

/-- Drop the candidate among the items of the present collection. -/
def dropHere : Step := fun s => dropCandidates (fun c => c.depth = s.depth) s

/-- A key ends on its line, within so many characters. -/
def keyLimit : Nat := 1024

def dropStale : Step := fun s =>
  dropCandidates (fun c =>
    c.place.line ≠ s.place.line || keyLimit < s.place.index - c.place.index) s

/-- A key may begin here. -/
def markKey : Step := fun s =>
  if s.keyAllowed then do
    let required := s.depth = 0 && s.indent = s.place.column
    let t ← dropHere s
    return { t with
      marks := t.marks + 1
      candidates := ⟨t.depth, t.marks, required, t.place⟩ :: t.candidates
      tokens := .mark t.marks :: t.tokens }
  else .ok s

/-- The place of the next token: after blanks, comments and line breaks. A line break lets keys begin
again, except in flow collections. -/
def skipBlanks : Nat → Scan → Scan
  | 0, s => s
  | fuel + 1, s =>
    let p := s.place.skipWhile (· = ' ')
    let q := if p.peek 0 = some '#' then p.skipWhile fun c => !isBreak c else p
    match q.takeBreak? with
    | some (_, after) =>
      skipBlanks fuel { s with place := after, keyAllowed := s.keyAllowed || s.depth = 0 }
    | none => { s with place := q }

/-! ## Directives, names and tags -/

def isNameChar (c : Char) : Bool := c.isAlphanum || c = '-' || c = '_'

/-- Digits of a version. -/
def takeNumber (p : Place) : Except Fault (Nat × Place) :=
  let (digits, q) := p.takeWhile Char.isDigit
  if digits.isEmpty then .error .malformed
  else .ok (digits.foldl (fun n c => 10 * n + (c.toNat - 48)) 0, q)

/-- Characters of the texts of tags; a percent sign begins an escape. -/
def isTagChar (c : Char) : Bool := c.isAlphanum || "-;/?:@&=+$,_.!~*'()[]%".toList.contains c

/-- Replace the escapes in the text of a tag. -/
def tagBytes : List Char → Except Fault (List UInt8)
  | [] => .ok []
  | '%' :: a :: b :: rest =>
    if Text.isHexDigit a && Text.isHexDigit b then do
      return UInt8.ofNat (Text.hexNumber [a, b]) :: (← tagBytes rest)
    else .error .malformed
  | '%' :: _ => .error .malformed
  | c :: rest => do return UInt8.ofNat c.toNat :: (← tagBytes rest)

def takeTagText (p : Place) : Except Fault (String × Place) := do
  let (text, q) := p.takeWhile isTagChar
  if text.isEmpty then throw .malformed
  match Text.Charset.utf8.decodeStrictly? (← tagBytes text) with
  | some decoded => return (decoded, q)
  | none => throw .malformed

/-- The handle of a tag: an exclamation mark, or a name between two of them. -/
def takeHandle (p : Place) : Except Fault (String × Place) :=
  if p.peek 0 ≠ some '!' then .error .malformed
  else
    let (name, q) := p.next.takeWhile isNameChar
    if q.peek 0 = some '!' then .ok (String.ofList ('!' :: name ++ ['!']), q.next)
    else if name.isEmpty && p.peek 1 = some ' ' then .ok ("!", p.next)
    else .error .malformed

def versionDirective (p : Place) : Except Fault (Token × Place) := do
  let (major, q) ← takeNumber (p.skipWhile (· = ' '))
  if q.peek 0 ≠ some '.' then throw .malformed
  let (_, r) ← takeNumber q.next
  if r.isStrictGap then return (.versionDirective major, r) else throw .malformed

def tagDirective (p : Place) : Except Fault (Token × Place) := do
  let (handle, q) ← takeHandle (p.skipWhile (· = ' '))
  if q.peek 0 ≠ some ' ' then throw .malformed
  let (expansion, r) ← takeTagText (q.skipWhile (· = ' '))
  if r.isStrictGap then return (.tagDirective handle expansion, r) else throw .malformed

def directive (p : Place) : Except Fault (Token × Place) := do
  let (name, q) := p.takeWhile isNameChar
  if name.isEmpty || !q.isStrictGap then throw .malformed
  let (token, r) ←
    if name = "YAML".toList then versionDirective q
    else if name = "TAG".toList then tagDirective q
    else pure (.otherDirective, q.skipWhile fun c => !isBreak c)
  return (token, ← r.skipRestOfLine)

/-- Signs that may follow the name of an alias or anchor. -/
def endsName (p : Place) : Bool :=
  p.isGap 0 || (p.peek 0).any ("?:,]\x7d%@`".toList.contains ·)

/-- The name of an alias or anchor. -/
def takeName (p : Place) : Except Fault (String × Place) :=
  let (name, q) := p.takeWhile isNameChar
  if name.isEmpty || !endsName q then .error .malformed else .ok (String.ofList name, q)

def takeTag (p : Place) : Except Fault (Token × Place) := do
  let (token, q) ←
    if p.peek 1 = some '<' then do
      let (suffix, q) ← takeTagText (p.skip 2)
      if q.peek 0 = some '>' then pure (Token.tag none suffix, q.next) else throw .malformed
    else if p.isGap 1 then pure (.tag none "!", p.next)
    else do
      let word := p.next.rest.takeWhile fun c => !(isBreak c || c = ' ')
      -- Another exclamation mark further on ends a handle with a name.
      let (handle, q) ← if word.contains '!' then takeHandle p else pure ("!", p.next)
      let (suffix, r) ← takeTagText q
      pure (.tag (some handle) suffix, r)
  if q.isStrictGap then return (token, q) else throw .malformed

/-! ## Tokens -/

/-- A sign that ends all collections given by indentation. -/
def documentSign (token : Token) (length : Nat) : Step := fun s => do
  let t ← dropHere (s.unindent (-1))
  return (t.allowKey false).pushSign token length

def directiveLine : Step := fun s => do
  let t ← dropHere (s.unindent (-1))
  let (token, after) ← directive t.place.next
  return { (t.allowKey false).push token with place := after }

def flowStart (token : Token) : Step := fun s => do
  let t ← markKey s
  return { (t.allowKey true).pushSign token 1 with depth := t.depth + 1 }

def flowEnd (token : Token) : Step := fun s =>
  if s.depth = 0 then .error .malformed
  else do
    let t ← dropHere s
    return { (t.allowKey false).pushSign token 1 with depth := t.depth - 1 }

def commaSign : Step := fun s => do
  return ((← dropHere s).allowKey true).pushSign .comma 1

/-- Open a collection for an item that must begin a line or follow another sign. -/
def openItem (token : Token) : Step := fun s =>
  if s.depth ≠ 0 then .ok s
  else if s.keyAllowed then .ok (s.openHere token)
  else .error .malformed

def dashSign : Step := fun s => do
  let t ← dropHere (← openItem .sequenceStart s)
  return (t.allowKey true).pushSign .dash 1

def keySign : Step := fun s => do
  let t ← dropHere (← openItem .mappingStart s)
  return (t.allowKey (t.depth = 0)).pushSign .key 1

/-- A colon makes a key of the candidate before it. Without one, the key is empty. -/
def valueSign : Step := fun s =>
  match s.candidates.find? fun c => c.depth = s.depth with
  | some found =>
    -- The column where the key began, and not that of the colon, tells whether a mapping opens.
    let opensMapping := s.depth = 0 && s.opens found.place.column
    let t := if opensMapping then s.enter found.place.column else s
    .ok ({ t with
      keyAllowed := false
      keys := (found.mark, opensMapping) :: t.keys
      candidates := t.candidates.filter fun c => c.depth ≠ t.depth }.pushSign .value 1)
  | none => do
    let t ← dropHere (← openItem .mappingStart s)
    return (t.allowKey (t.depth = 0)).pushSign .value 1

/-- A token that a key may begin with. -/
def keyStart (read : Scan → Except Fault (Token × Place × Bool)) : Step := fun s => do
  let t ← markKey s
  let (token, after, allowed) ← read t
  return { (t.allowKey allowed).push token with place := after }

def aliasOrAnchor (make : String → Token) : Step := keyStart fun s => do
  let (name, after) ← takeName s.place.next
  return (make name, after, false)

def tagSign : Step := keyStart fun s => do
  let (token, after) ← takeTag s.place
  return (token, after, false)

def quoted (double : Bool) : Step := keyStart fun s => do
  let p := s.place.next
  let (points, after) ← quotedScalar double (p.rest.length + 1) [] p
  let token := match Text.textOfPoints? points with
    | some text => .scalar text false
    | none => .brokenScalar (Text.textOfPoints points)
  return (token, after, false)

def plain : Step := keyStart fun s =>
  let (text, after, broken) :=
    plainScalar (s.depth ≠ 0) (s.indent + 1) s.place.rest.length [] [] false s.place
  .ok (.scalar (String.ofList text) true, after, broken)

def block (folded : Bool) : Step := fun s => do
  let t ← dropHere s
  let (text, after) ← blockScalar folded t.indent t.place.next
  return { (t.allowKey true).push (.scalar (String.ofList text) false) with place := after }

/-- Signs that no plain scalar begins with. -/
def isReserved (c : Char) : Bool := "-?:,[]\x7b\x7d#&*!|>'\"%@`".toList.contains c

def startsPlain (s : Scan) (c : Char) : Bool :=
  !(isSpace c || isBreak c || isReserved c) ||
    (!s.place.isGap 1 && (c = '-' || (s.depth = 0 && (c = '?' || c = ':'))))

/-- The token at a place that is not the end. -/
def takeToken (c : Char) : Step := fun s =>
  let p := s.place
  -- The signs of whole documents count only at the start of a line.
  if c = '%' ∧ p.column = 0 then directiveLine s
  else if p.isMarker Place.documentStart then documentSign .documentStart 3 s
  else if p.isMarker Place.documentEnd then documentSign .documentEnd 3 s
  else if c = '[' then flowStart .flowSequenceStart s
  else if c = '\x7b' then flowStart .flowMappingStart s
  else if c = ']' then flowEnd .flowSequenceEnd s
  else if c = '\x7d' then flowEnd .flowMappingEnd s
  else if c = ',' then commaSign s
  -- A dash is a sign only before a gap; in flow collections the other two are signs anywhere.
  else if c = '-' ∧ p.isGap 1 then dashSign s
  else if c = '?' ∧ (s.depth ≠ 0 ∨ p.isGap 1) then keySign s
  else if c = ':' ∧ (s.depth ≠ 0 ∨ p.isGap 1) then valueSign s
  else if c = '*' then aliasOrAnchor .aliasOf s
  else if c = '&' then aliasOrAnchor .anchor s
  else if c = '!' then tagSign s
  -- Block scalars need lines of their own, which flow collections do not have.
  else if c = '|' ∧ s.depth = 0 then block false s
  else if c = '>' ∧ s.depth = 0 then block true s
  else if c = '\'' then quoted false s
  else if c = '"' then quoted true s
  else if s.startsPlain c then plain s
  else .error .malformed

/-- Scan up to the end. Every token but the last takes at least one character. -/
def run : Nat → Step
  | 0, s => .ok s
  | fuel + 1, s => do
    let t ← dropStale (s.skipBlanks (s.place.rest.length + 1))
    -- The column of the next token tells which collections have ended before it.
    let u := t.unindent t.place.column
    match u.place.rest with
    | [] => dropHere (u.unindent (-1))
    | c :: _ => run fuel (← takeToken c u)

/-- The tokens in order, with marks replaced. -/
def finish (s : Scan) : List Token :=
  s.tokens.reverse.flatMap fun token =>
    match token with
    | .mark number =>
      match s.keys.lookup number with
      | some true => [.mappingStart, .key]
      | some false => [.key]
      | none => []
    | other => [other]

end Scan

def tokens (text : String) : Except Fault (List Token) := do
  let chars := text.toList
  if !chars.all isAllowed then throw .forbiddenCharacter
  let start : Place := { rest := chars }
  -- A byte order mark may stand before everything else.
  let begin := if chars.head? = some '\ufeff' then start.next else start
  let s ← Scan.run (chars.length + 2) { place := begin }
  return s.finish

end Bindery.Data.Yaml
