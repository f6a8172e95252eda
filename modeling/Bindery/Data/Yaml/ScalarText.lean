import Bindery.Data.Yaml.Place
import Bindery.Text.CodePoint

/-!
# The texts of YAML scalars

Plain, quoted and block scalars, from their place in the document. Within a scalar, one line break
means a space and further ones mean themselves.
-/
namespace Bindery.Data.Yaml

open Bindery.Text (CodePoint)

/-- What one line break and further ones stand for. -/
def foldBreaks (first : Char) (more : List Char) : List Char :=
  if first ≠ '\n' then first :: more else if more.isEmpty then [' '] else more

/-! ## Plain scalars -/

def isFlowSign (c : Char) : Bool := [',', '[', ']', '\x7b', '\x7d'].contains c

/-- Does a colon end a plain scalar before this character? -/
def endsAfterColon (inFlow : Bool) : Option Char → Bool
  | none => true
  | some c => isSpace c || isBreak c || (inFlow && isFlowSign c)

def plainLength (inFlow : Bool) : List Char → Nat
  | [] => 0
  | c :: rest =>
    if isSpace c || isBreak c then 0
    else if c = ':' && endsAfterColon inFlow rest.head? then 0
    else if inFlow && (isFlowSign c || c = '?') then 0
    else plainLength inFlow rest + 1

/-- Spaces and line breaks after the first break in a plain scalar; nothing if a document begins or
ends there. -/
def plainBreaks : Nat → List Char → Place → Option (List Char) × Place
  | 0, done, p => (some done, p)
  | fuel + 1, done, p =>
    if p.peek 0 = some ' ' then plainBreaks fuel done p.next
    else match p.takeBreak? with
      | some (c, q) => if q.isDocumentMarker then (none, q) else plainBreaks fuel (done ++ [c]) q
      | none => (some done, p)

/-- What parts two stretches of a plain scalar. -/
structure PlainGap where
  /-- What it stands for, if the scalar can go on after it. -/
  text : Option (List Char)
  after : Place
  breaksLine : Bool

def plainGap (p : Place) : PlainGap :=
  let (spaces, q) := p.takeWhile (· = ' ')
  match q.takeBreak? with
  | none => ⟨some spaces, q, false⟩
  | some (first, r) =>
    if r.isDocumentMarker then ⟨none, r, true⟩
    else
      let (more, after) := plainBreaks r.rest.length [] r
      ⟨more.map (foldBreaks first), after, true⟩

/-- A plain scalar: its text, the place after it, and whether a line break follows it. `indent` is
the least column on which it goes on. -/
def plainScalar (inFlow : Bool) (indent : Int) :
    Nat → List Char → List Char → Bool → Place → List Char × Place × Bool
  | 0, done, _, broken, p => (done, p, broken)
  | fuel + 1, done, spaces, broken, p =>
    let count := plainLength inFlow p.rest
    if p.peek 0 = some '#' || count = 0 then (done, p, broken)
    else
      let text := done ++ spaces ++ p.rest.take count
      let gap := plainGap (p.skip count)
      match gap.text with
      -- A sign right after the stretch ends the scalar, and so does the edge of a document.
      | none | some [] => (text, gap.after, gap.breaksLine)
      | some between =>
        if gap.after.peek 0 = some '#' || (!inFlow && gap.after.column < indent) then
          (text, gap.after, gap.breaksLine)
        else plainScalar inFlow indent fuel text between gap.breaksLine gap.after

/-! ## Quoted scalars -/

/-- Further line breaks in a quoted scalar, where no document may begin or end. -/
def quotedBreaks : Nat → List Char → Place → Except Fault (List Char × Place)
  | 0, done, p => .ok (done, p)
  | fuel + 1, done, p =>
    if p.isDocumentMarker then .error .malformed
    else
      let q := p.skipWhile isSpace
      match q.takeBreak? with
      | some (c, r) => quotedBreaks fuel (done ++ [c]) r
      | none => .ok (done, q)

/-- Blanks in a quoted scalar and what they stand for. -/
def quotedBlanks (p : Place) : Except Fault (List Char × Place) := do
  let (blanks, q) := p.takeWhile isSpace
  if q.rest.isEmpty then throw .malformed
  match q.takeBreak? with
  | none => return (blanks, q)
  | some (first, r) =>
    let (more, after) ← quotedBreaks r.rest.length [] r
    return (foldBreaks first more, after)

def shortEscapes : List (Char × Char) := [
  ('0', '\x00'), ('a', '\x07'), ('b', '\x08'), ('t', '\t'), ('\t', '\t'), ('n', '\n'),
  ('v', '\x0b'), ('f', '\x0c'), ('r', '\r'), ('e', '\x1b'), (' ', ' '), ('"', '"'),
  ('\\', '\\'), ('/', '/'), ('N', '\x85'), ('_', '\xa0'), ('L', '\u2028'), ('P', '\u2029')]

/-- The escapes of character codes, with the number of their digits. -/
def codeEscapes : List (Char × Nat) := [('x', 2), ('u', 4), ('U', 8)]

/-- What an escape after its backslash stands for. -/
def quotedEscape (p : Place) : Except Fault (List CodePoint × Place) :=
  match p.peek 0 with
  | none => .error .malformed
  | some c =>
    match shortEscapes.lookup c, codeEscapes.lookup c, p.takeBreak? with
    | some meant, _, _ => .ok ([.char meant], p.next)
    | none, some count, _ =>
      let digits := p.next.rest.take count
      -- All digits must be there: a code has no shorter form.
      if digits.length = count ∧ digits.all Text.isHexDigit then
        let code := Text.hexNumber digits
        if 0x80000000 ≤ code then .error .hugeCode
        else if code < 0x110000 then .ok ([.ofNat code], p.next.skip count) else .error .invalidScalar
      else .error .malformed
    | none, none, some (_, q) => do
      let (text, after) ← quotedBreaks q.rest.length [] q
      return (text.map .char, after)
    | none, none, none => .error .malformed

/-- The rest of a quoted scalar after its opening quote. -/
def quotedScalar (double : Bool) : Nat → List CodePoint → Place →
    Except Fault (List CodePoint × Place)
  | 0, _, _ => .error .malformed
  | fuel + 1, done, p =>
    match p.peek 0 with
    | none => .error .malformed
    | some c =>
      if isSpace c || isBreak c then do
        let (text, q) ← quotedBlanks p
        quotedScalar double fuel (done ++ text.map .char) q
      else if double && c = '\\' then do
        let (text, q) ← quotedEscape p.next
        quotedScalar double fuel (done ++ text) q
      else if c = (if double then '"' else '\'') then
        -- an apostrophe is doubled to stand for itself
        if !double && p.peek 1 = some '\'' then quotedScalar double fuel (done ++ [.char '\'']) p.next.next
        else .ok (done, p.next)
      else quotedScalar double fuel (done ++ [.char c]) p.next

/-! ## Block scalars -/

/-- What the header of a block scalar says about line breaks at its end. -/
inductive Chomping where
  | strip
  | clip
  | keep
  deriving DecidableEq, Repr

structure BlockHeader where
  chomping : Chomping := .clip
  /-- The given indentation of the text. -/
  increment : Option Nat := none

/-- The sign for line breaks at the end. -/
def takeChomping (p : Place) : Option (Chomping × Place) :=
  match p.peek 0 with
  | some '+' => some (.keep, p.next)
  | some '-' => some (.strip, p.next)
  | _ => none

/-- The digit for the indentation. -/
def takeIncrement (p : Place) : Except Fault (Option (Nat × Place)) :=
  match p.peek 0 with
  | some c =>
    if c = '0' then .error .malformed
    else if c.isDigit then .ok (some (c.toNat - 48, p.next))
    else .ok none
  | none => .ok none

/-- The header of a block scalar: a sign and a digit, in any order. -/
def blockHeader (p : Place) : Except Fault (BlockHeader × Place) := do
  let (header, q) ← match takeChomping p with
    | some (chomping, q) =>
      match ← takeIncrement q with
      | some (n, r) => pure ({ chomping, increment := some n : BlockHeader }, r)
      | none => pure ({ chomping }, q)
    | none =>
      match ← takeIncrement p with
      | some (n, q) =>
        match takeChomping q with
        | some (chomping, r) => pure ({ chomping, increment := some n : BlockHeader }, r)
        | none => pure ({ increment := some n : BlockHeader }, q)
      | none => pure ({}, p)
  if q.isStrictGap then return (header, q) else throw .malformed

/-- Blank lines at the start of a block scalar, the place after them and the widest indentation. -/
def leadingBreaks : Nat → List Char → Nat → Place → List Char × Nat × Place
  | 0, done, widest, p => (done, widest, p)
  | fuel + 1, done, widest, p =>
    if p.peek 0 = some ' ' then leadingBreaks fuel done (max widest p.next.column) p.next
    else match p.takeBreak? with
      | some (c, q) => leadingBreaks fuel (done ++ [c]) widest q
      | none => (done, widest, p)

/-- The place after spaces up to a column. -/
def skipIndent (indent : Nat) (p : Place) : Place :=
  p.skip (min (p.rest.takeWhile (· = ' ')).length (indent - p.column))

/-- Blank lines within a block scalar. -/
def innerBreaks (indent : Nat) : Nat → List Char → Place → List Char × Place
  | 0, done, p => (done, p)
  | fuel + 1, done, p =>
    let q := skipIndent indent p
    match q.takeBreak? with
    | some (c, r) => innerBreaks indent fuel (done ++ [c]) r
    | none => (done, q)

/-- Does a line of a folded scalar keep the break next to it? -/
def keepsBreak (p : Place) : Bool := (p.peek 0).any isSpace

/-- The lines of a block scalar. `breaks` are the blank lines before the next one. The result holds
the text, the last break of a line, the blank lines at the end, and the place after it all. -/
def blockLines (folded : Bool) (indent : Nat) :
    Nat → List Char → List Char → Place → List Char × List Char × List Char × Place
  | 0, done, breaks, p => (done, [], breaks, p)
  | fuel + 1, done, breaks, p =>
    let (line, q) := p.takeWhile fun c => !isBreak c
    let text := done ++ breaks ++ line
    match q.takeBreak? with
    | none => (text, [], [], q)
    | some (ending, r) =>
      let (more, next) := innerBreaks indent r.rest.length [] r
      if next.column = indent ∧ !next.rest.isEmpty then
        -- A folded break is a space, or nothing before blank lines; it stays next to a line that
        -- begins with a blank.
        let joint :=
          if folded && ending = '\n' && !keepsBreak p && !keepsBreak next then
            if more.isEmpty then [' '] else []
          else [ending]
        blockLines folded indent fuel (text ++ joint) more next
      else (text, [ending], more, next)

/-- A block scalar after its sign. `parent` is the indentation around it. -/
def blockScalar (folded : Bool) (parent : Int) (p : Place) : Except Fault (List Char × Place) := do
  let (header, q) ← blockHeader p
  let start ← q.skipRestOfLine
  let least := (max (parent + 1) 1).toNat
  -- without a digit the text itself tells its indentation by its first line, blank ones included
  let (indent, breaks, first) := match header.increment with
    | some n =>
      let indent := least + n - 1
      let (breaks, first) := innerBreaks indent (start.rest.length + 1) [] start
      (indent, breaks, first)
    | none =>
      let (breaks, widest, first) := leadingBreaks start.rest.length [] 0 start
      (max least widest, breaks, first)
  let (text, ending, trailing, after) :=
    if first.column = indent ∧ !first.rest.isEmpty then
      blockLines folded indent (first.rest.length + 1) [] breaks first
    else ([], [], breaks, first)
  return match header.chomping with
    | .strip => (text, after)
    | .clip => (text ++ ending, after)
    | .keep => (text ++ ending ++ trailing, after)

end Bindery.Data.Yaml
