import Bindery.Text.Blank
import Bindery.Text.Digit
import Bindery.Text.LetterCase
import Bindery.Text.Word

/-!
# Search patterns

A pattern is a tree, and matching it is a backtracking search with one rule of preference: earlier
alternatives before later ones, more repetitions before fewer (or the reverse for lazy ones), and
earlier starts before later ones. The matcher takes what has to follow as a function, so that the
preferred way to go on is tried first and the next one only if that fails.
-/
namespace Bindery

/-- A named class of characters. -/
inductive CharKind where
  | digit
  | blank
  | word
  deriving DecidableEq, Repr

/-- Is a character of a class? With `ascii`, characters beyond ASCII are in none. -/
def CharKind.holds (ascii : Bool) (kind : CharKind) (c : Char) : Bool :=
  if ascii && 128 ≤ c.toNat then false
  else match kind with
    | digit => Text.isDecimalDigit c
    | blank => Text.isBlank c && !(ascii && 28 ≤ c.toNat && c.toNat ≤ 31)
    | word => Text.isWordPart c

/-- A member of a character set: a range of codes, or a kind or its complement. -/
inductive CharItem where
  | range (low high : Nat)
  | kind (kind : CharKind) (ascii inside : Bool)
  deriving DecidableEq, Repr

/-- How far letters that differ in case are the same. -/
inductive CaseRule where
  | exact
  | ascii
  | full
  deriving DecidableEq, Repr

namespace CaseRule

/-- The form of a character by which it is compared. -/
def fold (rule : CaseRule) (c : Char) : Char :=
  match rule with
  | exact => c
  | ascii => c.toLower
  | full => Text.lowerChar c

/-- Characters that count as the same as one that is folded. -/
def variants (rule : CaseRule) (folded : Char) : List Char :=
  match rule with
  | exact => [folded]
  | ascii => [folded, folded.toUpper]
  | full =>
    let lowered := folded :: (Text.caseVariants.find? folded).getD []
    lowered ++ lowered.flatMap Text.upperChars

/-- Is a character the same as one with a given code? -/
def same (rule : CaseRule) (code : Nat) (c : Char) : Bool :=
  match rule with
  | exact => code = c.toNat
  | ascii => rule.fold (Char.ofNat code) = rule.fold c && (code < 128 || code = c.toNat)
  | full => Text.sameLetter (Char.ofNat code) c && (code.isValidChar || code = c.toNat)

end CaseRule

/-- Does an item hold a character, or one that is the same but for case? -/
def CharItem.holds (rule : CaseRule) (item : CharItem) (c : Char) : Bool :=
  match item with
  | range low high =>
    if low = high then rule.same low c
    else (low ≤ c.toNat && c.toNat ≤ high) ||
      (rule.variants (rule.fold c)).any fun v => low ≤ v.toNat && v.toNat ≤ high
  | kind k ascii inside => k.holds ascii c == inside

/-- Places that a pattern can ask for without consuming anything. -/
inductive Anchor where
  /-- The very start of the text. -/
  | start
  /-- The start of a line. -/
  | lineStart
  /-- The end of the text, also before a final line break. -/
  | finish
  /-- The end of a line. -/
  | lineFinish
  /-- The very end of the text. -/
  | exactFinish
  /-- Between a word character and something else, or not so; a void text has neither place. -/
  | wordBoundary (ascii inside : Bool)
  deriving DecidableEq, Repr

/-- A search pattern. -/
inductive Pattern where
  | empty
  /-- One character among the items, or one among none of them. -/
  | oneOf (items : List CharItem) (inside : Bool) (rule : CaseRule)
  | seq (first second : Pattern)
  | alt (first second : Pattern)
  /-- A body several times, without an upper bound if there is no `most`. -/
  | repeated (least : Nat) (most : Option Nat) (greedy : Bool) (body : Pattern)
  /-- What the body matches is kept under a number. -/
  | group (index : Nat) (body : Pattern)
  | anchor (place : Anchor)
  /-- What a group holds, once more. -/
  | again (index : Nat) (rule : CaseRule)
  /-- The first way to match the body, and no other one. -/
  | settled (body : Pattern)
  /-- Does the body match here, some characters further back, or not? -/
  | look (back : Nat) (inside : Bool) (body : Pattern)
  /-- One pattern if a group took part, and another one if not. -/
  | given (index : Nat) (taken other : Pattern)
  deriving DecidableEq, Repr

/-- A place in the text: how many characters were consumed, those before, the last one first, what
follows, and the groups filled so far, the latest first. -/
structure Cursor where
  position : Nat
  before : List Char
  rest : List Char
  groups : List (Nat × List Char)
  deriving DecidableEq, Repr

namespace Cursor

/-- The place before the first character. -/
def atStart (text : List Char) : Cursor := ⟨0, [], text, []⟩

/-- What a group holds, if it took part. -/
def group? (s : Cursor) (index : Nat) : Option (List Char) := s.groups.lookup index

def skip (s : Cursor) (count : Nat) : Cursor :=
  { s with
    position := s.position + count
    before := (s.rest.take count).reverse ++ s.before
    rest := s.rest.drop count }

def back? (s : Cursor) (count : Nat) : Option Cursor :=
  if count ≤ s.position then
    some { s with
      position := s.position - count
      before := s.before.drop count
      rest := (s.before.take count).reverse ++ s.rest }
  else none

def holds (s : Cursor) : Anchor → Bool
  | .start => s.position = 0
  | .lineStart => s.before.head?.all (· = '\n')
  | .finish => s.rest = [] || s.rest = ['\n']
  | .lineFinish => s.rest.head?.all (· = '\n')
  | .exactFinish => s.rest = []
  | .wordBoundary ascii inside =>
    let left := s.before.head?.any (CharKind.word.holds ascii)
    let right := s.rest.head?.any (CharKind.word.holds ascii)
    (s.position ≠ 0 || !s.rest.isEmpty) && (left != right) == inside

/-- The place after a text that follows, if it does. -/
def after? (s : Cursor) (rule : CaseRule) (text : List Char) : Option Cursor :=
  if (s.rest.take text.length).map rule.fold = text.map rule.fold then some (s.skip text.length)
  else none

end Cursor

def consumed (start finish : Cursor) : List Char :=
  start.rest.take (finish.position - start.position)

namespace Pattern

/-- A way to match: it takes how to go on, and a place. -/
abbrev Matcher := (Cursor → Option Cursor) → Cursor → Option Cursor

/-- Repeat a body between two bounds. After the least number of times, an iteration that consumes
nothing is the last one; `last` is where the iteration before began. `budget` bounds the number of
iterations. -/
def repeatBody (body : Matcher) (least : Nat) (most : Option Nat) (greedy : Bool)
    (next : Cursor → Option Cursor) : Nat → Nat → Option Nat → Cursor → Option Cursor
  | 0, _, _, s => next s
  | budget + 1, count, last, s =>
    if count < least then body (repeatBody body least most greedy next budget (count + 1) last) s
    else
      -- Whichever way comes second is tried only after the first one has failed.
      let more := fun (_ : Unit) =>
        if most.all (count < ·) && last ≠ some s.position then
          body (repeatBody body least most greedy next budget (count + 1) (some s.position)) s
        else none
      if greedy then (more ()).orElse fun _ => next s else (next s).orElse more

/-- Match the pattern at a place and go on with `next`; the first way that succeeds counts. -/
def run : Pattern → Matcher
  | empty, next, s => next s
  | oneOf items inside rule, next, s =>
    match s.rest with
    | [] => none
    | c :: rest =>
      if items.any (·.holds rule c) == inside then next ⟨s.position + 1, c :: s.before, rest, s.groups⟩
      else none
  | seq first second, next, s => first.run (second.run next) s
  | alt first second, next, s => (first.run next s).orElse fun _ => second.run next s
  | repeated least most greedy body, next, s =>
    -- the bound counts the least rounds and one round for each character left; no more can make progress
    repeatBody body.run least most greedy next (least + s.rest.length + 2) 0 none s
  | group index body, next, s =>
    body.run (fun t => next { t with groups := (index, consumed s t) :: t.groups }) s
  | anchor place, next, s => if s.holds place then next s else none
  | again index rule, next, s => ((s.group? index).bind (s.after? rule)).bind next
  -- the first way through the body is final, whatever follows it
  | settled body, next, s => (body.run some s).bind next
  | look back inside body, next, s =>
    match (s.back? back).bind (body.run some) with
    | some found => if inside then next { s with groups := found.groups } else none
    | none => if inside then none else next s
  | given index taken other, next, s =>
    if (s.group? index).isSome then taken.run next s else other.run next s

/-- The end of the preferred match at a place. With `advance`, the match must consume something. -/
def matchAt? (pattern : Pattern) (advance : Bool) (s : Cursor) : Option Cursor :=
  pattern.run (fun t => if advance && t.position = s.position then none else some t) s

/-- The first match from a place on, whose characters before it are known. -/
def search (pattern : Pattern) (position : Nat) (before : List Char) (advance : Bool)
    (rest : List Char) : Option (Cursor × Cursor) :=
  let start : Cursor := ⟨position, before, rest, []⟩
  match pattern.matchAt? advance start with
  | some finish => some (start, finish)
  | none =>
    match rest with
    | [] => none
    | c :: more => search pattern (position + 1) (c :: before) false more

/-- Successive matches from a place on. A match may follow the one before it directly, but not be
empty at the place where an empty one was found. Twice as many steps as characters suffice. -/
def searchAll (pattern : Pattern) : Nat → Cursor → Bool → List Cursor
  | 0, _, _ => []
  | budget + 1, s, advance =>
    match pattern.search s.position s.before advance s.rest with
    | none => []
    | some (start, finish) =>
      -- After an empty match the next one has to consume something if it starts at this place.
      finish :: searchAll pattern budget finish (finish.position = start.position)

/-- All matches in a text, from left to right. -/
def findAll (pattern : Pattern) (text : List Char) : List Cursor :=
  pattern.searchAll (2 * text.length + 2) (.atStart text) false

/-- Does the pattern match at the start of the text? -/
def matchesStart (pattern : Pattern) (text : List Char) : Bool :=
  (pattern.matchAt? false (.atStart text)).isSome

/-! ## Widths -/

/-- The least and the greatest number of characters that a pattern can match. -/
structure Width where
  least : Nat
  most : Option Nat
  deriving DecidableEq, Repr

namespace Width

def add (a b : Width) : Width :=
  ⟨a.least + b.least, a.most.bind fun m => b.most.map (m + ·)⟩

/-- The width of one of two patterns. -/
def join (a b : Width) : Width :=
  ⟨min a.least b.least, a.most.bind fun m => b.most.map (max m ·)⟩

def times (a : Width) (least : Nat) (most : Option Nat) : Width :=
  let bound := if a.most = some 0 ∨ most = some 0 then some 0
    else a.most.bind fun m => most.map (m * ·)
  ⟨a.least * least, bound⟩

end Width

/-- The width of a pattern, where the widths of some groups are known. -/
def width (groups : List (Nat × Width)) : Pattern → Width
  | empty | anchor _ | look .. => ⟨0, some 0⟩
  | oneOf .. => ⟨1, some 1⟩
  | seq first second => (first.width groups).add (second.width groups)
  | alt first second => (first.width groups).join (second.width groups)
  | repeated least most _ body => (body.width groups).times least most
  | group _ body | settled body => body.width groups
  | again index _ => (groups.lookup index).getD ⟨0, some 0⟩
  | given _ taken other => (taken.width groups).join (other.width groups)

end Pattern

end Bindery
