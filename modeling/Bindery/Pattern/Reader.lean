import Bindery.Pattern.Basic
import Bindery.Text.Identifier

/-!
# Reading patterns

The written form of patterns: literals, `.`, sets in brackets, groups, alternatives, repetitions with
their lazy and possessive variants, anchors, references to groups, conditions, tests of what is before
or after a place, switches and escapes.
-/
namespace Bindery.Pattern

/-- Why a text is no pattern. -/
inductive Fault where
  | unterminatedSet
  | badRange
  | badEscape
  | unterminatedGroup
  | unbalancedGroup
  | unknownExtension
  | nothingToRepeat
  | multipleRepeat
  | badRepeat
  /-- A group is named twice, or its name is none. -/
  | badName
  /-- There is no such group, or it is not complete yet. -/
  | badReference
  /-- A switch is unknown, at the wrong place, or contradicts another one. -/
  | badSwitch
  /-- A test of what is before a place needs to know how much that is. -/
  | variableWidth
  /-- Two switches at the start exclude each other. -/
  | clashingSwitches
  /-- A number of repetitions, or a code, is too large. -/
  | hugeNumber
  /-- Groups are nested too deeply. -/
  | tooDeep
  deriving DecidableEq, Repr

/-- A character of the written form, or one with a backslash before it. -/
structure Token where
  char : Char
  escaped : Bool
  deriving DecidableEq, Repr

/-- The tokens of a text; a backslash cannot come last. -/
def tokens : List Char → Except Fault (List Token)
  | [] => .ok []
  | c :: rest =>
    if c = '\\' then
      match rest with
      | [] => .error .badEscape
      | d :: more => (tokens more).map (⟨d, true⟩ :: ·)
    else (tokens rest).map (⟨c, false⟩ :: ·)

def Token.is (token : Token) (c : Char) : Bool := token.char = c && !token.escaped

def startsWith (c : Char) (s : List Token) : Bool := s.head?.any (·.is c)

/-- The longest beginning, up to a number of tokens, of plain characters that satisfy a test. -/
def takeChars (count : Nat) (test : Char → Bool) (s : List Token) : List Char × List Token :=
  let taken := (s.take count).takeWhile fun token => !token.escaped && test token.char
  (taken.map Token.char, s.drop taken.length)

def takeDigits (s : List Token) : List Char × List Token := takeChars s.length Char.isDigit s

def decimal (digits : List Char) : Nat := digits.foldl (fun n c => 10 * n + (c.toNat - 48)) 0

def isOctalDigit (c : Char) : Bool := '0' ≤ c && c ≤ '7'

def octal (digits : List Char) : Nat := digits.foldl (fun n c => 8 * n + (c.toNat - 48)) 0

/-! ## Switches -/

/-- What switches say. -/
structure Switches where
  ignoresCase : Bool := false
  /-- Do lines have their own starts and ends? -/
  lines : Bool := false
  /-- Does a point stand for a line break, too? -/
  anyChar : Bool := false
  /-- Are blanks and comments left out? -/
  spaced : Bool := false
  /-- Are there letters, digits and blanks in ASCII only? -/
  ascii : Bool := false
  unicode : Bool := false
  /-- Is nothing repeated? -/
  fixed : Bool := false
  deriving DecidableEq, Repr

namespace Switches

/-- The same switches with one of them set to a value. -/
def set? (switches : Switches) (letter : Char) (value : Bool) : Option Switches :=
  match letter with
  | 'i' => some { switches with ignoresCase := value }
  | 'm' => some { switches with lines := value }
  | 's' => some { switches with anyChar := value }
  | 'x' => some { switches with spaced := value }
  | 'a' => some { switches with ascii := value }
  | 'u' => some { switches with unicode := value }
  | 't' => some { switches with fixed := value }
  | _ => none

def rule (switches : Switches) : CaseRule :=
  if !switches.ignoresCase then .exact else if switches.ascii then .ascii else .full

end Switches

def isSwitch (c : Char) : Bool := "aimsutx".toList.contains c

/-- Switches after an opening parenthesis and a question mark: those turned on and those turned
off. -/
structure SwitchGroup where
  on : List Char
  off : List Char
  /-- Do they hold for the whole pattern? -/
  isGlobal : Bool

/-- Letters up to a sign that ends them. -/
def takeSwitches (s : List Token) : Except Fault (List Char × List Token) :=
  let (letters, rest) := takeChars s.length isSwitch s
  if letters.contains 'a' && letters.contains 'u' then .error .badSwitch else .ok (letters, rest)

def readSwitches (s : List Token) : Except Fault (SwitchGroup × List Token) := do
  let (on, rest) ← takeSwitches s
  match rest with
  | [] => throw .badSwitch
  | sign :: more =>
    if sign.is ')' then
      if on.isEmpty then throw .badSwitch
      return (⟨on, [], true⟩, more)
    -- this switch is for whole patterns and cannot hold for a group only
    else if on.contains 't' then throw .badSwitch
    else if sign.is ':' then
      if on.isEmpty then throw .badSwitch
      return (⟨on, [], false⟩, more)
    else if sign.is '-' then
      let (off, after) ← takeSwitches more
      if off.isEmpty || off.any (fun c => "aut".toList.contains c || on.contains c) then
        throw .badSwitch
      if startsWith ':' after then return (⟨on, off, false⟩, after.drop 1)
      throw .badSwitch
    else throw .badSwitch

/-- Switches inside a group. The kinds of characters are those of ASCII or not, but never both. -/
def SwitchGroup.apply (group : SwitchGroup) (switches : Switches) : Switches :=
  let start := if group.on.contains 'a' || group.on.contains 'u' then
      { switches with ascii := false, unicode := false }
    else switches
  let on := group.on.foldl (fun found c => (found.set? c true).getD found) start
  group.off.foldl (fun found c => (found.set? c false).getD found) on

/-- Switches for the whole pattern add to each other. -/
def SwitchGroup.addTo (group : SwitchGroup) (switches : Switches) : Switches :=
  group.on.foldl (fun found c => (found.set? c true).getD found) switches

/-! ## Escapes and sets -/

/-- The kinds of characters with an escape of their own. -/
def kindEscape? (ascii : Bool) : Char → Option CharItem
  | 'd' => some (.kind .digit ascii true)
  | 'D' => some (.kind .digit ascii false)
  | 's' => some (.kind .blank ascii true)
  | 'S' => some (.kind .blank ascii false)
  | 'w' => some (.kind .word ascii true)
  | 'W' => some (.kind .word ascii false)
  | _ => none

def controlEscape? : Char → Option Char
  | 'a' => some '\x07'
  | 'f' => some '\x0c'
  | 'n' => some '\n'
  | 'r' => some '\r'
  | 't' => some '\t'
  | 'v' => some '\x0b'
  | _ => none

/-- A code given by a fixed number of hexadecimal digits. -/
def readCode (count : Nat) (s : List Token) : Except Fault (Nat × List Token) :=
  let (digits, rest) := takeChars count Text.isHexDigit s
  let code := Text.hexNumber digits
  if digits.length ≠ count then .error .badEscape
  else if 0x80000000 ≤ code then .error .hugeNumber
  else if 0x110000 ≤ code then .error .badEscape
  else .ok (code, rest)

/-- The greatest code that octal digits can give. -/
def octalLimit : Nat := 0xff

/-- The code that an escape stands for: a control character, a number, or a character that is not a
letter or digit and stands for itself. -/
def readCharEscape (c : Char) (rest : List Token) : Except Fault (Nat × List Token) :=
  match controlEscape? c with
  | some control => .ok (control.toNat, rest)
  | none =>
    match c with
    | 'x' => readCode 2 rest
    | 'u' => readCode 4 rest
    | 'U' => readCode 8 rest
    | _ => if c.isAlphanum then .error .badEscape else .ok (c.toNat, rest)

/-- One member of a set: an item, or a code. -/
def readSetMember (ascii : Bool) : List Token → Except Fault ((CharItem ⊕ Nat) × List Token)
  | [] => .error .unterminatedSet
  | ⟨c, false⟩ :: rest => .ok (.inr c.toNat, rest)
  | ⟨c, true⟩ :: rest =>
    match kindEscape? ascii c with
    | some item => .ok (.inl item, rest)
    | none =>
      if c = 'b' then .ok (.inr 8, rest)
      else if isOctalDigit c then
        let (digits, after) := takeChars 2 isOctalDigit rest
        let code := octal (c :: digits)
        if octalLimit < code then .error .badEscape else .ok (.inr code, after)
      else (readCharEscape c rest).map fun (code, after) => (.inr code, after)

/-- The members of a set up to its bracket; a bracket that comes first is a member. -/
def readSet (ascii : Bool) : Nat → List CharItem → List Token →
    Except Fault (List CharItem × List Token)
  | 0, _, _ => .error .unterminatedSet
  | fuel + 1, done, s => do
    if startsWith ']' s && !done.isEmpty then return (done.reverse, s.drop 1)
    let (low, rest) ← readSetMember ascii s
    let single : CharItem := match low with
      | .inl item => item
      | .inr code => .range code code
    if !startsWith '-' rest then readSet ascii fuel (single :: done) rest
    else
      let more := rest.drop 1
      -- A hyphen before the closing bracket stands for itself.
      if startsWith ']' more then
        return ((.range '-'.toNat '-'.toNat :: single :: done).reverse, more.drop 1)
      let (high, after) ← readSetMember ascii more
      match low, high with
      | .inr a, .inr b =>
        if b < a then throw .badRange else readSet ascii fuel (.range a b :: done) after
      | _, _ => throw .badRange

/-! ## Repetitions -/

/-- How often something is repeated. -/
structure Repeat where
  least : Nat
  most : Option Nat

/-- A number of repetitions is less than this. -/
def repeatLimit : Nat := 0xffffffff

/-- The bounds in braces; what does not have their form is a literal brace. -/
def readBounds (s : List Token) : Except Fault (Option (Repeat × List Token)) :=
  let (low, afterLow) := takeDigits s
  let (high, afterHigh) := if startsWith ',' afterLow then
      let (high, rest) := takeDigits (afterLow.drop 1)
      (high, rest)
    else (low, afterLow)
  if startsWith '\x7d' s || !startsWith '\x7d' afterHigh then .ok none
  else if repeatLimit ≤ decimal low || repeatLimit ≤ decimal high then .error .hugeNumber
  else if !high.isEmpty && decimal high < decimal low then .error .badRepeat
  else
    let most := if high.isEmpty then none else some (decimal high)
    .ok (some (⟨decimal low, most⟩, afterHigh.drop 1))

def readRepeat : List Token → Except Fault (Option (Repeat × List Token))
  | ⟨'*', false⟩ :: rest => .ok (some (⟨0, none⟩, rest))
  | ⟨'+', false⟩ :: rest => .ok (some (⟨1, none⟩, rest))
  | ⟨'?', false⟩ :: rest => .ok (some (⟨0, some 1⟩, rest))
  | ⟨'\x7b', false⟩ :: rest => readBounds rest
  | _ => .ok none

/-- What an item of a sequence is with regard to repetitions. -/
inductive Role where
  | place
  | repetition
  | other
  deriving DecidableEq, Repr

structure Item where
  pattern : Pattern
  role : Role := .other

/-- The pattern of a repetition, and what follows the sign for its variant. -/
def Repeat.apply (bounds : Repeat) (body : Pattern) (s : List Token) : Item × List Token :=
  let made (greedy : Bool) (body : Pattern) := Pattern.repeated bounds.least bounds.most greedy body
  if startsWith '?' s then (⟨made false body, .repetition⟩, s.drop 1)
  -- Whatever a possessive repetition has taken, it keeps.
  else if startsWith '+' s then (⟨settled (made true (settled body)), .repetition⟩, s.drop 1)
  else (⟨made true body, .repetition⟩, s)

/-! ## Sequences and groups -/

/-- What is left of a text after reading, and what is known about its groups. -/
structure Tail where
  rest : List Token
  /-- How many groups were opened. -/
  opened : Nat := 0
  /-- The widths of those that were closed. -/
  closed : List (Nat × Width) := []
  names : List (String × Nat) := []
  /-- Switches for the whole pattern. -/
  switches : Switches := {}
  /-- Inside a test of what is before a place: how many groups were opened before it. -/
  openedBefore : Option Nat := none
  /-- The greatest number of a group that a condition asks for. -/
  asked : Nat := 0
  /-- Is there a test of what is before a place whose width is not known? -/
  loose : Bool := false

namespace Tail

def drop (s : Tail) (count : Nat) : Tail := { s with rest := s.rest.drop count }

/-- A group that can be referred to: it is complete, and was so before a test of what is before. -/
def checkGroup (s : Tail) (index : Nat) : Except Fault Unit :=
  if s.openedBefore.isNone then .ok ()
  else if (s.closed.lookup index).isNone || s.openedBefore.any (· < index) then .error .badReference
  else .ok ()

/-- The number of a group that is complete. -/
def checkClosed (s : Tail) (index : Nat) : Except Fault Unit :=
  if (s.closed.lookup index).isNone then .error .badReference else s.checkGroup index

end Tail

/-- A name up to a sign that ends it, which is not empty. -/
def takeName (finish : Char) (s : List Token) : Except Fault (String × List Token) :=
  let taken := s.takeWhile fun token => !token.is finish
  let name := String.ofList (taken.flatMap fun token =>
    if token.escaped then ['\\', token.char] else [token.char])
  if taken.isEmpty || taken.length = s.length then .error .badName
  else .ok (name, s.drop (taken.length + 1))

def takeIdentifier (finish : Char) (s : List Token) : Except Fault (String × List Token) := do
  let (name, rest) ← takeName finish s
  if Text.isIdentifier name then return (name, rest) else throw .badName

/-- A reference to a group, or a character in octal digits, after the first digit `c`. -/
def readReference (rule : CaseRule) (c : Char) (s : Tail) : Except Fault (Pattern × Tail) := do
  let (second, after) := takeChars 1 Char.isDigit s.rest
  let digits := c :: second
  let (third, afterThird) := takeChars 1 isOctalDigit after
  if digits.length = 2 && digits.all isOctalDigit && !third.isEmpty then
    let code := octal (digits ++ third)
    if octalLimit < code then throw .badEscape
    return (oneOf [.range code code] true rule, { s with rest := afterThird })
  let index := decimal digits
  s.checkClosed index
  return (again index rule, { s with rest := after })

/-- An escape outside a set, after its backslash. -/
def readEscape (switches : Switches) (c : Char) (s : Tail) : Except Fault (Item × Tail) := do
  let anchored (place : Anchor) : Item × Tail := (⟨anchor place, .place⟩, s)
  match c with
  | 'b' => return anchored (.wordBoundary switches.ascii true)
  | 'B' => return anchored (.wordBoundary switches.ascii false)
  | 'A' => return anchored .start
  | 'Z' => return anchored .exactFinish
  | '0' =>
    let (digits, rest) := takeChars 2 isOctalDigit s.rest
    let code := octal digits
    return ({ pattern := oneOf [.range code code] true switches.rule }, { s with rest })
  | _ =>
    -- a zero began an octal code above, so these digits number a group
    if c.isDigit then
      let (pattern, tail) ← readReference switches.rule c s
      return ({ pattern }, tail)
    match kindEscape? switches.ascii c with
    | some item => return ({ pattern := oneOf [item] true .exact }, s)
    | none =>
      let (code, rest) ← readCharEscape c s.rest
      return ({ pattern := oneOf [.range code code] true switches.rule }, { s with rest })

/-- A set after its opening bracket. -/
def readBrackets (switches : Switches) (s : Tail) : Except Fault (Item × Tail) := do
  let outside := startsWith '^' s.rest
  let body := if outside then s.rest.drop 1 else s.rest
  let (items, rest) ← readSet switches.ascii (body.length + 1) [] body
  return ({ pattern := oneOf items (!outside) switches.rule }, { s with rest })

/-- What follows a comment on a line. -/
def skipLine (s : List Token) : List Token := (s.dropWhile fun token => !token.is '\n').drop 1

def isPatternBlank (c : Char) : Bool := " \t\n\r\x0b\x0c".toList.contains c

/-- The group that a condition asks for. -/
def readCondition (s : Tail) : Except Fault (Nat × Tail) := do
  let (name, rest) ← takeName ')' s.rest
  let digits := (Text.trimBlanks name.toList).map fun c =>
    ((Text.digitValue? c).map fun digit => Char.ofNat (48 + digit)).getD c
  let s := { s with rest }
  let index ←
    if Text.isIdentifier name then
      match s.names.lookup name with
      | some index => pure index
      | none => throw .badReference
    else if digits.all Char.isDigit && decimal digits ≠ 0 then pure (decimal digits)
    else throw .badName
  s.checkGroup index
  return (index, { s with asked := max s.asked index })

def depthLimit : Nat := 490

/-- Where a sequence stands. -/
structure Scope where
  switches : Switches
  /-- Is it the first thing in the pattern? -/
  first : Bool := false
  /-- Is it in no group? -/
  outer : Bool := false
  /-- How many more groups may be opened around each other. -/
  room : Nat

def Scope.inner (scope : Scope) (switches : Switches) : Except Fault Scope :=
  if scope.room = 0 then .error .tooDeep else .ok { switches, room := scope.room - 1 }

def Tail.close (s : Tail) : Except Fault Tail :=
  if startsWith ')' s.rest then .ok (s.drop 1) else .error .unterminatedGroup

/-- The items of a sequence, which were gathered last one first, as one pattern. -/
def ofItems (items : List Item) : Pattern :=
  items.foldl (fun after item =>
    if after = empty then item.pattern else seq item.pattern after) empty

mutual

/-- Alternatives up to a closing parenthesis or the end. -/
def readAlternatives : Nat → Scope → Tail → Except Fault (Pattern × Tail)
  | 0, _, _ => .error .unterminatedGroup
  | fuel + 1, scope, s => do
    let (first, tail) ← readSequence fuel scope [] s
    if !startsWith '|' tail.rest then return (first, tail)
    -- What was switched at the start holds for the other alternatives, too.
    let switches := if scope.outer then tail.switches else scope.switches
    let (others, tail) ← readAlternatives fuel { scope with switches, first := false } (tail.drop 1)
    return (alt first others, tail)

/-- Items with their repetitions; `done` holds those read, last one first. -/
def readSequence : Nat → Scope → List Item → Tail → Except Fault (Pattern × Tail)
  | 0, _, _, _ => .error .unterminatedGroup
  | fuel + 1, scope, done, s => do
    let add (found : Item × Tail) := readSequence fuel scope (found.1 :: done) found.2
    match s.rest with
    | [] => return (ofItems done, s)
    | ⟨c, true⟩ :: _ => add (← readEscape scope.switches c (s.drop 1))
    | ⟨c, false⟩ :: rest =>
      if c = '|' ∨ c = ')' then return (ofItems done, s)
      else if scope.switches.spaced && isPatternBlank c then readSequence fuel scope done (s.drop 1)
      else if scope.switches.spaced && c = '#' then
        readSequence fuel scope done { s with rest := skipLine rest }
      else match ← readRepeat s.rest with
        | some (bounds, after) =>
          match done with
          | [] => throw .nothingToRepeat
          | item :: others =>
            -- a place has nothing to repeat, and a repetition cannot be repeated in turn
            if item.role = .place then throw .nothingToRepeat
            if item.role = .repetition then throw .multipleRepeat
            if s.switches.fixed then throw .badSwitch
            let (made, after) := bounds.apply item.pattern after
            readSequence fuel scope (made :: others) { s with rest := after }
        | none =>
          match c with
          | '.' =>
            let out := if scope.switches.anyChar then [] else [CharItem.range 10 10]
            add ({ pattern := oneOf out false .exact }, s.drop 1)
          | '^' =>
            add (⟨anchor (if scope.switches.lines then .lineStart else .start), .place⟩, s.drop 1)
          | '$' =>
            add (⟨anchor (if scope.switches.lines then .lineFinish else .finish), .place⟩, s.drop 1)
          | '[' => add (← readBrackets scope.switches (s.drop 1))
          | '(' =>
            if startsWith '?' rest then readExtension fuel scope done (s.drop 2)
            else add (← readGroup fuel scope none (s.drop 1))
          | _ => add ({ pattern := oneOf [.range c.toNat c.toNat] true scope.switches.rule }, s.drop 1)

/-- A group that keeps what it matches, after its opening sign. -/
def readGroup : Nat → Scope → Option String → Tail → Except Fault (Item × Tail)
  | 0, _, _, _ => .error .unterminatedGroup
  | fuel + 1, scope, name, s => do
    let index := s.opened + 1
    if name.any fun n => (s.names.lookup n).isSome then throw .badName
    let names := match name with
      | some n => (n, index) :: s.names
      | none => s.names
    let (body, tail) ← readAlternatives fuel (← scope.inner scope.switches)
      { s with opened := index, names }
    let tail ← tail.close
    return ({ pattern := group index body },
      { tail with closed := (index, body.width tail.closed) :: tail.closed })

/-- A group of another kind, after its question mark. -/
def readExtension : Nat → Scope → List Item → Tail → Except Fault (Pattern × Tail)
  | 0, _, _, _ => .error .unterminatedGroup
  | fuel + 1, scope, done, s => do
    let add (found : Item × Tail) := readSequence fuel scope (found.1 :: done) found.2
    -- The body of a group that keeps nothing, with switches of its own.
    let inner (switches : Switches) (s : Tail) : Except Fault (Pattern × Tail) := do
      let (body, tail) ← readAlternatives fuel (← scope.inner switches) s
      return (body, ← tail.close)
    match s.rest with
    | [] => throw .unknownExtension
    | ⟨_, true⟩ :: _ => throw .unknownExtension
    | ⟨c, false⟩ :: rest =>
      match c with
      | ':' =>
        let (body, tail) ← inner scope.switches (s.drop 1)
        add ({ pattern := body }, tail)
      | '>' =>
        let (body, tail) ← inner scope.switches (s.drop 1)
        add ({ pattern := settled body }, tail)
      | '#' =>
        if rest.all fun token => !token.is ')' then throw .unterminatedGroup
        readSequence fuel scope done
          { s with rest := (rest.dropWhile fun token => !token.is ')').drop 1 }
      | '=' | '!' =>
        let (body, tail) ← inner scope.switches (s.drop 1)
        add ({ pattern := look 0 (c = '=') body }, tail)
      | '<' =>
        let inside := startsWith '=' rest
        if !inside && !startsWith '!' rest then throw .unknownExtension
        let before := s.openedBefore
        let (body, tail) ← inner scope.switches
          { s.drop 2 with openedBefore := before <|> some s.opened }
        let width := body.width tail.closed
        let loose := tail.loose || width.most ≠ some width.least
        add ({ pattern := look width.least inside body }, { tail with openedBefore := before, loose })
      | '(' =>
        let (index, tail) ← readCondition (s.drop 1)
        let innerScope ← scope.inner scope.switches
        let (taken, tail) ← readSequence fuel innerScope [] tail
        let (other, tail) ←
          if startsWith '|' tail.rest then readSequence fuel innerScope [] (tail.drop 1)
          else pure (empty, tail)
        add ({ pattern := given index taken other }, ← tail.close)
      | 'P' =>
        if startsWith '<' rest then
          let (name, rest) ← takeIdentifier '>' (rest.drop 1)
          add (← readGroup fuel scope (some name) { s with rest })
        else if startsWith '=' rest then
          let (name, rest) ← takeIdentifier ')' (rest.drop 1)
          match s.names.lookup name with
          | none => throw .badReference
          | some index =>
            s.checkClosed index
            add ({ pattern := again index scope.switches.rule }, { s with rest })
        else throw .unknownExtension
      | _ =>
        if !isSwitch c && c ≠ '-' then throw .unknownExtension
        let (found, rest) ← readSwitches s.rest
        if found.isGlobal then
          -- Switches for the whole pattern stand at its very start.
          if !scope.first || !done.isEmpty then throw .badSwitch
          let switches := found.addTo s.switches
          readSequence fuel { scope with switches } done { s with rest, switches }
        else
          let (body, tail) ← inner (found.apply scope.switches) { s with rest }
          add ({ pattern := body }, tail)

end

/-- The pattern that a text writes and the number of its groups, which are counted by their opening
parentheses. -/
def read (text : String) : Except Fault (Pattern × Nat) := do
  let all ← tokens text.toList
  let scope : Scope := { switches := {}, first := true, outer := true, room := depthLimit }
  let (pattern, tail) ← readAlternatives (5 * all.length + 8) scope { rest := all }
  if tail.switches.ascii && tail.switches.unicode then throw .clashingSwitches
  if !tail.rest.isEmpty then throw .unbalancedGroup
  if tail.opened < tail.asked then throw .badReference
  if tail.loose then throw .variableWidth
  return (pattern, tail.opened)

end Bindery.Pattern
