import Bindery.Text.Printable

/-!
# Quoted texts

String literals of generated source. An ordinary literal prefers single quotes and escapes what is
not printable. Docstrings and the pieces of formatted literals keep to a set of quotes that the
surrounding literal still allows: escaping is avoided where another quote will do.
-/
namespace Bindery.Text

/-- The last `count` lower-case hexadecimal digits of a number, padded with zeros. -/
def hexDigits (count n : Nat) : List Char :=
  let digits := Nat.toDigits 16 n
  List.replicate (count - digits.length) '0' ++ digits

/-- The escape sequence of a character that cannot stand as it is. -/
def escapeChar (c : Char) : List Char :=
  if c = '\\' then ['\\', '\\']
  else if c = '\n' then ['\\', 'n']
  else if c = '\t' then ['\\', 't']
  else if c = '\r' then ['\\', 'r']
  else if c.toNat < 0x100 then '\\' :: 'x' :: hexDigits 2 c.toNat
  else if c.toNat < 0x10000 then '\\' :: 'u' :: hexDigits 4 c.toNat
  else '\\' :: 'U' :: hexDigits 8 c.toNat

def needsEscape (c : Char) : Bool := c = '\\' || !isPrintable c

/-- The quote of an ordinary literal: a single one, unless only single ones occur inside. -/
def literalQuote (s : List Char) : Char :=
  if '\'' ∈ s ∧ '"' ∉ s then '"' else '\''

/-- The inside of an ordinary literal. -/
def literalBody (s : List Char) : List Char :=
  let quote := literalQuote s
  s.flatMap fun c =>
    if c = quote then ['\\', c] else if needsEscape c then escapeChar c else [c]

def literal (s : String) : String :=
  let quote := literalQuote s.toList
  String.ofList (quote :: literalBody s.toList ++ [quote])

/-- The marks that may enclose a literal. -/
inductive Quote where
  | single
  | double
  | tripleDouble
  | tripleSingle
  deriving DecidableEq, Repr

namespace Quote

def mark : Quote → Char
  | single | tripleSingle => '\''
  | double | tripleDouble => '"'

def isTriple : Quote → Bool
  | tripleDouble | tripleSingle => true
  | single | double => false

def text (q : Quote) : List Char := List.replicate (if q.isTriple then 3 else 1) q.mark

/-- Every quote, the preferred ones first. -/
def all : List Quote := [single, double, tripleDouble, tripleSingle]

/-- The quotes of documentation. -/
def triple : List Quote := [tripleDouble, tripleSingle]

def occursIn (q : Quote) (s : List Char) : Bool :=
  match s with
  | [] => false
  | c :: rest => q.text.isPrefixOf (c :: rest) || occursIn q rest

end Quote

/-- The text of a literal, and the quotes that can enclose it, the preferred one first. -/
structure Enclosed where
  body : List Char
  quotes : List Quote
  deriving DecidableEq, Repr

/-- Escape what must be escaped, and choose among the quotes that are allowed. Line breaks and tabs
stay as they are unless `escapeLayout`, and then only triple quotes can hold a line break. A final
quote character like the enclosing ones is escaped. If no quote is left, the text is written as in
an ordinary literal. -/
def enclose (s : List Char) (allowed : List Quote) (escapeLayout : Bool) : Enclosed :=
  let escaped := s.flatMap fun c =>
    if (c = '\n' ∨ c = '\t') ∧ !escapeLayout then [c]
    else if needsEscape c then escapeChar c else [c]
  -- Only triple quotes can hold a line break.
  let fitting := if '\n' ∈ escaped then allowed.filter Quote.isTriple else allowed
  match fitting.filter (!·.occursIn escaped), escaped.getLast? with
  | [], _ =>
    let mark := literalQuote s
    let quote := (allowed.find? (·.mark = mark)).getD (if mark = '"' then .double else .single)
    ⟨literalBody s, [quote]⟩
  | quotes, none => ⟨escaped, quotes⟩
  | quotes, some last =>
    -- A quote that differs from the last character comes first, so that nothing is escaped.
    let sorted := quotes.filter (·.mark ≠ last) ++ quotes.filter (·.mark = last)
    if sorted.head?.map Quote.mark = some last then
      ⟨escaped.dropLast ++ ['\\', last], sorted⟩
    else ⟨escaped, sorted⟩

/-- The text between its preferred quotes. -/
def Enclosed.text (e : Enclosed) : List Char :=
  let quote := (e.quotes.head?.map Quote.text).getD []
  quote ++ e.body ++ quote

def docstring (s : String) : String := String.ofList (enclose s.toList Quote.triple false).text

/-- A literal inside a formatted one, where escapes are avoided if possible. -/
def innerLiteral (s : String) : String := String.ofList (enclose s.toList Quote.all false).text

end Bindery.Text
