import Bindery.Source.Shape
import Bindery.Text.Quoted

/-!
# The text of generated source

Four spaces to a level, a blank line before each function and class, and literals as `Text.Quoted`
writes them. Two things cannot be written: a backslash inside an interpolated expression, and an
expression with too many levels.
-/
namespace Bindery.Source

/-- Why source has no text. -/
inductive PrintFault where
  | backslashInExpression
  /-- An expression has too many levels. -/
  | tooDeep
  deriving DecidableEq, Repr

def PrintFault.message : PrintFault → String
  | backslashInExpression => "Unable to avoid backslash in f-string expression part"
  | tooDeep => "maximum recursion depth exceeded"

def commaSeparated (items : List String) : String := String.intercalate ", " items

/-- A text literal; inside an interpolated expression, escapes are avoided. -/
def textLiteral (inner : Bool) (value : String) : String :=
  if inner then Text.innerLiteral value else Text.literal value

/-- Braces of a literal piece stand twice. -/
def doubleBraces (s : List Char) : List Char :=
  s.flatMap fun c => if c = '\x7b' ∨ c = '\x7d' then [c, c] else [c]

def interpolated (expression : String) : Except PrintFault (List Char) :=
  let s := expression.toList
  if s.contains '\\' then .error .backslashInExpression
  else
    -- Two braces in a row would stand for one literal brace.
    let gap := if s.head? = some '\x7b' then [' '] else []
    .ok ('\x7b' :: gap ++ s ++ ['\x7d'])

/-- Enclose the pieces of a formatted literal one after another; each may narrow the choice of
quotes. Line breaks are escaped in literal pieces only. -/
def enclosePieces (quotes : List Text.Quote) : List (List Char × Bool) → List Char × List Text.Quote
  | [] => ([], quotes)
  | (piece, isLiteral) :: rest =>
    let enclosed := Text.enclose piece quotes isLiteral
    let (others, left) := enclosePieces enclosed.quotes rest
    (enclosed.body ++ others, left)

def formattedLiteral (pieces : List (List Char × Bool)) : String :=
  let (body, quotes) := enclosePieces Text.Quote.all pieces
  let quote := (quotes.head?.map Text.Quote.text).getD []
  String.ofList ('f' :: quote ++ body ++ quote)

/-- Expressions that need no parentheses before an attribute, an index or a call. -/
def Expr.isClosed : Expr → Bool
  | union .. | await _ | same .. | differs .. => false
  | _ => true

def parenthesized (closed : Bool) (s : String) : String := if closed then s else "(" ++ s ++ ")"

mutual

def Expr.print (inner : Bool) : Expr → Except PrintFault String
  | .name id => .ok id
  | .text value => .ok (textLiteral inner value)
  | .number value => .ok (toString value)
  | .none => .ok "None"
  | .attribute base member => do
    return parenthesized base.isClosed (← base.print inner) ++ "." ++ member
  | .item base indices => do
    let printed ← base.print inner
    return parenthesized base.isClosed printed ++ "[" ++ commaSeparated (← printAll inner indices) ++ "]"
  | .call function arguments named => do
    let callee ← function.print inner
    let values ← printAll inner arguments
    let others ← printNamed inner named
    return parenthesized function.isClosed callee ++ "(" ++ commaSeparated (values ++ others) ++ ")"
  | .dict entries => do
    return "\x7b" ++ commaSeparated (← printEntries inner entries) ++ "\x7d"
  | .list items => do return "[" ++ commaSeparated (← printAll inner items) ++ "]"
  | .tuple items => do
    match ← printAll inner items with
    | [item] => return "(" ++ item ++ ",)"
    | printed => return "(" ++ commaSeparated printed ++ ")"
  | .union left right => do
    let first ← left.print inner
    let second ← right.print inner
    let leftClosed := match left with
      | .same .. | .differs .. => false
      | _ => true
    return parenthesized leftClosed first ++ " | " ++ parenthesized right.isClosed second
  | .await operand => do return "await " ++ parenthesized operand.isClosed (← operand.print inner)
  | .same left right => do return (← left.print inner) ++ " is " ++ (← right.print inner)
  | .differs left right => do return (← left.print inner) ++ " != " ++ (← right.print inner)
  | .formatted pieces => do return formattedLiteral (← printPieces pieces)

def printAll (inner : Bool) : List Expr → Except PrintFault (List String)
  | [] => .ok []
  | item :: rest => do return (← item.print inner) :: (← printAll inner rest)

def printNamed (inner : Bool) : List (String × Expr) → Except PrintFault (List String)
  | [] => .ok []
  | (name, value) :: rest => do
    return (name ++ "=" ++ (← value.print inner)) :: (← printNamed inner rest)

def printEntries (inner : Bool) : List (String × Expr) → Except PrintFault (List String)
  | [] => .ok []
  | (key, value) :: rest => do
    return (textLiteral inner key ++ ": " ++ (← value.print inner)) :: (← printEntries inner rest)

/-- The pieces of a formatted literal, with a mark on the literal ones. -/
def printPieces : List (String ⊕ Expr) → Except PrintFault (List (List Char × Bool))
  | [] => .ok []
  | .inl literal :: rest => do return (doubleBraces literal.toList, true) :: (← printPieces rest)
  | .inr value :: rest => do
    return (← interpolated (← value.print true), false) :: (← printPieces rest)

end

/-- How many levels an expression may have. -/
def depthLimit : Nat := 325

/-- The text of an expression that stands in no other. -/
def Expr.source (e : Expr) : Except PrintFault String :=
  if depthLimit < e.depth then .error .tooDeep else e.print false

def Parameter.print (parameter : Parameter) : Except PrintFault String := do
  let hint ← match parameter.hint with
    | some type => do pure (": " ++ (← type.source))
    | none => pure ""
  let default ← match parameter.default with
    | some value => do pure ("=" ++ (← value.source))
    | none => pure ""
  return parameter.name ++ hint ++ default

/-- A parameter list; a star stands before those that are given by name only. -/
def printParameters (positional keywordOnly : List Parameter) : Except PrintFault String := do
  let first ← positional.mapM Parameter.print
  let second ← keywordOnly.mapM Parameter.print
  return commaSeparated (first ++ if second.isEmpty then [] else "*" :: second)

def indented (level : Nat) (line : String) : String :=
  String.ofList (List.replicate (4 * level) ' ') ++ line

mutual

/-- The lines of a statement. A text with line breaks inside counts as one line. -/
def Stmt.lines (level : Nat) : Stmt → Except PrintFault (List String)
  | .importFrom module depth names =>
    .ok [indented level ("from " ++ String.ofList (List.replicate depth '.') ++ module.getD "" ++
      " import " ++ commaSeparated names)]
  | .assign target value => do
    return [indented level ((← target.source) ++ " = " ++ (← value.source))]
  | .expression value => do return [indented level (← value.source)]
  | .return value => do return [indented level ("return " ++ (← value.source))]
  | .reraise => .ok [indented level "raise"]
  | .ifThen test body => do
    return indented level ("if " ++ (← test.source) ++ ":") :: (← linesOf (level + 1) body)
  | .tryExcept body failure binder handler => do
    return indented level "try:" :: (← linesOf (level + 1) body) ++
      indented level ("except " ++ failure ++ " as " ++ binder ++ ":") ::
      (← linesOf (level + 1) handler)
  | .function async name positional keywordOnly returns documentation body => do
    let parameters ← printParameters positional keywordOnly
    let result ← returns.source
    let header := (if async then "async def " else "def ") ++ name ++ "(" ++ parameters ++ ") -> " ++
      result ++ ":"
    return "" :: indented level header :: indented (level + 1) (Text.docstring documentation) ::
      (← linesOf (level + 1) body)
  | .classDef name documentation members => do
    return "" :: indented level ("class " ++ name ++ ":") ::
      indented (level + 1) (Text.docstring documentation) :: (← linesOf (level + 1) members)

def linesOf (level : Nat) : List Stmt → Except PrintFault (List String)
  | [] => .ok []
  | statement :: rest => do return (← statement.lines level) ++ (← linesOf level rest)

end

/-- The text of a module; no blank line stands at its start. -/
def printModule (statements : List Stmt) : Except PrintFault String := do
  match ← linesOf 0 statements with
  | "" :: lines => return String.intercalate "\n" lines
  | lines => return String.intercalate "\n" lines

end Bindery.Source
