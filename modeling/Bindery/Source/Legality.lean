import Bindery.Name.Identifier
import Bindery.Source.Printer

/-!
# Legal source

Source whose names are free text may fail to be a program: a name has to be an identifier, and a
parameter list has to have distinct names. Brackets may not lie too deep in one another, and a
formatted literal has to be read back as it was meant.
-/
namespace Bindery.Source

/-- What may stand between the words of a line. -/
def isGap (c : Char) : Bool := c = ' ' || c = '\t' || c = '\x0c'

/-- A name without the blanks around it, which are no part of it. -/
def bareName (name : String) : String :=
  String.ofList (((name.toList.dropWhile isGap).reverse.dropWhile isGap).reverse)

/-- A name that the target language takes in a place for names. -/
def isLegalName (name : String) : Bool :=
  let bare := bareName name
  Text.isIdentifier bare && !Name.isKeyword bare && bare != "__debug__"

/-- Names of constants, which have values but cannot be given any. -/
def constantNames : List String := ["None", "True", "False", "__debug__"]

/-- A name that may stand for a value. -/
def isValueName (name : String) : Bool :=
  isLegalName name || constantNames.contains (bareName name)

def isLegalModule (module : String) : Bool :=
  (Name.splitOnAny (· = '.') module.toList).all fun piece => isLegalName (String.ofList piece)

/-- Would a literal with this quote end before its text does? A backslash takes the character after
it along. -/
def endsEarly (quote : Text.Quote) : List Char → Bool
  | [] => false
  | ['\\'] => true
  | '\\' :: _ :: rest => endsEarly quote rest
  | c :: rest =>
    quote.text.isPrefixOf (c :: rest ++ quote.text) || (c = '\n' && !quote.isTriple) ||
      endsEarly quote rest

/-- Is a backslash left in an interpolated expression once the pieces are enclosed? -/
def leavesBackslash (quotes : List Text.Quote) : List (List Char × Bool) → Bool
  | [] => false
  | (piece, isLiteral) :: rest =>
    let enclosed := Text.enclose piece quotes isLiteral
    (!isLiteral && enclosed.body.contains '\\') || leavesBackslash enclosed.quotes rest

/-- Is a formatted literal read back as it was meant? Not if its pieces need different quotes. -/
def isReadBack (pieces : List (String ⊕ Expr)) : Bool :=
  match printPieces pieces with
  | .error _ => false
  | .ok printed =>
    let (body, quotes) := enclosePieces Text.Quote.all printed
    !leavesBackslash Text.Quote.all printed && quotes.head?.all fun quote => !endsEarly quote body

/-- May the outermost part of an expression stand in a program? -/
def Expr.isLegalPart : Expr → Bool
  | .name id => isValueName id
  | .attribute _ member => isLegalName member
  | .call _ _ named => named.all fun entry => isLegalName entry.1
  | .formatted pieces => isReadBack pieces
  | _ => true

/-- How many brackets may be open at once. -/
def bracketLimit : Nat := 200

/-- May the expression stand in a program, inside so many brackets? -/
def Expr.isLegalIn (brackets : Nat) (e : Expr) : Bool :=
  e.parts.all Expr.isLegalPart && brackets + e.nesting Expr.isBracketed ≤ bracketLimit

def Expr.isLegal (e : Expr) : Bool := e.isLegalIn 0

/-- May the expression be given a value? -/
def Expr.isLegalTarget : Expr → Bool
  | .name id => isLegalName id
  | e => e.isLegal

/-- May the parameter stand in the brackets of a parameter list? -/
def Parameter.isLegal (parameter : Parameter) : Bool :=
  isLegalName parameter.name && parameter.hint.all (Expr.isLegalIn 1) &&
    parameter.default.all (Expr.isLegalIn 1)

def areDistinct : List String → Bool
  | [] => true
  | name :: rest => !rest.contains name && areDistinct rest

/-- May the parameters stand in one list? Each has a name of its own. -/
def areLegalParameters (parameters : List Parameter) : Bool :=
  parameters.all Parameter.isLegal && areDistinct (parameters.map fun p => bareName p.name)

mutual

def Stmt.isLegal : Stmt → Bool
  | .importFrom module _ names => module.all isLegalModule && names.all isLegalName
  | .assign target value => target.isLegalTarget && value.isLegal
  | .expression value | .return value => value.isLegal
  | .reraise => true
  | .ifThen test body => test.isLegal && areLegalAll body
  | .tryExcept body failure binder handler =>
    areLegalAll body && isLegalName failure && isLegalName binder && areLegalAll handler
  | .function _ name positional keywordOnly returns _ body =>
    isLegalName name && areLegalParameters (positional ++ keywordOnly) && returns.isLegal &&
      areLegalAll body
  | .classDef name _ members => isLegalName name && areLegalAll members

def areLegalAll : List Stmt → Bool
  | [] => true
  | statement :: rest => statement.isLegal && areLegalAll rest

end

end Bindery.Source
