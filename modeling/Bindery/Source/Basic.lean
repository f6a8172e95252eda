/-!
# Generated source

The part of the target language, Python, that a generated package is written in. Source is built as
a tree and becomes text in one place only.
-/
namespace Bindery.Source

/-- An expression. -/
inductive Expr where
  | name (id : String)
  | text (value : String)
  | number (value : Int)
  | none
  | attribute (base : Expr) (member : String)
  /-- Subscription with one index or several. -/
  | item (base : Expr) (indices : List Expr)
  | call (function : Expr) (arguments : List Expr) (named : List (String × Expr))
  | dict (entries : List (String × Expr))
  | list (items : List Expr)
  | tuple (items : List Expr)
  /-- A choice of types. -/
  | union (left right : Expr)
  | await (operand : Expr)
  | same (left right : Expr)
  | differs (left right : Expr)
  /-- A literal with interpolated values: pieces of text and expressions. -/
  | formatted (pieces : List (String ⊕ Expr))
  deriving Inhabited, Repr

/-- A parameter of a function. -/
structure Parameter where
  name : String
  hint : Option Expr := Option.none
  default : Option Expr := Option.none
  deriving Inhabited, Repr

/-- A statement. Every function and class carries documentation. -/
inductive Stmt where
  /-- Names imported from a module; `level` counts the dots of a relative one. -/
  | importFrom (module : Option String) (level : Nat) (names : List String)
  | assign (target value : Expr)
  | expression (value : Expr)
  | return (value : Expr)
  /-- Raise the failure that is being handled. -/
  | reraise
  | ifThen (test : Expr) (body : List Stmt)
  | tryExcept (body : List Stmt) (failure binder : String) (handler : List Stmt)
  | function (async : Bool) (name : String) (positional keywordOnly : List Parameter)
      (returns : Expr) (documentation : String) (body : List Stmt)
  | classDef (name documentation : String) (members : List Stmt)
  deriving Inhabited, Repr

def exports (names : List String) : Stmt := .assign (.name "__all__") (.tuple (names.map .text))

/-- A choice among several types; without any there is none. -/
def unionOf? : List Expr → Option Expr
  | [] => Option.none
  | first :: others => some (others.foldl .union first)

/-- An attribute of the instance of a method. -/
def selfAttribute (member : String) : Expr := .attribute (.name "self") member

end Bindery.Source
