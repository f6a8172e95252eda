import Bindery.Method.Basic
import Bindery.Package.TypeHint
import Bindery.Source.Printer

/-!
# The source of methods and their classes

A method becomes an asynchronous function with arguments that are given by name. Required arguments
have a marker for their default, and the function checks them before it sends its request.
-/
namespace Bindery

open Bindery.Source (Expr Imports Parameter Stmt)

/-- A piece of source together with what it needs imported. -/
structure Importing (α : Type) where
  source : α
  imports : Imports

def Value.toExpr : Value → Expr
  | .argument name => .name name
  | .group fields => .dict (fields.map fun field => (field.1, .name field.2))

/-- The literal text of a URL that interpolates nothing. -/
def literalUrl? : List UrlPart → Option String
  | [] => some ""
  | .text literal :: rest => (literalUrl? rest).map (literal ++ ·)
  | .value _ :: _ => none

def UrlPart.piece : UrlPart → String ⊕ Expr
  | .text literal => .inl literal
  | .value v => .inr v.toExpr

/-- The expression of a URL: a formatted literal if it interpolates values. -/
def urlExpr (parts : List UrlPart) : Expr :=
  match literalUrl? parts with
  | some literal => .text literal
  | none => .formatted (parts.map UrlPart.piece)

/-- The default of a required argument. -/
def requiredMarker : Expr := .name requiredName

/-- The parameter of an argument. An optional one may be left out. -/
def Argument.parameter (argument : Argument) : Parameter where
  name := argument.name
  hint := (TypeHint.ofLabel? argument.type).map fun hint =>
    if argument.required then hint.toExpr else .union hint.toExpr .none
  default := some (if argument.required then requiredMarker else .none)

def Argument.imports (argument : Argument) : Imports :=
  ((TypeHint.ofLabel? argument.type).map TypeHint.imports).getD {}

/-- The check that a required argument was given. -/
def Argument.guard (argument : Argument) (method : String) : Stmt :=
  .ifThen (.same (.name argument.name) requiredMarker)
    [.expression (.call (.name "required") [.text argument.name, .text method] [])]

/-- Values under their keys, unless there are none. -/
def entriesKeyword (keyword : String) (entries : List (String × Value)) : List (String × Expr) :=
  if entries.isEmpty then []
  else [(keyword, .dict (entries.map fun entry => (entry.1, entry.2.toExpr)))]

/-- A single value, unless it is missing. -/
def valueKeyword (keyword : String) (value : Option Value) : List (String × Expr) :=
  match value with
  | some v => [(keyword, v.toExpr)]
  | none => []

/-- What a request sends beside its verb and URL. -/
def Request.keywords (request : Request) : List (String × Expr) :=
  entriesKeyword "params" request.query ++ entriesKeyword "headers" request.headers ++
    valueKeyword "json" request.json ++ valueKeyword "data" request.form ++
    valueKeyword "files" request.files

def Request.call (request : Request) : Expr :=
  .await (.call (.attribute (Source.selfAttribute "client") "request")
    [.text request.verb, urlExpr request.url] request.keywords)

def Method.function (method : Method) : Stmt :=
  .function true method.name [{ name := "self" }] (method.arguments.map Argument.parameter)
    (.name "Any") method.documentation
    (method.requiredArguments.map (·.guard method.name) ++ [.return method.request.call])

def Method.imports (method : Method) : Imports :=
  let hinted := method.arguments.foldl (fun found argument => found.merge argument.imports)
    (.single "typing" ["Any"])
  if method.requiredArguments.isEmpty then hinted
  else hinted.add "rbxapi.runtime" [requiredName, "required"]

def Method.render (method : Method) : Importing Stmt := ⟨method.function, method.imports⟩

def classConstructor : Stmt :=
  .function false "__init__"
    [{ name := "self" }, { name := "client", hint := some (.name "AuthenticatedClient") }] []
    .none "Bind the client used for web requests."
    [.assign (Source.selfAttribute "client") (.name "client")]

/-- The class that holds methods. -/
def renderClass (name documentation : String) (methods : List Method) : Importing Stmt where
  source := .classDef name documentation (classConstructor :: methods.map Method.function)
  imports := methods.foldl (fun found method => found.merge method.imports)
    (.single "rbxapi.client" ["AuthenticatedClient"])

end Bindery
