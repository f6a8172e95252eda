/-!
# Methods

A method wraps one operation of an API: its arguments, and the request that it sends when it is
called. It is described independently of the syntax it is written in later.
-/
namespace Bindery

/-- Where the value of an argument goes: the name it is sent under, and the documented location. -/
structure Target where
  name : String
  location : Option String
  deriving DecidableEq, Repr

/-- An argument of a method. -/
structure Argument where
  name : String
  /-- The name in the documentation. -/
  documented : String
  type : Option String
  target : Target
  required : Bool
  description : String := ""
  /-- The allowed values, as they are written in documentation. -/
  choices : Option (List String) := none
  deriving DecidableEq, Repr

/-- A value that a request sends. -/
inductive Value where
  /-- The value of one argument. -/
  | argument (name : String)
  /-- An object built from several arguments, by key. -/
  | group (fields : List (String × String))
  deriving DecidableEq, Repr

/-- A piece of a URL. -/
inductive UrlPart where
  | text (value : String)
  | value (value : Value)
  deriving DecidableEq, Repr

/-- The request that a method sends. -/
structure Request where
  verb : String
  url : List UrlPart
  query : List (String × Value) := []
  headers : List (String × Value) := []
  json : Option Value := none
  form : Option Value := none
  files : Option Value := none
  deriving DecidableEq, Repr

/-- A method of the generated client. -/
structure Method where
  name : String
  documentation : String
  arguments : List Argument
  request : Request
  deriving DecidableEq, Repr

/-- The arguments that a call has to give. -/
def Method.requiredArguments (method : Method) : List Argument :=
  method.arguments.filter (·.required)

/-- The name of the marker that stands for a required argument that is not given. -/
def requiredName : String := "REQUIRED"

end Bindery
