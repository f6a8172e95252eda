import Bindery.Failure
import Bindery.Method.Arguments

/-!
# The documentation of a method

The description stands on the first line, a deprecation and a line for each argument follow. The
names of optional arguments are in brackets.
-/
namespace Bindery

def argumentLine (argument : Argument) : String :=
  let kind := match argument.choices with
    | none | some [] => (Schema.nonEmpty? argument.type).getD "any"
    | some values => String.intercalate "|" values
  let name := if argument.required then argument.name else "[" ++ argument.name ++ "]"
  "    " ++ name ++ " (" ++ kind ++ ")" ++ Failure.clause (some argument.description) (": " ++ ·)

def documentationLines (description : Option String) (deprecated : Bool)
    (arguments : List Argument) : List String :=
  let line := summaryLine description
  (if line.isEmpty then "No description" else line) ::
    (if deprecated then ["", "Deprecated."] else []) ++
    (if arguments.isEmpty then [] else "" :: "Args:" :: arguments.map argumentLine)

def documentation (description : Option String) (deprecated : Bool) (arguments : List Argument) :
    String :=
  String.intercalate "\n" (documentationLines description deprecated arguments)

end Bindery
