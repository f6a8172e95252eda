import Bindery.Name.Identifier

/-!
# Version names

`v1.0` is offered as `v1`, and `v1.5` is written `v1_5` in module and class names.
-/
namespace Bindery.Name

/-- A version without a final `.0`; a line break may follow the latter. -/
def versionKeyChars : List Char → List Char
  | [] => []
  | ['.', '0'] => []
  | ['.', '0', '\n'] => ['\n']
  | c :: rest => c :: versionKeyChars rest

/-- The key of a version in the generated client. -/
def versionKey (version : String) : String := String.ofList (versionKeyChars version.toList)

/-- A version as a part of an identifier. -/
def versionSuffix (version : String) : String :=
  String.ofList ((versionKeyChars version.toList).map fun c => if Text.isWordChar c then c else '_')

/-- The name of the class, and of the module, of one version of an API. -/
def versionClass (api version : String) : String := api ++ "_" ++ versionSuffix version

end Bindery.Name
