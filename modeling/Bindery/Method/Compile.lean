import Bindery.Method.Documentation
import Bindery.Method.Placement
import Bindery.Name.Method

/-!
# From documents to methods

Every verb of every path of a document becomes a method, in document order.
-/
namespace Bindery

open Bindery.Schema (Definitions Metadata Operation ParsedDocument)

def compileOperation (name verb baseUrl path : String) (operation : Operation)
    (definitions : Definitions) : Except Failure (Noted Method) :=
  let list := buildArguments path operation definitions
  let endpoint : Endpoint := ⟨name, verb, path⟩
  match buildRequest endpoint (baseUrl ++ path) list.value with
  | .error fault => .error (fault.failure endpoint)
  | .ok request =>
    .ok ⟨{
      name
      documentation := documentation operation.summary operation.deprecated list.value.arguments
      arguments := list.value.arguments
      request := request.value }, list.notices ++ request.notices⟩

/-- The name of the method for a verb: verbs are told apart if a path has several of them. -/
def methodName (base verb : String) (several : Bool) : String :=
  let derived := (if several then Text.title verb else "") ++ base
  -- A path may leave nothing to name the method after; then the verb does.
  let name := Name.member derived
  if name.isEmpty then Text.title verb else name

def compileVerbs (base baseUrl path : String) (definitions : Definitions) (several : Bool) :
    List (String × Operation) → Except Failure (Noted (List Method))
  | [] => .ok (pure [])
  | (verb, operation) :: rest =>
    match compileOperation (methodName base verb several) verb baseUrl path operation definitions with
    | .error failure => .error failure
    | .ok first =>
      match compileVerbs base baseUrl path definitions several rest with
      | .error failure => .error failure
      | .ok others => .ok ⟨first.value :: others.value, first.notices ++ others.notices⟩

def compileEndpoint (api baseUrl path : String) (operations : List (String × Operation))
    (definitions : Definitions) : Except Failure (Noted (List Method)) :=
  compileVerbs (Name.method api path) baseUrl path definitions (1 < operations.length) operations

def compilePaths (metadata : Metadata) (definitions : Definitions) :
    List (String × List (String × Operation)) → Except Failure (Noted (List Method))
  | [] => .ok (pure [])
  | (path, operations) :: rest =>
    match compileEndpoint metadata.identifier metadata.url path operations definitions with
    | .error failure => .error failure
    | .ok first =>
      match compilePaths metadata definitions rest with
      | .error failure => .error failure
      | .ok others => .ok ⟨first.value ++ others.value, first.notices ++ others.notices⟩

/-- The methods of one version of an API. -/
def compileDocument (metadata : Metadata) (document : ParsedDocument) :
    Except Failure (Noted (List Method)) :=
  compilePaths metadata document.definitions document.operations

end Bindery
