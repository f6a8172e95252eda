import Bindery.Package.MethodSource
import Bindery.Package.Tree

/-!
# Version modules

Each version of an API has a module with one class, which is all that the module offers.
-/
namespace Bindery

open Bindery.Source (Stmt)

def versionModule (api : ApiNode) (version : String) : List Stmt :=
  let name := Name.versionClass api.metadata.identifier version
  let rendered := renderClass name api.metadata.title (api.methods version)
  rendered.imports.statements ++ [Source.exports [name], rendered.source]

end Bindery
