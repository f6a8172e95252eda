import Bindery.Text.Quoted

/-!
# Notices

A run can go on in spite of some findings. They are values, kept in the order in which they arise.
-/
namespace Bindery

/-- Something worth a warning. -/
inductive Notice where
  /-- A reference that names no schema given in place. -/
  | unresolvedReference (target : String)
  /-- A path parameter that the path has no placeholder for. -/
  | missingPlaceholder (parameter path : String)
  /-- A page listing APIs that cannot be read. -/
  | unavailableSource (url reason : String)
  deriving DecidableEq, Repr

def Notice.message : Notice → String
  | unresolvedReference target => "Cannot resolve schema reference " ++ Text.literal target
  | missingPlaceholder parameter path =>
    "Path parameter '" ++ parameter ++ "' has no placeholder in " ++ path
  | unavailableSource url reason => "Source \"" ++ url ++ "\" is not available: " ++ reason

/-- A value together with the notices that arose on the way to it. -/
structure Noted (α : Type) where
  value : α
  notices : List Notice := []
  deriving Repr

namespace Noted

instance : Monad Noted where
  pure value := ⟨value, []⟩
  bind x f :=
    let y := f x.value
    ⟨y.value, x.notices ++ y.notices⟩

/-- Only a notice. -/
def note (notice : Notice) : Noted Unit := ⟨(), [notice]⟩

end Noted

end Bindery
