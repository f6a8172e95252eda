import Bindery.Source.Imports

/-!
# Type hints

The documented type of an argument decides its type hint. Lists nest; an element of unknown type
may be anything, while an argument of unknown type is given none.
-/
namespace Bindery

open Bindery.Source (Expr Imports)

/-- The type hint of an argument. -/
inductive TypeHint where
  | builtin (name : String)
  | any
  | listOf (element : TypeHint)
  deriving DecidableEq, Repr

namespace TypeHint

/-- The builtin type of a documented one. -/
def primitive? : List Char → Option String
  | ['s', 't', 'r', 'i', 'n', 'g'] => some "str"
  | ['i', 'n', 't', 'e', 'g', 'e', 'r'] => some "int"
  | ['n', 'u', 'm', 'b', 'e', 'r'] => some "float"
  | ['b', 'o', 'o', 'l', 'e', 'a', 'n'] => some "bool"
  | ['o', 'b', 'j', 'e', 'c', 't'] => some "dict"
  | ['a', 'r', 'r', 'a', 'y'] => some "list"
  | _ => none

/-- The label between `array<` and a final `>`. -/
def elementLabel? : List Char → Option (List Char)
  | 'a' :: 'r' :: 'r' :: 'a' :: 'y' :: '<' :: rest =>
    if rest.getLast? = some '>' then some rest.dropLast else none
  | _ => none

theorem length_of_elementLabel? {label element : List Char} (h : elementLabel? label = some element) :
    element.length < label.length := by
  unfold elementLabel? at h
  split at h
  · split at h
    · injection h with h
      subst h
      simp only [List.length_dropLast, List.length_cons]
      omega
    · contradiction
  · contradiction

/-- The type hint of a type label. -/
def ofChars? (label : List Char) : Option TypeHint :=
  match _h : elementLabel? label with
  | some element => some (.listOf ((ofChars? element).getD .any))
  | none =>
    if label = ['f', 'i', 'l', 'e'] then some .any
    else (primitive? label).map .builtin
  termination_by label.length
  decreasing_by exact length_of_elementLabel? (by assumption)

/-- The type hint of a documented type, if it has one. -/
def ofLabel? (label : Option String) : Option TypeHint := label.bind fun s => ofChars? s.toList

def toExpr : TypeHint → Expr
  | builtin name => .name name
  | any => .name "Any"
  | listOf element => .item (.name "list") [element.toExpr]

/-- Does the type hint mention the type of anything? -/
def mentionsAny : TypeHint → Bool
  | builtin _ => false
  | any => true
  | listOf element => element.mentionsAny

def imports (hint : TypeHint) : Imports :=
  if hint.mentionsAny then .single "typing" ["Any"] else {}

end TypeHint

end Bindery
