import Bindery.Source.Basic

/-!
# The shape of expressions

What an expression consists of, and how deep its parts lie in one another.
-/
namespace Bindery.Source

mutual

/-- The expressions inside an expression, in the order of its text. -/
def Expr.inside : Expr → List Expr
  | .name _ | .text _ | .number _ | .none => []
  | .attribute base _ => base :: base.inside
  | .item base indices => base :: base.inside ++ membersOf indices
  | .call function arguments named =>
    function :: function.inside ++ membersOf arguments ++ membersOfNamed named
  | .dict entries => membersOfNamed entries
  | .list items | .tuple items => membersOf items
  | .union left right | .same left right | .differs left right =>
    left :: left.inside ++ right :: right.inside
  | .await operand => operand :: operand.inside
  | .formatted pieces => membersOfPieces pieces

/-- Expressions together with what is inside them. -/
def membersOf : List Expr → List Expr
  | [] => []
  | item :: rest => item :: item.inside ++ membersOf rest

def membersOfNamed : List (String × Expr) → List Expr
  | [] => []
  | (_, value) :: rest => value :: value.inside ++ membersOfNamed rest

def membersOfPieces : List (String ⊕ Expr) → List Expr
  | [] => []
  | .inl _ :: rest => membersOfPieces rest
  | .inr value :: rest => value :: value.inside ++ membersOfPieces rest

end

/-- An expression and all that is inside it. -/
def Expr.parts (e : Expr) : List Expr := e :: e.inside

/-- Is the expression written with brackets around what is inside it? -/
def Expr.isBracketed : Expr → Bool
  | .item .. | .call .. | .dict _ | .list _ | .tuple _ => true
  | _ => false

mutual

/-- How many expressions of a kind lie in one another at most. -/
def Expr.nesting (counted : Expr → Bool) (e : Expr) : Nat :=
  (if counted e then 1 else 0) + match e with
    | .name _ | .text _ | .number _ | .none => 0
    | .attribute base _ => base.nesting counted
    | .item base indices => max (base.nesting counted) (nestingOf counted indices)
    | .call function arguments named =>
      max (function.nesting counted) (max (nestingOf counted arguments) (nestingOfNamed counted named))
    | .dict entries => nestingOfNamed counted entries
    | .list items | .tuple items => nestingOf counted items
    | .union left right | .same left right | .differs left right =>
      max (left.nesting counted) (right.nesting counted)
    | .await operand => operand.nesting counted
    | .formatted pieces => nestingOfPieces counted pieces

def nestingOf (counted : Expr → Bool) : List Expr → Nat
  | [] => 0
  | item :: rest => max (item.nesting counted) (nestingOf counted rest)

def nestingOfNamed (counted : Expr → Bool) : List (String × Expr) → Nat
  | [] => 0
  | (_, value) :: rest => max (value.nesting counted) (nestingOfNamed counted rest)

def nestingOfPieces (counted : Expr → Bool) : List (String ⊕ Expr) → Nat
  | [] => 0
  | .inl _ :: rest => nestingOfPieces counted rest
  | .inr value :: rest => max (value.nesting counted) (nestingOfPieces counted rest)

end

def Expr.depth (e : Expr) : Nat := e.nesting fun _ => true

end Bindery.Source
