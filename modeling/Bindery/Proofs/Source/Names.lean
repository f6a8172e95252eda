import Bindery.Proofs.Source.Scopes
import Bindery.Source.Shape

/-!
# Names in source

Which names source loads, which it takes from around it, and which it imports.
-/
namespace Bindery.Source

/-! ### Expressions -/

def Expr.name? : Expr → Option String
  | .name id => some id
  | _ => Option.none

def Expr.loads (e : Expr) : List String := e.parts.filterMap Expr.name?

theorem filterMap_membersOf (items : List Expr) :
    (membersOf items).filterMap Expr.name? = items.flatMap Expr.loads := by
  induction items with
  | nil => rfl
  | cons item rest ih =>
    rw [membersOf, List.filterMap_append, ih, List.flatMap_cons]
    rfl

theorem filterMap_membersOfNamed (entries : List (String × Expr)) :
    (membersOfNamed entries).filterMap Expr.name? = entries.flatMap fun entry => entry.2.loads := by
  induction entries with
  | nil => rfl
  | cons entry rest ih =>
    rw [membersOfNamed, List.filterMap_append, ih, List.flatMap_cons]
    rfl

/-- The names that a piece of a formatted literal loads. -/
def pieceLoads : String ⊕ Expr → List String
  | .inl _ => []
  | .inr value => value.loads

theorem filterMap_membersOfPieces (pieces : List (String ⊕ Expr)) :
    (membersOfPieces pieces).filterMap Expr.name? = pieces.flatMap pieceLoads := by
  induction pieces with
  | nil => rfl
  | cons piece rest ih =>
    cases piece with
    | inl literal => exact ih
    | inr value =>
      rw [membersOfPieces, List.filterMap_append, ih, List.flatMap_cons]
      rfl

section Loads

variable (first second : Expr)

@[simp]
theorem loads_name (id : String) : (Expr.name id).loads = [id] := rfl

@[simp]
theorem loads_text (value : String) : (Expr.text value).loads = [] := rfl

@[simp]
theorem loads_none : Expr.none.loads = [] := rfl

@[simp]
theorem loads_attribute (member : String) : (first.attribute member).loads = first.loads := rfl

@[simp]
theorem loads_await : first.await.loads = first.loads := rfl

@[simp]
theorem loads_item (indices : List Expr) :
    (first.item indices).loads = first.loads ++ indices.flatMap Expr.loads := by
  rw [← filterMap_membersOf, Expr.loads, Expr.loads, ← List.filterMap_append]
  rfl

@[simp]
theorem loads_call (arguments : List Expr) (named : List (String × Expr)) :
    (first.call arguments named).loads =
      first.loads ++ arguments.flatMap Expr.loads ++ named.flatMap fun entry => entry.2.loads := by
  rw [← filterMap_membersOf, ← filterMap_membersOfNamed, Expr.loads, Expr.loads, ← List.filterMap_append,
    ← List.filterMap_append]
  rfl

@[simp]
theorem loads_dict (entries : List (String × Expr)) :
    (Expr.dict entries).loads = entries.flatMap fun entry => entry.2.loads :=
  filterMap_membersOfNamed entries

@[simp]
theorem loads_tuple (items : List Expr) : (Expr.tuple items).loads = items.flatMap Expr.loads :=
  filterMap_membersOf items

@[simp]
theorem loads_union : (first.union second).loads = first.loads ++ second.loads := by
  rw [Expr.loads, Expr.loads, Expr.loads, ← List.filterMap_append]
  rfl

@[simp]
theorem loads_same : (first.same second).loads = first.loads ++ second.loads := by
  rw [Expr.loads, Expr.loads, Expr.loads, ← List.filterMap_append]
  rfl

@[simp]
theorem loads_formatted (pieces : List (String ⊕ Expr)) :
    (Expr.formatted pieces).loads = pieces.flatMap pieceLoads :=
  filterMap_membersOfPieces pieces

end Loads

/-! ### Statements -/

/-- The names that a target loads. A name that is given a value is not loaded. -/
def Expr.targetLoads : Expr → List String
  | .name _ => []
  | target => target.loads

/-- The names that type hint and default of a parameter load. -/
def Parameter.loads (parameter : Parameter) : List String :=
  parameter.hint.toList.flatMap Expr.loads ++ parameter.default.toList.flatMap Expr.loads

/-- The names that the head of a function loads, which is outside of the function. -/
def headLoads (parameters : List Parameter) (returns : Expr) : List String :=
  parameters.flatMap Parameter.loads ++ returns.loads

mutual

/-- The names that a statement gives a meaning to. -/
def Stmt.binds : Stmt → List String
  | .importFrom _ _ names => names
  | .assign target _ => target.name?.toList
  | .expression _ | .return _ | .reraise => []
  | .ifThen _ body => bindsIn body
  | .tryExcept body _ binder handler => bindsIn body ++ binder :: bindsIn handler
  | .function _ name .. | .classDef name .. => [name]

def bindsIn : List Stmt → List String
  | [] => []
  | statement :: rest => statement.binds ++ bindsIn rest

end

mutual

/-- The names that a statement loads from its surroundings: a function has its parameters and what its
body binds for itself. -/
def Stmt.outer : Stmt → List String
  | .importFrom .. | .reraise => []
  | .assign target value => target.targetLoads ++ value.loads
  | .expression value | .return value => value.loads
  | .ifThen test body => test.loads ++ outerIn body
  | .tryExcept body failure _ handler => outerIn body ++ failure :: outerIn handler
  | .function _ _ positional keywordOnly returns _ body =>
    headLoads (positional ++ keywordOnly) returns ++ (outerIn body).filter fun name =>
      !((positional ++ keywordOnly).map (·.name) ++ bindsIn body).contains name
  | .classDef _ _ members => outerIn members

def outerIn : List Stmt → List String
  | [] => []
  | statement :: rest => statement.outer ++ outerIn rest

end

theorem outerIn_eq (statements : List Stmt) : outerIn statements = statements.flatMap Stmt.outer := by
  induction statements with
  | nil => rfl
  | cons statement rest ih => rw [outerIn, ih, List.flatMap_cons]

def importedIn (statements : List Stmt) : List String :=
  statements.flatMap fun
    | .importFrom _ _ names => names
    | _ => []

/-- The classes among statements, with their members. -/
def classesIn (statements : List Stmt) : List (String × List Stmt) :=
  statements.filterMap fun
    | .classDef name _ members => some (name, members)
    | _ => Option.none

@[simp]
theorem importedIn_append (first second : List Stmt) :
    importedIn (first ++ second) = importedIn first ++ importedIn second := List.flatMap_append

@[simp]
theorem classesIn_append (first second : List Stmt) :
    classesIn (first ++ second) = classesIn first ++ classesIn second := List.filterMap_append

end Bindery.Source
