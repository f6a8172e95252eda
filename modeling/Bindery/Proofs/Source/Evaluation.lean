import Bindery.Data.Datum
import Bindery.Failure
import Bindery.Source.Basic
import Bindery.Source.Legality

/-!
# What generated source does

An evaluator for the part of the target language that methods are written in: names, literals, calls
of the client and of the guard, tests of identity, and functions with arguments that are given by
name. Whatever else source may hold is no part of a method, and evaluating it is a mismatch.
-/
namespace Bindery.Source

/-- The values that source works with; `V` are values of callers that nothing is known of. -/
inductive Object (V : Type) where
  | none
  | truth (value : Bool)
  | number (value : Int)
  | text (value : String)
  | dict (entries : List (String × Object V))
  | list (items : List (Object V))
  | tuple (items : List (Object V))
  /-- A type that is known under a name in every module. -/
  | builtin (name : String)
  /-- A type hint. -/
  | hint
  /-- The marker of required arguments. -/
  | marker
  /-- The function that reports a required argument. -/
  | guard
  /-- The instance of a method. -/
  | receiver
  | client
  /-- The function of the client that sends requests. -/
  | send
  /-- A request that was sent and not yet waited for. -/
  | pending
  | given (value : V)

/-- A request as the client receives it. -/
structure Sent (V : Type) where
  positional : List (Object V)
  named : List (String × Object V)

/-- What ends an execution. -/
inductive Fault (E : Type) where
  /-- The definition is no program. -/
  | refused
  /-- A name stands for nothing. -/
  | unbound (name : String)
  /-- Something is used as what it is not, or is no part of a method. -/
  | mismatch
  | raised (failure : Failure)
  /-- What the client raised. -/
  | client (error : E)

/-- What source is executed with: how values look in a text, and how the client answers. -/
structure Host (V E : Type) where
  format : Object V → String
  answer : Sent V → Except E (Object V)

/-- An execution keeps a log of the requests that were sent. -/
abbrev Execution (V E : Type) := ExceptT (Fault E) (StateM (List (Sent V)))

/-- How an execution ends, and the requests that it sends. -/
def Execution.outcome {V E α : Type} (execution : Execution V E α) :
    Except (Fault E) α × List (Sent V) := StateT.run (ExceptT.run execution) []

/-- Names and what they stand for, the innermost first. -/
abbrev Scope (V : Type) := List (String × Object V)

variable {V E : Type}

/-- Are two values the same object? Known if one of them is the only object of its kind. -/
def Object.isSame? : Object V → Object V → Option Bool
  | .none, .none | .marker, .marker => some true
  | .none, _ | _, .none | .marker, _ | _, .marker => some false
  | _, _ => Option.none

/-- The value of a constant that is written as a name. -/
def constant? (id : String) : Option (Object V) :=
  match id with
  | "None" => some .none
  | "True" => some (.truth true)
  | "False" => some (.truth false)
  | "__debug__" => some (.truth true)
  | _ => Option.none

/-- What a name stands for. Constants cannot be given another meaning. -/
def Scope.read? (scope : Scope V) (id : String) : Option (Object V) :=
  (constant? id).or (scope.lookup id)

/-- The dictionary of entries: a repeated key keeps its first place and takes its last value. -/
def Object.ofEntries (entries : List (String × Object V)) : Object V :=
  .dict (entries.foldl (fun found entry => Data.insertMember found entry.1 entry.2) [])

/-- Something that may be one of several types. -/
def Object.isType : Object V → Bool
  | .builtin _ | .hint | .none => true
  | _ => false

namespace Execution

def member (base : Object V) (name : String) : Execution V E (Object V) :=
  match base, name with
  | .receiver, "client" => pure .client
  | .client, "request" => pure .send
  | _, _ => throw .mismatch

/-- Call a function. A request is noted in the log. -/
def call (function : Object V) (positional : List (Object V)) (named : List (String × Object V)) :
    Execution V E (Object V) :=
  match function, positional, named with
  | .guard, [.text parameter, .text method], [] => throw (.raised (.missingArgument parameter method))
  | .send, _, _ => do
    modify (· ++ [⟨positional, named⟩])
    return .pending
  | _, _, _ => throw .mismatch

/-- What the client makes of a request. -/
def answer (host : Host V E) (sent : Sent V) : Execution V E (Object V) :=
  match host.answer sent with
  | .ok answer => pure answer
  | .error error => throw (.client error)

/-- Wait for the request that was sent last. -/
def await (host : Host V E) (operand : Object V) : Execution V E (Object V) := do
  let log ← get
  match operand, log.getLast? with
  | .pending, some sent => answer host sent
  | _, _ => throw .mismatch

/-- A type with arguments; only containers take any. -/
def item (base : Object V) : Execution V E (Object V) :=
  match base with
  | .builtin "list" | .builtin "dict" => pure .hint
  | _ => throw .mismatch

def union (left right : Object V) : Execution V E (Object V) :=
  if left.isType && right.isType then pure .hint else throw .mismatch

def isSame (left right : Object V) : Execution V E Bool :=
  match left.isSame? right with
  | some answer => pure answer
  | Option.none => throw .mismatch

end Execution

mutual

def evaluate (host : Host V E) (scope : Scope V) : Expr → Execution V E (Object V)
  | .name id =>
    match scope.read? id with
    | some value => pure value
    | Option.none => throw (.unbound id)
  | .text value => pure (.text value)
  | .number value => pure (.number value)
  | .none => pure .none
  | .attribute base member => do Execution.member (← evaluate host scope base) member
  | .item base indices => do
    let container ← evaluate host scope base
    let _ ← evaluateAll host scope indices
    Execution.item container
  | .call function positional named => do
    let callee ← evaluate host scope function
    let first ← evaluateAll host scope positional
    Execution.call callee first (← evaluateNamed host scope named)
  | .dict entries => return .ofEntries (← evaluateNamed host scope entries)
  | .list items => return .list (← evaluateAll host scope items)
  | .tuple items => return .tuple (← evaluateAll host scope items)
  | .union left right => do
    let first ← evaluate host scope left
    Execution.union first (← evaluate host scope right)
  | .await operand => do Execution.await host (← evaluate host scope operand)
  | .same left right => do
    let first ← evaluate host scope left
    return .truth (← Execution.isSame first (← evaluate host scope right))
  | .differs left right => do
    let first ← evaluate host scope left
    return .truth (!(← Execution.isSame first (← evaluate host scope right)))
  | .formatted pieces => return .text (String.join (← evaluatePieces host scope pieces))

def evaluateAll (host : Host V E) (scope : Scope V) : List Expr → Execution V E (List (Object V))
  | [] => pure []
  | item :: rest => do
    let first ← evaluate host scope item
    return first :: (← evaluateAll host scope rest)

def evaluateNamed (host : Host V E) (scope : Scope V) :
    List (String × Expr) → Execution V E (List (String × Object V))
  | [] => pure []
  | (key, value) :: rest => do
    let first ← evaluate host scope value
    return (key, first) :: (← evaluateNamed host scope rest)

/-- The pieces of a formatted literal as texts. -/
def evaluatePieces (host : Host V E) (scope : Scope V) :
    List (String ⊕ Expr) → Execution V E (List String)
  | [] => pure []
  | .inl literal :: rest => return literal :: (← evaluatePieces host scope rest)
  | .inr value :: rest => do
    let first ← evaluate host scope value
    return host.format first :: (← evaluatePieces host scope rest)

end

mutual

/-- Execute a statement; the value is what it returns, if it does. -/
def execute (host : Host V E) (scope : Scope V) : Stmt → Execution V E (Option (Object V))
  | .expression value => do
    let _ ← evaluate host scope value
    return Option.none
  | .return value => return some (← evaluate host scope value)
  | .ifThen test body => do
    match ← evaluate host scope test with
    | .truth true => executeAll host scope body
    | .truth false => return Option.none
    | _ => throw .mismatch
  | _ => throw .mismatch

/-- Execute statements until one of them returns. -/
def executeAll (host : Host V E) (scope : Scope V) : List Stmt → Execution V E (Option (Object V))
  | [] => pure Option.none
  | statement :: rest => do
    match ← execute host scope statement with
    | some value => return some value
    | Option.none => executeAll host scope rest

end

/-! ### Functions -/

/-- A function with what its parameters default to. -/
structure Function (V : Type) where
  positional : List String
  keywordOnly : List (String × Option (Object V))
  body : List Stmt

/-- Is a name one that a function or a parameter may have? Those of constants are not. -/
def isBindable (name : String) : Bool := !constantNames.contains name

def evaluateOptional (host : Host V E) (scope : Scope V) :
    Option Expr → Execution V E (Option (Object V))
  | some e => return some (← evaluate host scope e)
  | Option.none => return Option.none

def evaluateDefaults (host : Host V E) (scope : Scope V) :
    List Parameter → Execution V E (List (String × Option (Object V)))
  | [] => pure []
  | parameter :: rest => do
    let default ← evaluateOptional host scope parameter.default
    return (parameter.name, default) :: (← evaluateDefaults host scope rest)

/-- The type hints of parameters are evaluated, and nothing is kept of them. -/
def evaluateHints (host : Host V E) (scope : Scope V) : List Parameter → Execution V E Unit
  | [] => pure ()
  | parameter :: rest => do
    let _ ← evaluateOptional host scope parameter.hint
    evaluateHints host scope rest

/-- Define a function. Its names are checked before anything is evaluated. -/
def define (host : Host V E) (scope : Scope V) : Stmt → Execution V E (Function V)
  | .function _ name positional keywordOnly returns _ body => do
    let names := (positional ++ keywordOnly).map (·.name)
    if !(name :: names).all isBindable || !areDistinct names then throw .refused
    let defaults ← evaluateDefaults host scope keywordOnly
    evaluateHints host scope (positional ++ keywordOnly)
    let _ ← evaluate host scope returns
    return ⟨positional.map (·.name), defaults, body⟩
  | _ => throw .mismatch

/-- The values of parameters that are given by name: as given, or else their defaults. -/
def bindNamed (named : List (String × Object V)) :
    List (String × Option (Object V)) → Execution V E (Scope V)
  | [] => pure []
  | (name, default) :: rest =>
    match (named.lookup name).or default with
    | some value => return (name, value) :: (← bindNamed named rest)
    | Option.none => throw .mismatch

/-- Call a function in a module. Nothing may be given under a name that no parameter has. -/
def Function.call (host : Host V E) (globals : Scope V) (function : Function V)
    (positional : List (Object V)) (named : List (String × Object V)) : Execution V E (Object V) := do
  if positional.length ≠ function.positional.length ||
      !(named.all fun entry => (function.keywordOnly.map Prod.fst).contains entry.1) ||
      !areDistinct (named.map Prod.fst) then throw .mismatch
  let locals ← bindNamed named function.keywordOnly
  let scope := function.positional.zip positional ++ locals ++ globals
  return (← executeAll host scope function.body).getD .none

/-! ### Running -/

theorem Execution.run_bind {α β : Type} (first : Execution V E α) (next : α → Execution V E β)
    (log : List (Sent V)) :
    (first >>= next).run.run log =
      match first.run.run log with
      | (.ok a, later) => (next a).run.run later
      | (.error fault, later) => (.error fault, later) := by
  simp only [bind, ExceptT.bind, ExceptT.mk, ExceptT.run, StateT.run, StateT.bind]
  cases first log with
  | mk result later => cases result <;> rfl

/-- Sending a request and waiting for it adds the request to the log and hands on the answer. -/
theorem Execution.run_await_send (host : Host V E) (positional : List (Object V))
    (named : List (String × Object V)) (log : List (Sent V)) :
    (Execution.call .send positional named >>= Execution.await host).run.run log =
      ((host.answer ⟨positional, named⟩).mapError .client, log ++ [⟨positional, named⟩]) := by
  have sent : (Execution.call .send positional named : Execution V E (Object V)).run.run log =
      (.ok .pending, log ++ [⟨positional, named⟩]) := rfl
  -- The request that is waited for is the one just put at the end of the log.
  have last : (log ++ [(⟨positional, named⟩ : Sent V)]).getLast? = some ⟨positional, named⟩ :=
    List.getLast?_concat
  have logged : (get : Execution V E _).run.run (log ++ [⟨positional, named⟩]) =
      (.ok (log ++ [⟨positional, named⟩]), log ++ [⟨positional, named⟩]) := rfl
  rw [Execution.run_bind, sent]
  simp only [Execution.await]
  rw [Execution.run_bind, logged]
  simp only [last, Execution.answer]
  cases host.answer ⟨positional, named⟩ <;> rfl

/-! ### Expressions one by one -/

variable (host : Host V E) (scope : Scope V)

theorem evaluate_name {id : String} {value : Object V} (reads : scope.read? id = some value) :
    evaluate host scope (.name id) = pure value := by
  rw [evaluate, reads]

theorem evaluateNamed_append (first second : List (String × Expr)) :
    evaluateNamed host scope (first ++ second) = do
      let found ← evaluateNamed host scope first
      return found ++ (← evaluateNamed host scope second) := by
  induction first with
  | nil => simp [evaluateNamed]
  | cons entry rest ih => simp [evaluateNamed, ih]

/-- Expressions under keys evaluate to values under the same keys. -/
theorem evaluateNamed_map {α : Type} (key : α → String) {toExpr : α → Expr} {object : α → Object V}
    {items : List α} (each : ∀ item ∈ items, evaluate host scope (toExpr item) = pure (object item)) :
    evaluateNamed host scope (items.map fun item => (key item, toExpr item)) =
      pure (items.map fun item => (key item, object item)) := by
  induction items with
  | nil => rfl
  | cons item rest ih =>
    have others := ih fun other member => each other (List.mem_cons_of_mem _ member)
    simp [evaluateNamed, each item (List.mem_cons_self ..), others]

/-! ### Definitions one by one -/

theorem isBindable_iff {name : String} : isBindable name = true ↔ name ∉ constantNames := by
  simp [isBindable]

theorem areDistinct_iff {names : List String} : areDistinct names = true ↔ names.Nodup := by
  induction names with
  | nil => simp [areDistinct]
  | cons name rest ih => simp [areDistinct, ih, List.nodup_cons]

theorem evaluateDefaults_map {α : Type} {toParameter : α → Parameter} {default : α → Option (Object V)}
    {items : List α}
    (each : ∀ item ∈ items, evaluateOptional host scope (toParameter item).default = pure (default item)) :
    evaluateDefaults host scope (items.map toParameter) =
      pure (items.map fun item => ((toParameter item).name, default item)) := by
  induction items with
  | nil => rfl
  | cons item rest ih =>
    have others := ih fun other member => each other (List.mem_cons_of_mem _ member)
    simp [evaluateDefaults, each item (List.mem_cons_self ..), others]

theorem evaluateHints_eq {parameters : List Parameter}
    (each : ∀ parameter ∈ parameters, ∃ value, evaluateOptional host scope parameter.hint = pure value) :
    evaluateHints host scope parameters = pure () := by
  induction parameters with
  | nil => rfl
  | cons parameter rest ih =>
    have others := ih fun other member => each other (List.mem_cons_of_mem _ member)
    obtain ⟨value, first⟩ := each parameter (List.mem_cons_self ..)
    simp [evaluateHints, first, others]

theorem bindNamed_map {α : Type} {name : α → String} {default : α → Object V} (items : List α)
    (named : List (String × Object V)) :
    (bindNamed named (items.map fun item => (name item, some (default item))) : Execution V E (Scope V)) =
      pure (items.map fun item => (name item, (named.lookup (name item)).getD (default item))) := by
  induction items with
  | nil => rfl
  | cons item rest ih =>
    cases found : named.lookup (name item) <;> simp [bindNamed, found, ih]

end Bindery.Source
