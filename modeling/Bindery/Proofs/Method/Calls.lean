import Bindery.Package.MethodSource
import Bindery.Proofs.Method.Urls
import Bindery.Proofs.Source.Scopes

/-!
# Calls of methods

What a call of a method is described to do: it reports the first required argument that is missing, or
sends the request of the method with the values that are given. Beside it stands what the source of
the method does.
-/
namespace Bindery

open Bindery.Source (Execution Fault Host Object Scope Sent)

variable {V E : Type}

/-! ### The described behaviour -/

/-- What an argument stands for when no required one is missing. -/
def valueGiven (given : List (String × Object V)) (name : String) : Object V :=
  (given.lookup name).getD .none

/-- A value with every argument name replaced by what it stands for. -/
def Value.object (read : String → Object V) : Value → Object V
  | .argument name => read name
  | .group fields => .ofEntries (fields.map fun field => (field.1, read field.2))

/-- A piece of a URL as it is sent. -/
def UrlPart.written (host : Host V E) (read : String → Object V) : UrlPart → String
  | .text literal => literal
  | .value v => host.format (v.object read)

/-- Values under their keys as one dictionary, unless there are none. -/
def dictionary? (read : String → Object V) (entries : List (String × Value)) : Option (Object V) :=
  if entries = [] then none
  else some (.ofEntries (entries.map fun entry => (entry.1, entry.2.object read)))

/-- The parts of a request that are sent by keyword, as far as they are there. -/
def Request.parts (request : Request) (read : String → Object V) : List (String × Option (Object V)) :=
  [("params", dictionary? read request.query), ("headers", dictionary? read request.headers),
    ("json", request.json.map (·.object read)), ("data", request.form.map (·.object read)),
    ("files", request.files.map (·.object read))]

def present (parts : List (String × Option (Object V))) : List (String × Object V) :=
  parts.filterMap fun part => part.2.map fun value => (part.1, value)

/-- A request as the client receives it. -/
def Request.sent (request : Request) (host : Host V E) (read : String → Object V) : Sent V where
  positional := [.text request.verb, .text (String.join (request.url.map (·.written host read)))]
  named := present (request.parts read)

/-- The first required argument that is not given. -/
def Method.missing? (method : Method) (given : List (String × Object V)) : Option Argument :=
  method.arguments.find? fun argument => argument.required && (given.lookup argument.name).isNone

/-- What a call with some of the arguments comes to, and the requests that it sends. -/
def Method.outcome (method : Method) (host : Host V E) (given : List (String × Object V)) :
    Except (Fault E) (Object V) × List (Sent V) :=
  match method.missing? given with
  | some argument => (.error (.raised (.missingArgument argument.name method.name)), [])
  | none =>
    let call := method.request.sent host (valueGiven given)
    ((host.answer call).mapError .client, [call])

/-- Define the rendered function of a method in a module with its imports, and call it. -/
def Method.run (method : Method) (host : Host V E) (given : List (String × Object V)) :
    Except (Fault E) (Object V) × List (Sent V) :=
  let rendered := method.render
  Execution.outcome do
    let function ← Source.define host rendered.imports.scope rendered.source
    function.call host rendered.imports.scope [.receiver] given

/-! ### Names -/

def Request.values (request : Request) : List Value :=
  urlValues request.url ++ request.query.map Prod.snd ++ request.headers.map Prod.snd ++
    request.json.toList ++ request.form.toList ++ request.files.toList

def Method.argumentNames (method : Method) : List String := method.arguments.map (·.name)

/-- The names of a method do not get into one another's way. -/
structure Method.IsScoped (method : Method) : Prop where
  distinct : method.argumentNames.Nodup
  apart : ∀ name ∈ method.argumentNames, name ∉ boundNames
  noKeyword : ∀ name ∈ method.name :: method.argumentNames, name ∉ Name.keywords
  known : ∀ value ∈ method.request.values, ∀ name ∈ value.names, name ∈ method.argumentNames

/-- Values for some of the arguments; the marker of required arguments is none. -/
structure Method.Accepts (method : Method) (given : List (String × Object V)) : Prop where
  distinct : (given.map Prod.fst).Nodup
  among : ∀ name ∈ given.map Prod.fst, name ∈ method.argumentNames
  unmarked : ∀ entry ∈ given, entry.2 ≠ .marker

/-- What the parameter of an argument is bound to. -/
def Argument.bound (given : List (String × Object V)) (argument : Argument) : Object V :=
  (given.lookup argument.name).getD (if argument.required then .marker else .none)

/-- What names stand for in the body of a method. -/
def Method.bodyScope (method : Method) (given : List (String × Object V)) : Scope V :=
  ("self", .receiver) :: (method.arguments.map (fun argument => (argument.name, argument.bound given)) ++
    method.imports.scope)

/-! ### Missing arguments -/

theorem Method.missing?_eq (method : Method) (given : List (String × Object V)) :
    method.missing? given =
      method.requiredArguments.find? fun argument => (given.lookup argument.name).isNone := by
  unfold Method.missing? Method.requiredArguments
  rw [List.find?_filter]
  congr 1
  funext argument
  simp

theorem Method.Accepts.lookup_ne_marker {method : Method} {given : List (String × Object V)}
    (accepts : method.Accepts given) (name : String) : given.lookup name ≠ some .marker := by
  intro found
  exact accepts.unmarked (name, .marker) (Source.mem_of_lookup found) rfl

/-- Without a missing argument, every parameter stands for what was given, or for none. -/
theorem Method.bound_eq {method : Method} {given : List (String × Object V)}
    (nothing : method.missing? given = none) {argument : Argument} (member : argument ∈ method.arguments) :
    argument.bound given = valueGiven given argument.name := by
  unfold Argument.bound valueGiven
  cases found : given.lookup argument.name with
  | some value => rfl
  | none =>
    have free := List.find?_eq_none.mp nothing argument member
    -- It is not given and not missing, so it is not required, and stands for none by default.
    have optional : argument.required = false := by simpa [found] using free
    rw [optional]
    rfl

/-- What is described is never that a method cannot be defined. -/
theorem Method.outcome_ne_refused (method : Method) (host : Host V E) (given : List (String × Object V)) :
    (method.outcome host given).1 ≠ .error .refused := by
  unfold Method.outcome
  split
  · simp
  · cases answered : host.answer (method.request.sent host (valueGiven given)) <;>
      simp [answered, Except.mapError]

end Bindery
