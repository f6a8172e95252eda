import Bindery.Method.Basic
import Bindery.Name.Identifier
import Bindery.Notice
import Bindery.Path.Template
import Bindery.Schema.Document
import Bindery.Text.Blank

/-!
# The arguments of an operation

Each documented parameter becomes an argument, required ones first. A single parameter whose schema
is an object with properties is taken apart: each property becomes a required argument, and all of
them are sent together where the parameter goes.
-/
namespace Bindery

open Bindery.Schema (Description Definitions Node Operation Parameter)

/-- Required parameters first, in the documented order otherwise. -/
def orderParameters (parameters : List Parameter) : List Parameter :=
  parameters.filter (·.required) ++ parameters.filter (!·.required)

/-- What a node says; a reference that leads nowhere says nothing and is noted. -/
def resolve (definitions : Definitions) : Option Node → Noted Description
  | none => pure {}
  | some (.reference target) =>
    match Schema.definition? definitions target with
    | some description => pure description
    | none => do
      Noted.note (.unresolvedReference target)
      return {}
  | some (.inline type description properties items enum) =>
    pure { type, description, properties, items, enum }

/-- The type of lists with elements of a type. -/
def listLabel (element : Option String) : String :=
  "array<" ++ (Schema.nonEmpty? element).getD "any" ++ ">"

def typeLabel (definitions : Definitions) (schema : Description) : Noted (Option String) :=
  if schema.type = some "array" then do
    let items ← resolve definitions schema.items
    return some (listLabel items.type)
  else pure schema.type

/-- The type label of a parameter; its schema comes before its own type. -/
def parameterType (definitions : Definitions) (parameter : Parameter) : Noted (Option String) := do
  match parameter.schema with
  | some node => typeLabel definitions (← resolve definitions (some node))
  | none =>
    if parameter.type = some "array" ∧ parameter.items.isSome then
      let items ← resolve definitions parameter.items
      return some (listLabel items.type)
    else return parameter.type

/-- The allowed values as documentation shows them, if there are any. -/
def choices : Option (List Data.Datum) → Option (List String)
  | none | some [] => none
  | some values => some (values.map fun value => "'" ++ value.display ++ "'")

def summaryLine (text : Option String) : String := Text.oneLine (text.getD "")

/-- Names that a method binds already: its instance and what it checks arguments with. -/
def boundNames : List String := ["self", "required", requiredName]

/-- The first of `name`, `name2`, `name3`, … that is free, from a number on. One attempt more than
there are taken names always succeeds. -/
def numbered (taken : List String) (name : String) : Nat → Nat → String
  | 0, number => name ++ toString number
  | budget + 1, number =>
    let candidate := name ++ toString number
    if taken.contains candidate then numbered taken name budget (number + 1) else candidate

/-- A name apart from the bound ones and from those taken already. -/
def freshName (taken : List String) (name : String) : String :=
  let base := if boundNames.contains name then name ++ "_" else name
  if taken.contains base then numbered taken base taken.length 2 else base

/-- Where a parameter is sent: to its placeholder if the path has one, else as documented. -/
def targetOf (placeholders : List (String × String)) (parameter : Parameter) : Target :=
  ⟨parameter.name,
    if placeholders.any (·.1 = parameter.name) then some "path" else parameter.place⟩

/-- The arguments of the properties of an object, all with one target. -/
def propertyArguments (definitions : Definitions) (target : Target) (taken : List String) :
    List (String × Node) → Noted (List Argument)
  | [] => pure []
  | (property, node) :: rest => do
    let schema ← resolve definitions (some node)
    let name := freshName taken (Name.argument property)
    let type ← typeLabel definitions schema
    let others ← propertyArguments definitions target (name :: taken) rest
    return {
      name, documented := property, type, target, required := true,
      description := summaryLine schema.description, choices := choices schema.enum } :: others

/-- The arguments of parameters, one each. -/
def parameterArguments (definitions : Definitions) (placeholders : List (String × String))
    (taken : List String) : List Parameter → Noted (List Argument)
  | [] => pure []
  | parameter :: rest => do
    let name := freshName taken (Name.argument parameter.name)
    let type ← parameterType definitions parameter
    let others ← parameterArguments definitions placeholders (name :: taken) rest
    return {
      name, documented := parameter.name, type, target := targetOf placeholders parameter,
      required := parameter.required, description := summaryLine parameter.description,
      choices := choices parameter.enum } :: others

/-- The arguments of an operation. -/
structure ArgumentList where
  arguments : List Argument
  placeholders : List (String × String)
  /-- Are the arguments sent together as one object? -/
  grouped : Bool
  deriving DecidableEq, Repr

/-- The properties of an object that can be taken apart. -/
def Description.separable? (schema : Description) : Option (List (String × Node)) :=
  if schema.type = some "object" ∧ !schema.properties.isEmpty then some schema.properties else none

/-- The single parameter that may be taken apart, with its schema. -/
def soleSchema? (parameters : List Parameter) : Option (Parameter × Node) :=
  match parameters with
  | [parameter] => parameter.schema.map fun node => (parameter, node)
  | _ => none

def buildArguments (path : String) (operation : Operation) (definitions : Definitions) :
    Noted ArgumentList := do
  let placeholders := Path.placeholders path
  let declared := orderParameters operation.parameters
  -- Only the schema of a sole parameter is looked at, so no other reference is noted here.
  let separated ← match soleSchema? declared with
    | some (parameter, node) => do
      let schema ← resolve definitions (some node)
      pure ((Description.separable? schema).map fun properties => (parameter, properties))
    | none => pure none
  match separated with
  | some (parameter, properties) =>
    -- The properties travel together, so they share the target of the parameter.
    let target := targetOf placeholders parameter
    return ⟨← propertyArguments definitions target [] properties, placeholders, true⟩
  | none =>
    return ⟨← parameterArguments definitions placeholders [] declared, placeholders, false⟩

end Bindery
