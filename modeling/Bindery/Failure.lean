import Bindery.Data.Datum
import Bindery.Text.LetterCase

/-!
# Failures

The ways in which a run, or a call of the generated client, fails, each with what there is to know
about it. The wording is in `Failure.message` alone.
-/
namespace Bindery

open Bindery.Data (Datum)

/-- A failure that is reported to the user. Causes are given by their text. -/
inductive Failure where
  /-- A failure without further structure. -/
  | plain (message : String)
  /-- No API was found on any of the pages. -/
  | discovery (sources : List String)
  | schema (message : String)
  /-- A document could not be loaded. -/
  | documentLoad (source : String) (cause : Option String)
  | generation (message : String) (context cause : Option String)
  /-- No method can be generated for an operation. -/
  | endpoint (method : String) (verb path reason : Option String)
  | configuration (message : String) (path field : Option String)
  /-- The package could not be written. -/
  | output (path : String) (cause : Option String)
  /-- The documentation uses something that generation has no mapping for. -/
  | unsupported (feature : String) (suggestion : Option String)
  /-- A generated method was called without a required argument. -/
  | missingArgument (parameter method : String)
  /-- The server answered with an error status. -/
  | api (message : String) (status : Int) (errors : List Datum)
  deriving Inhabited, Repr

/-- The kinds of failures. -/
inductive FailureKind where
  | any
  | discovery
  | schema
  | documentLoad
  | generation
  | endpoint
  | configuration
  | output
  | unsupported
  | missingArgument
  | api
  deriving DecidableEq, Repr

namespace FailureKind

def name : FailureKind → String
  | any => "RbxApiError"
  | discovery => "DiscoveryError"
  | schema => "SchemaError"
  | documentLoad => "SchemaLoadError"
  | generation => "CodeGenerationError"
  | endpoint => "EndpointGenerationError"
  | configuration => "ConfigurationError"
  | output => "OutputError"
  | unsupported => "UnsupportedFeatureError"
  | missingArgument => "MissingParameterError"
  | api => "ApiError"

def all : List FailureKind := [any, discovery, schema, documentLoad, generation, endpoint, configuration,
  output, unsupported, missingArgument, api]

def named? (name : String) : Option FailureKind := all.find? fun kind => kind.name = name

/-- A kind and those that it is a special case of, the nearest first. -/
def lineage : FailureKind → List FailureKind
  | any => [any]
  | documentLoad => [documentLoad, schema, any]
  | endpoint => [endpoint, generation, any]
  | kind => [kind, any]

end FailureKind

namespace Failure

def kind : Failure → FailureKind
  | plain .. => .any
  | discovery .. => .discovery
  | schema .. => .schema
  | documentLoad .. => .documentLoad
  | generation .. => .generation
  | endpoint .. => .endpoint
  | configuration .. => .configuration
  | output .. => .output
  | unsupported .. => .unsupported
  | missingArgument .. => .missingArgument
  | api .. => .api

/-- A text that is shown only if there is something in it. -/
def clause (text : Option String) (wording : String → String) : String :=
  match text with
  | some s => if s.isEmpty then "" else wording s
  | none => ""

/-- The text of a cause after a colon; it may be empty. -/
def causeClause : Option String → String
  | some cause => ": " ++ cause
  | none => ""

/-- What an operation is called in messages. -/
def operationClause (verb path : Option String) : String :=
  match verb, path with
  | some v, some p => if v.isEmpty || p.isEmpty then "" else " (" ++ Text.upper v ++ " " ++ p ++ ")"
  | _, _ => ""

/-- The field of a configuration that is meant. -/
def fieldClause (field : Option String) : String := clause field fun s => " (field: " ++ s ++ ")"

def message : Failure → String
  | plain message | schema message | api message _ _ => message
  | discovery sources =>
    if sources.isEmpty then "API list not found"
    else "API list not found (sources: " ++ String.intercalate ", " sources ++ ")"
  | documentLoad source cause => "Failed to load document from '" ++ source ++ "'" ++ causeClause cause
  | generation message context cause =>
    message ++ clause context (fun s => " (while generating " ++ s ++ ")") ++ causeClause cause
  | endpoint method verb path reason =>
    "Failed to generate method '" ++ method ++ "'" ++ operationClause verb path ++
      clause reason (": " ++ ·)
  | configuration message path field =>
    message ++ clause path (fun s => " in '" ++ s ++ "'") ++ fieldClause field
  | output path cause => "Failed to write output to '" ++ path ++ "'" ++ causeClause cause
  | unsupported feature suggestion => "Unsupported feature: " ++ feature ++ clause suggestion (". " ++ ·)
  | missingArgument parameter method =>
    "Required parameter \"" ++ parameter ++ "\" of method \"" ++ method ++ "\" is not specified"

end Failure

end Bindery
