import Bindery.Failure
import Bindery.Method.Arguments

/-!
# Placing arguments in a request

Each argument goes into the URL, the query, the headers, the body or the form of the request. A
request has one body at most, and none beside a form.
-/
namespace Bindery

/-- The places of a request that an argument can go to. -/
inductive Location where
  | path
  | query
  | header
  | body
  | form
  deriving DecidableEq, Repr

namespace Location

def label : Location → String
  | path => "path"
  | query => "query"
  | header => "header"
  | body => "body"
  | form => "formData"

def all : List Location := [path, query, header, body, form]

def ofLabel? (text : String) : Option Location := all.find? (·.label = text)

end Location

/-- The operation that a request is built for, as failures name it. -/
structure Endpoint where
  method : String
  verb : String
  path : String
  deriving DecidableEq, Repr

/-- Why the arguments cannot be placed. -/
inductive PlacementFault where
  /-- A documented location without a place in a request. -/
  | unknownLocation (location : Option String) (name : String)
  /-- A second parameter in the body, or one beside a form. -/
  | secondBody (parameter : String)
  /-- A form parameter beside a body. -/
  | formBesideBody (parameter : String)
  deriving DecidableEq, Repr

def PlacementFault.failure (fault : PlacementFault) (endpoint : Endpoint) : Failure :=
  let failed reason := Failure.endpoint endpoint.method (some endpoint.verb) (some endpoint.path) (some reason)
  match fault with
  | unknownLocation location name =>
    .unsupported
      ("parameter location '" ++ location.getD "None" ++ "' of '" ++ name ++ "' in " ++
        Text.upper endpoint.verb ++ " " ++ endpoint.path)
      (some ("Supported locations: " ++ String.intercalate ", " (Location.all.map Location.label)))
  | secondBody parameter => failed ("'" ++ parameter ++ "' is a second body parameter")
  | formBesideBody parameter => failed ("form field '" ++ parameter ++ "' conflicts with the body")

/-- The parts of a request as they fill up. -/
structure Slots where
  url : List UrlPart
  query : List (String × Value) := []
  headers : List (String × Value) := []
  body : Option Value := none
  form : List (String × String) := []
  files : List (String × String) := []
  deriving DecidableEq, Repr

/-- The text before and after the first occurrence of a piece. -/
def splitOnce (piece : List Char) : List Char → Option (List Char × List Char)
  | [] => if piece.isEmpty then some ([], []) else none
  | c :: rest =>
    if piece.isPrefixOf (c :: rest) then some ([], (c :: rest).drop piece.length)
    else (splitOnce piece rest).map fun (before, after) => (c :: before, after)

/-- A literal piece of a URL, unless it is empty. -/
def literalPart (text : List Char) : List UrlPart :=
  if text.isEmpty then [] else [.text (String.ofList text)]

/-- Put a value in the place of the first occurrence of a placeholder. -/
def interpolate (placeholder : String) (value : Value) : List UrlPart → List UrlPart
  | [] => []
  | .text literal :: rest =>
    match splitOnce placeholder.toList literal.toList with
    | some (before, after) => literalPart before ++ .value value :: literalPart after ++ rest
    | none => .text literal :: interpolate placeholder value rest
  | .value other :: rest => .value other :: interpolate placeholder value rest

/-- Put a value into the URL; without a placeholder it is sent nowhere, which is noted. -/
def placeInPath (path : String) (placeholders : List (String × String)) (target : Target)
    (value : Value) (slots : Slots) : Noted Slots :=
  match placeholders.lookup target.name with
  | some placeholder => pure { slots with url := interpolate placeholder value slots.url }
  | none => ⟨slots, [.missingPlaceholder target.name path]⟩

def place (path : String) (placeholders : List (String × String)) (slots : Slots)
    (argument : Argument) : Except PlacementFault (Noted Slots) :=
  let value := Value.argument argument.name
  let name := argument.target.name
  match argument.target.location.bind Location.ofLabel? with
  | none => .error (.unknownLocation argument.target.location argument.documented)
  | some .path => .ok (placeInPath path placeholders argument.target value slots)
  | some .query => .ok (pure { slots with query := slots.query ++ [(name, value)] })
  | some .header => .ok (pure { slots with headers := slots.headers ++ [(name, value)] })
  -- A body and a form exclude each other, whichever of them comes first.
  | some .body =>
    if slots.body.isSome || !slots.form.isEmpty || !slots.files.isEmpty then
      .error (.secondBody argument.documented)
    else .ok (pure { slots with body := some value })
  | some .form =>
    if slots.body.isSome then .error (.formBesideBody argument.documented)
    else if argument.type = some "file" then
      .ok (pure { slots with files := slots.files ++ [(name, argument.name)] })
    else .ok (pure { slots with form := slots.form ++ [(name, argument.name)] })

def placeAll (path : String) (placeholders : List (String × String)) (slots : Slots) :
    List Argument → Except PlacementFault (Noted Slots)
  | [] => .ok (pure slots)
  | argument :: rest =>
    match place path placeholders slots argument with
    | .error fault => .error fault
    | .ok first =>
      match placeAll path placeholders first.value rest with
      | .error fault => .error fault
      | .ok others => .ok ⟨others.value, first.notices ++ others.notices⟩

/-- A form, unless it has no field. -/
def formOf (fields : List (String × String)) : Option Value :=
  if fields.isEmpty then none else some (.group fields)

def Slots.request (slots : Slots) (verb : String) : Request where
  verb := Text.lower verb
  url := slots.url
  query := slots.query
  headers := slots.headers
  json := slots.body
  form := formOf slots.form
  files := formOf slots.files

/-- The request that sends arguments together as one object. -/
def groupedRequest (endpoint : Endpoint) (url : String) (placeholders : List (String × String))
    (target : Target) (group : Value) : Except PlacementFault (Noted Request) :=
  let slots : Slots := { url := [.text url] }
  let request := slots.request endpoint.verb
  -- Nothing else is sent, so no part of the request can be taken already.
  match target.location.bind Location.ofLabel? with
  | none => .error (.unknownLocation target.location target.name)
  | some .path =>
    let placed := placeInPath endpoint.path placeholders target group slots
    .ok ⟨placed.value.request endpoint.verb, placed.notices⟩
  | some .query => .ok (pure { request with query := [(target.name, group)] })
  | some .header => .ok (pure { request with headers := [(target.name, group)] })
  | some .body => .ok (pure { request with json := some group })
  | some .form => .ok (pure { request with form := some group })

/-- Build the request of an endpoint from its URL and arguments. -/
def buildRequest (endpoint : Endpoint) (url : String) (list : ArgumentList) :
    Except PlacementFault (Noted Request) :=
  match list.grouped, list.arguments with
  | true, first :: rest =>
    let group := Value.group ((first :: rest).map fun argument => (argument.documented, argument.name))
    groupedRequest endpoint url list.placeholders first.target group
  | _, arguments =>
    match placeAll endpoint.path list.placeholders { url := [.text url] } arguments with
    | .error fault => .error fault
    | .ok placed => .ok ⟨placed.value.request endpoint.verb, placed.notices⟩

end Bindery
