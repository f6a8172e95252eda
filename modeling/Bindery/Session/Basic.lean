import Bindery.Failure
import Bindery.Network.Response

/-!
# Sessions

A session sends its cookie, and later a token against forged requests, in the headers of every call.
-/
namespace Bindery

open Bindery.Data (Datum)
open Bindery.Network (HeaderFault Headers headerField)

/-- The state of an open session. -/
structure Session where
  /-- Header fields that go with every call. -/
  headers : Headers
  /-- Is someone told when the session turns out to have expired? -/
  reportsExpiry : Bool := true
  /-- How often that was told. -/
  expiries : Nat := 0
  deriving DecidableEq, Repr, Inhabited

namespace Session

/-- The field of the token against forged requests. -/
def forgeryHeader : String := "X-CSRF-TOKEN"

/-- The address whose refusal of a call carries a fresh token. -/
def refreshAddress : String := "https://auth.roblox.com/v2/logout"

/-- Open a session. Further header fields replace those of exactly the same name. -/
def openWith (secret : String) (further : List (String × Datum)) (reportsExpiry : Bool) :
    Except HeaderFault Session := do
  let cookie := [("Cookie", Datum.text (".ROBLOSECURITY=" ++ secret ++ ";"))]
  let fields := further.foldl (fun all field => Data.insertMember all field.1 field.2) cookie
  let headers ← fields.mapM fun field => headerField field.1 field.2
  return { headers, reportsExpiry }

/-- Take note that the server holds the session for expired. -/
def expire (session : Session) : Session :=
  if session.reportsExpiry then { session with expiries := session.expiries + 1 } else session

def keepToken (session : Session) (token : String) : Session :=
  { session with headers := session.headers.set forgeryHeader token }

end Session

/-- What a call sends along. A part that is missing is not sent. -/
structure Payload where
  query : Option (List (String × Datum)) := none
  headers : Option (List (String × String)) := none
  json : Datum := .null
  form : Option (List (String × Datum)) := none
  files : Option (List (String × Datum)) := none
  deriving Repr, Inhabited

def dropNulls (members : List (String × Datum)) : List (String × Datum) :=
  members.filter fun member => match member.2 with
    | .null => false
    | _ => true

/-- A payload from what a caller gives: optional parts left null are not sent, and header values are
texts. -/
def Payload.ofParts (query headers : Option (List (String × Datum))) (json : Datum)
    (form files : Option (List (String × Datum))) : Payload where
  query := query.map dropNulls
  headers := headers.map fun fields => (dropNulls fields).map fun field => (field.1, field.2.display)
  json := json
  form := form.map dropNulls
  files := files.map dropNulls

/-- Why arguments are no payload. -/
inductive ArgumentFault where
  | unknown
  /-- A part that has names for its values is given as something else. -/
  | notMapping
  deriving DecidableEq, Repr

/-- The names of the arguments of a request. -/
def requestArguments : List String := ["params", "headers", "json", "data", "files"]

/-- A part of a payload that has names for its values, if it is given. -/
def namedPart (arguments : List (String × Datum)) (name : String) :
    Except ArgumentFault (Option (List (String × Datum))) :=
  match arguments.lookup name with
  | none | some .null => .ok none
  | some (.object members) => .ok (some members)
  | some _ => .error .notMapping

def Payload.ofArguments (arguments : List (String × Datum)) : Except ArgumentFault Payload := do
  if arguments.any fun argument => !requestArguments.contains argument.1 then throw .unknown
  let part := namedPart arguments
  let json := (arguments.lookup "json").getD .null
  return .ofParts (← part "params") (← part "headers") json (← part "data") (← part "files")

/-- A call of the server. -/
structure Call where
  method : String
  url : String
  /-- There is none on a call for a fresh token. -/
  payload : Option Payload
  deriving Repr, Inhabited

/-- The call that fetches a fresh token. -/
def Call.refresh : Call := ⟨"post", Session.refreshAddress, none⟩

end Bindery
