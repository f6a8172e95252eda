import Bindery.Network.Fetch
import Bindery.Session.Basic

/-!
# Exchanges

One request of a session takes up to three calls: the call itself; if the server refuses it for want
of a fresh token, a call for one; and the call once more.
-/
namespace Bindery

open Bindery.Data (Datum)
open Bindery.Network (HeaderFault Reply Response)

/-- Why a request fails. -/
inductive ExchangeFault where
  | failure (failure : Failure)
  /-- A call failed on its way. -/
  | broken (kind message : String)
  | invalidAddress (message : String)
  /-- The arguments of the request are no payload. -/
  | argument (fault : ArgumentFault)
  /-- A response has something that is no header field. -/
  | malformedHeader (fault : HeaderFault)
  /-- A text cannot be decoded. -/
  | undecodable (fault : Text.DecodingFault)
  /-- What a body holds is nested too deeply. -/
  | tooDeep
  deriving Repr

/-- A session at work: the replies still to come, and the calls made so far, in order. -/
structure Line where
  session : Session
  replies : List Reply := []
  sent : List Call := []
  deriving Repr, Inhabited

/-- A step of an exchange; what it did stays when it fails. -/
abbrev Exchange := ExceptT ExchangeFault (StateM Line)

/-- What a successful response says: nothing, a JSON value, or else a text. -/
def payloadOf (response : Response) : Except ExchangeFault Datum :=
  if response.body.isEmpty then .ok .null
  else match response.json with
    | .ok value => .ok value
    | .error (.unreadable .tooDeep) => .error .tooDeep
    | .error _ =>
      match response.text with
      | .ok text => .ok (.text text)
      | .error fault => .error (.undecodable fault)

/-- The errors that a response lists. -/
def listedErrors (response : Response) : Except ExchangeFault (List Datum) :=
  match response.json with
  | .ok body =>
    match body.get? "errors" with
    | some (.list errors) => .ok errors
    | _ => .ok []
  | .error (.unreadable .tooDeep) => .error .tooDeep
  | .error _ => .ok []

/-- What an error says: its message, if it is a record. -/
def errorDetail : Datum → Datum
  | .object members => (members.lookup "message").getD .null
  | error => error

/-- A response that is no success, as a fault. -/
def responseFault (response : Response) (url : String) : ExchangeFault :=
  match listedErrors response with
  | .error fault => fault
  | .ok errors =>
    let detail := match errors with
      | [] => ""
      | first :: _ => ": " ++ (errorDetail first).display
    .failure (.api (response.statusMessage url ++ detail) response.status errors)

/-- What is said when no fresh token can be had. -/
def missingToken : Failure :=
  .configuration "Cannot get X-CSRF-TOKEN, change API endpoint" none none

namespace Exchange

/-- Make a call and take the next reply. When there is none left, replies are empty successes. -/
def transmit (call : Call) : Exchange Response := do
  let line ← get
  set { line with replies := line.replies.tail, sent := line.sent ++ [call] }
  match line.replies.head? with
  | none => return {}
  | some (.response response) => return response
  | some (.broken kind message) => throw (.broken kind message)
  | some (.invalidAddress message) => throw (.invalidAddress message)
  | some (.malformed fault) => throw (.malformedHeader fault)

def changeSession (change : Session → Session) : Exchange Unit :=
  modify fun line => { line with session := change line.session }

/-- Take a response as the last word on a call. -/
def settle (call : Call) (response : Response) : Exchange Datum := do
  if response.isSuccess then
    match payloadOf response with
    | .ok value => return value
    | .error fault => throw fault
  else if response.status = 403 ∧ call.url = Session.refreshAddress then
    match response.headers.get? Session.forgeryHeader with
    | none | some "" => throw (.failure missingToken)
    | some token =>
      changeSession (·.keepToken token)
      return .null
  else
    if response.status = 401 then changeSession Session.expire
    throw (responseFault response call.url)

/-- Is a refusal perhaps due to the lack of a fresh token? -/
def wantsToken (call : Call) (response : Response) : Bool :=
  response.status = 403 && call.url ≠ Session.refreshAddress

/-- A request: after a refusal a fresh token is fetched and the call is made once more. -/
def request (call : Call) : Exchange Datum := do
  let response ← transmit call
  if wantsToken call response then
    let fresh ← transmit Call.refresh
    -- The fresh token goes into the session; a fault on the way ends the request.
    let _ ← settle Call.refresh fresh
    -- A second refusal is final.
    let again ← transmit call
    settle call again
  else settle call response

def requestWith (method url : String) (arguments : List (String × Datum)) : Exchange Datum := do
  match Payload.ofArguments arguments with
  | .error fault => throw (.argument fault)
  | .ok payload => request ⟨method, url, some payload⟩

def perform {α : Type} (step : Exchange α) (line : Line) : Except ExchangeFault α × Line :=
  StateT.run (ExceptT.run step) line

end Exchange

end Bindery
