import Bindery.Interruption
import Bindery.Network.Status

/-!
# Fetching documents

The web is a table of what each address answers. A fetch either gives the document, or tells why it
is not available, or ends the run.
-/
namespace Bindery.Network

open Bindery.Data (Datum)

/-- What comes of a request. -/
inductive Reply where
  | response (response : Response)
  /-- The request failed on its way; `kind` is the transport's name for that. -/
  | broken (kind message : String)
  /-- The address is none. -/
  | invalidAddress (message : String)
  /-- There is a response, but with something that is no header field. -/
  | malformed (fault : HeaderFault)
  deriving DecidableEq, Repr

/-- What each address answers. -/
abbrev Web := String → Reply

/-- Why a document is not available. -/
inductive LoadFault where
  | status (message : String)
  | broken (kind message : String)
  | unreadable (fault : Data.Json.BytesFault)
  deriving DecidableEq, Repr

def LoadFault.reason : LoadFault → String
  | status message => message
  | broken _ message => message
  | unreadable .undecodable => "the bytes are no text"
  | unreadable (.unreadable .malformed) => "the text is no JSON"
  | unreadable (.unreadable .hugeInteger) => "an integer has too many digits"
  | unreadable (.unreadable .tooDeep) => "the text is nested too deeply"

def LoadFault.failure (fault : LoadFault) (url : String) : Failure :=
  .documentLoad url (some fault.reason)

/-- Why a fetch gives no document. -/
inductive FetchFault where
  /-- There is no document; a run can go on without it. -/
  | unavailable (fault : LoadFault)
  | interrupted (cause : Interruption)
  deriving Repr

/-- Fetch a response that means success. -/
def fetch (web : Web) (url : String) : Except FetchFault Response :=
  match web url with
  | .invalidAddress message => .error (.interrupted (.invalidAddress message))
  | .malformed fault => .error (.interrupted (.malformedHeader fault))
  | .broken kind message => .error (.unavailable (.broken kind message))
  | .response response =>
    if response.isSuccess then .ok response
    else .error (.unavailable (.status (response.statusMessage url)))

def fetchText (web : Web) (url : String) : Except FetchFault String :=
  match fetch web url with
  | .error fault => .error fault
  | .ok response =>
    match response.text with
    | .ok text => .ok text
    | .error fault => .error (.interrupted (.undecodable fault))

def fetchJson (web : Web) (url : String) : Except FetchFault Datum :=
  match fetch web url with
  | .error fault => .error fault
  | .ok response => response.json.mapError fun fault =>
    match fault with
    | .unreadable .tooDeep => .interrupted .tooDeep
    | _ => .unavailable (.unreadable fault)

/-- A document if it is available; only an interruption is passed on. -/
def available? {α : Type} (fetched : Except FetchFault α) : Except Interruption (Option α) :=
  match fetched with
  | .ok document => .ok (some document)
  | .error (.unavailable _) => .ok none
  | .error (.interrupted cause) => .error cause

end Bindery.Network
