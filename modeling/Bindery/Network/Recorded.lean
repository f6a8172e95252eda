import Bindery.Data.JsonText
import Bindery.Network.ContentCoding
import Bindery.Network.Fetch

/-!
# Recorded answers

A record of the web is an object from addresses to answers. An answer is a response, with a status,
headers and a body given as a text, as a JSON value or in hexadecimal digits, or the name of what
broke the request.
-/
namespace Bindery.Network

open Bindery.Data (Datum)

def bytesOfHex : List Char → List UInt8
  | a :: b :: rest => UInt8.ofNat (Text.hexNumber [a, b]) :: bytesOfHex rest
  | _ => []

def recordedBody (answer : Datum) : List UInt8 :=
  match answer.get? "text", answer.get? "json", answer.get? "hex" with
  | some (.text s), _, _ => Text.encodeUtf8 s
  | _, some value, _ => Text.encodeUtf8 (String.ofList (Data.Json.write value))
  | _, _, some (.text digits) => bytesOfHex digits.toList
  | _, _, _ => []

def textMember (answer : Datum) (key : String) : String := ((answer.get? key).bind Datum.text?).getD ""

/-- The fault that stands for something that is no address. -/
def addressFault : String := "InvalidURL"

/-- The fault that stands for a body that cannot be decoded. -/
def contentFault : String := "DecodingError"

def Reply.ofResponse (response : Response) : Reply :=
  match decodeContent (contentCodings response.headers) response.body with
  | .ok body => .response { response with body }
  | .error fault => .broken contentFault fault.message

def Reply.ofRecord (answer : Datum) : Reply :=
  match answer.get? "raise" with
  | some kind =>
    let message := textMember answer "message"
    if kind.text? = some addressFault then .invalidAddress message
    else .broken (kind.text?.getD "") message
  | none =>
    let status := match answer.get? "status" with
      | some (.int status) => status.toNat
      | _ => 200
    let fields := ((answer.get? "headers").bind Datum.members?).getD []
    match fields.mapM fun (name, value) => headerField name value with
    | .error fault => .malformed fault
    | .ok headers => .ofResponse { status, headers, body := recordedBody answer }

/-- What is not recorded is not found. -/
def Web.ofRecord (record : Datum) : Web := fun url =>
  match record.get? url with
  | some answer => .ofRecord answer
  | none => .response { status := 404 }

end Bindery.Network
