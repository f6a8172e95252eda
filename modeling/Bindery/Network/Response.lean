import Bindery.Data.JsonBytes
import Bindery.Network.FieldParameter

/-!
# Responses

What a server sends back: a status, header fields and a body of bytes, which can be read as text or
as JSON.
-/
namespace Bindery.Network

open Bindery.Data (Datum)
open Bindery.Text (Charset)

/-- Header fields in the order of arrival. -/
abbrev Headers := List (String × String)

def isAscii (s : String) : Bool := s.toList.all fun c => c.toNat < 128

/-- Why something is no header field. -/
inductive HeaderFault where
  /-- Names and values are ASCII. -/
  | notAscii (text : String)
  /-- Values are texts. -/
  | notText (kind : String)
  deriving DecidableEq, Repr

/-- Which characters of a text are the first ones that are not ASCII. -/
def foreignCharacters (text : String) : String :=
  let before := text.toList.takeWhile fun c => c.toNat < 128
  let foreign := (text.toList.drop before.length).takeWhile fun c => 128 ≤ c.toNat
  match foreign with
  | [c] => "character '" ++ String.ofList (Text.escapeChar c) ++ "' in position " ++ toString before.length
  | _ =>
    let last := before.length + foreign.length - 1
    "characters in position " ++ toString before.length ++ "-" ++ toString last

def HeaderFault.message : HeaderFault → String
  | notAscii text =>
    "'ascii' codec can't encode " ++ foreignCharacters text ++ ": ordinal not in range(128)"
  | notText kind => "Header value must be str or bytes, not <class '" ++ kind ++ "'>"

/-- A header field with a value of any kind. -/
def headerField (name : String) (value : Datum) : Except HeaderFault (String × String) :=
  if !isAscii name then .error (.notAscii name)
  else match value.text? with
    | none => .error (.notText value.kindName)
    | some text => if isAscii text then .ok (name, text) else .error (.notAscii text)

/-- The name of a header field without regard to case. -/
def fieldKey (name : String) : String := String.ofList (name.toList.map Char.toLower)

/-- The value of a header field; fields that are repeated are joined by commas. -/
def Headers.get? (headers : Headers) (name : String) : Option String :=
  match headers.filter fun field => fieldKey field.1 = fieldKey name with
  | [] => none
  | found => some (String.intercalate ", " (found.map Prod.snd))

/-- Set the value of a header field: it takes the place of the first field of this name, and further
ones are dropped. -/
def Headers.set (headers : Headers) (name value : String) : Headers :=
  match headers with
  | [] => [(name, value)]
  | field :: rest =>
    if fieldKey field.1 = fieldKey name then
      (name, value) :: rest.filter fun other => fieldKey other.1 ≠ fieldKey name
    else field :: Headers.set rest name value

/-- Each name once, without regard to case, with its value. -/
def Headers.joined (headers : Headers) : List (String × String) :=
  (headers.map fun field => fieldKey field.1).eraseDups.map fun key =>
    (key, (headers.get? key).getD "")

structure Response where
  status : Nat := 200
  headers : Headers := []
  body : List UInt8 := []
  deriving DecidableEq, Repr, Inhabited

namespace Response

/-- Only the second hundred of statuses means success. -/
def isSuccess (response : Response) : Bool := 200 ≤ response.status && response.status < 300

/-- The charset that the header declares, if it is a known one, and UTF-8 otherwise. -/
def charset (response : Response) : Except ParameterFault Charset := do
  match response.headers.get? "content-type" with
  | none => return .utf8
  | some value =>
    let declared := (← valueParameter? "charset" value).filter isAscii
    return (declared.bind Charset.named?).getD .utf8

/-- The body as text. An empty one needs no charset. -/
def text (response : Response) : Except Text.DecodingFault String :=
  if response.body.isEmpty then .ok ""
  else match response.charset with
    | .ok charset => charset.decode response.body
    | .error .mixedSections => .error .unnamed

/-- The body as JSON, whatever the header says. -/
def json (response : Response) : Except Data.Json.BytesFault Datum :=
  Data.Json.readBytes response.body

end Response

end Bindery.Network
