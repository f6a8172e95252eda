import Bindery.Compression.Inflate
import Bindery.Network.Response

/-!
# Content codings

A body may arrive compressed, and a header field tells how. Codings that are not known are taken for
none.
-/
namespace Bindery.Network

inductive ContentCoding where
  | gzip
  | deflate
  deriving DecidableEq, Repr

def ContentCoding.named? (name : String) : Option ContentCoding :=
  if name = "gzip" then some .gzip
  else if name = "deflate" then some .deflate
  else none

/-- The codings that header fields name, in the order in which they were applied. -/
def contentCodings (headers : Headers) : List ContentCoding :=
  let value := (headers.get? "content-encoding").getD ""
  (Text.splitAt ',' value.toList).filterMap fun name =>
    ContentCoding.named? (Text.lower (String.ofList (Text.trimBlanks name)))

/-- A body without a coding. Deflated data should be wrapped, but need not be. -/
def ContentCoding.decode (coding : ContentCoding) (body : List UInt8) :
    Except Compression.Fault (List UInt8) :=
  match coding with
  | .gzip => Compression.inflate .gzip body
  | .deflate =>
    match Compression.inflate .zlib body with
    | .ok content => .ok content
    | .error _ => Compression.inflate .bare body

/-- A body without its codings; the last one comes off first. -/
def decodeContent (codings : List ContentCoding) (body : List UInt8) :
    Except Compression.Fault (List UInt8) :=
  codings.reverse.foldlM (fun content coding => coding.decode content) body

end Bindery.Network
