import Bindery.Data.Json
import Bindery.Text.Charset.Unicode

/-!
# JSON from bytes

The encoding of a JSON text shows in its first bytes: in a byte order mark, or else in the places of
the zeros, because the first characters of a JSON text are ASCII.
-/
namespace Bindery.Data.Json

open Bindery.Text (UnicodeForm)

/-- Why bytes are not read. -/
inductive BytesFault where
  /-- The bytes are no text. -/
  | undecodable
  /-- The text is not read. -/
  | unreadable (fault : Fault)
  deriving DecidableEq, Repr

/-- The encoding without a mark, from the places of zeros among the first four bytes. -/
def encodingByZeros (a b c d : UInt8) : UnicodeForm :=
  if a = 0 then if b = 0 then .utf32 (some .big) else .utf16 (some .big)
  else if b ≠ 0 then .utf8
  else if c = 0 ∧ d = 0 then .utf32 (some .little)
  else .utf16 (some .little)

def encodingOf : List UInt8 → UnicodeForm
  | 0x00 :: 0x00 :: 0xfe :: 0xff :: _ => .utf32 none
  | 0xff :: 0xfe :: 0x00 :: 0x00 :: _ => .utf32 none
  | 0xfe :: 0xff :: _ => .utf16 none
  | 0xff :: 0xfe :: _ => .utf16 none
  | 0xef :: 0xbb :: 0xbf :: _ => .utf8Marked
  | a :: b :: c :: d :: _ => encodingByZeros a b c d
  | [a, b] =>
    if a = 0 then .utf16 (some .big) else if b = 0 then .utf16 (some .little) else .utf8
  | _ => .utf8

/-- The value of a JSON text given by its bytes. -/
def readBytes (bytes : List UInt8) : Except BytesFault Datum :=
  match List.mapM id ((encodingOf bytes).decode true bytes) with
  | none => .error .undecodable
  | some points => (readPoints depthLimit points).mapError .unreadable

end Bindery.Data.Json
