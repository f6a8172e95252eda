/-!
# Reading bits

Compressed data is read bit by bit, the lowest bit of each byte first. What is read goes into an
output, which stays when the reading stops.
-/
namespace Bindery.Compression

/-- Why compressed data cannot be read. -/
inductive Fault where
  | headerCheck
  | method
  | windowSize
  | headerFlags
  | headerChecksum
  | dictionary
  | blockType
  | storedLengths
  | tooManySymbols
  | lengthCode
  | lengthRepeat
  | noEnd
  | symbolCode
  | distanceCode
  | symbol
  | distance
  | tooFar
  | checksum
  | size
  deriving DecidableEq, Repr

def Fault.cause : Fault → String
  | headerCheck => "incorrect header check"
  | method => "unknown compression method"
  | windowSize => "invalid window size"
  | headerFlags => "unknown header flags set"
  | headerChecksum => "header crc mismatch"
  | dictionary => ""
  | blockType => "invalid block type"
  | storedLengths => "invalid stored block lengths"
  | tooManySymbols => "too many length or distance symbols"
  | lengthCode => "invalid code lengths set"
  | lengthRepeat => "invalid bit length repeat"
  | noEnd => "invalid code -- missing end-of-block"
  | symbolCode => "invalid literal/lengths set"
  | distanceCode => "invalid distances set"
  | symbol => "invalid literal/length code"
  | distance => "invalid distance code"
  | tooFar => "invalid distance too far back"
  | checksum => "incorrect data check"
  | size => "incorrect length check"

def Fault.message (fault : Fault) : String :=
  -- A dictionary may exist elsewhere, so the data itself need not be wrong.
  if fault = .dictionary then "Error 2 while decompressing data"
  else "Error -3 while decompressing data: " ++ fault.cause

/-- Why the reading stops. -/
inductive Stop where
  /-- The data ends early. -/
  | cut
  | faulty (fault : Fault)
  deriving DecidableEq, Repr

/-- Data that is being read. -/
structure Stream where
  /-- The bytes that are not begun. -/
  rest : List UInt8
  /-- The bits that are left of the bytes begun, as a number, and how many they are. -/
  held : Nat := 0
  count : Nat := 0
  output : Array UInt8 := #[]
  deriving Repr, Inhabited

/-- A step of reading; the output stays when it stops. -/
abbrev Reading := ExceptT Stop (StateM Stream)

namespace Reading

def fail {α : Type} (fault : Fault) : Reading α := throw (.faulty fault)

/-- Hold one more byte. -/
def pull : Reading Unit := do
  let stream ← get
  match stream.rest with
  | [] => throw .cut
  | byte :: rest =>
    let held := stream.held + byte.toNat <<< stream.count
    set { stream with rest, held, count := stream.count + 8 }

/-- Hold a number of bits at least; every step adds a byte. -/
def hold (count : Nat) : Nat → Reading Unit
  | 0 => return
  | steps + 1 => do
    if (← get).count < count then
      pull
      hold count steps

/-- Read some bits as a number, the lowest one first. -/
def bits (count : Nat) : Reading Nat := do
  hold count count
  let stream ← get
  set { stream with held := stream.held >>> count, count := stream.count - count }
  return stream.held % (1 <<< count)

/-- Drop what is left of the bytes begun. -/
def alignToByte : Reading Unit := do
  let _ ← bits ((← get).count % 8)

def byte : Reading UInt8 := do return UInt8.ofNat (← bits 8)

def bytes : Nat → Reading (List UInt8)
  | 0 => return []
  | count + 1 => do
    let first ← byte
    return first :: (← bytes count)

def emit (byte : UInt8) : Reading Unit :=
  modify fun stream => { stream with output := stream.output.push byte }

/-- Put out bytes that are copied from the data. -/
def emitBytes : Nat → Reading Unit
  | 0 => return
  | count + 1 => do
    emit (← byte)
    emitBytes count

/-- Put out again what was put out some bytes ago. -/
def emitAgain (distance : Nat) : Nat → Reading Unit
  | 0 => return
  | count + 1 => do
    let output := (← get).output
    emit (output.getD (output.size - distance) 0)
    emitAgain distance count

end Reading

end Bindery.Compression
