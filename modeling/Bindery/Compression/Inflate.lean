import Bindery.Compression.Checksum
import Bindery.Compression.PrefixCode

/-!
# Inflating

Deflated data comes in blocks. A block holds bytes as they are, or symbols: bytes, the end of the
block, and repetitions of what came before. The data may be wrapped with a header before it and
checksums after it. Data that ends early gives what could be read of it.
-/
namespace Bindery.Compression

/-! ## Symbols -/

def endSymbol : Nat := 256

/-- The least value of each symbol of a row, and how many further bits tell the value: the first few
symbols have none, and then `group` symbols in a row have one more than those before. -/
def stretches (group zeros : Nat) (start count : Nat) : List (Nat × Nat) :=
  ((List.range count).foldl (fun (found, least) n =>
    let extra := if n < zeros then 0 else (n - zeros) / group + 1
    (found ++ [(least, extra)], least + (1 <<< extra))) (([] : List (Nat × Nat)), start)).1

/-- The lengths of repetitions; the last symbol stands for the greatest length alone. -/
def repetitionLengths : List (Nat × Nat) := stretches 4 8 3 28 ++ [(258, 0)]

def repetitionDistances : List (Nat × Nat) := stretches 2 4 1 30

/-- A value whose symbol is known, if the symbol has a meaning. -/
def readStretch (table : List (Nat × Nat)) (symbol : Nat) (fault : Fault) : Reading Nat := do
  match table[symbol]? with
  | none => Reading.fail fault
  | some (least, extra) => return least + (← Reading.bits extra)

/-- The codes of a block. -/
structure BlockCodes where
  symbols : PrefixCode
  distances : PrefixCode
  deriving Repr, Inhabited

/-- Read symbols up to the end of a block. Every step takes a bit at least. -/
def readSymbols (codes : BlockCodes) : Nat → Reading Unit
  | 0 => throw .cut
  | steps + 1 => do
    match ← codes.symbols.read? with
    | none => Reading.fail .symbol
    | some symbol =>
      -- the end has its place between the bytes and the lengths
      if symbol = endSymbol then return
      if symbol < endSymbol then Reading.emit (UInt8.ofNat symbol)
      else
        let length ← readStretch repetitionLengths (symbol - endSymbol - 1) .symbol
        match ← codes.distances.read? with
        | none => Reading.fail .distance
        | some symbol =>
          let distance ← readStretch repetitionDistances symbol .distance
          -- a copy may run into what it writes itself, but it cannot begin before the output
          if (← get).output.size < distance then Reading.fail .tooFar
          Reading.emitAgain distance length
      readSymbols codes steps

/-! ## Codes -/

/-- The codes of blocks that bring none. -/
def usualCodes : BlockCodes where
  symbols :=
    (PrefixCode.ofLengths? true (List.replicate 144 8 ++ List.replicate 112 9 ++
      List.replicate 24 7 ++ List.replicate 8 8)).getD default
  distances := (PrefixCode.ofLengths? true (List.replicate 32 5)).getD default

/-- The order in which the numbers of bits for numbers of bits come. -/
def lengthOrder : List Nat := [16, 17, 18, 0, 8, 7, 9, 6, 10, 5, 11, 4, 12, 3, 13, 2, 14, 1, 15]

/-- The code of the numbers of bits. Where it has no symbols, each bit stands for zero. -/
def readLengthCode (count : Nat) : Reading PrefixCode := do
  let given ← (List.range count).mapM fun _ => Reading.bits 3
  let ordered := lengthOrder.zip given
  let lengths := (List.range lengthOrder.length).map fun symbol => (ordered.lookup symbol).getD 0
  if lengths.all (· = 0) then return ⟨[2], #[0, 0]⟩
  match PrefixCode.ofLengths? false lengths with
  | some code => return code
  | none => Reading.fail .lengthCode

/-- Some more numbers of bits: one, or a repetition of the last one or of zero. -/
def readLengths (code : PrefixCode) (before : List Nat) : Reading (List Nat) := do
  match (← code.read?).getD 0 with
  | 16 =>
    let count := 3 + (← Reading.bits 2)
    match before.getLast? with
    | some last => return List.replicate count last
    | none => Reading.fail .lengthRepeat
  | 17 => return List.replicate (3 + (← Reading.bits 3)) 0
  | 18 => return List.replicate (11 + (← Reading.bits 7)) 0
  | length => return [length]

/-- All numbers of bits. Every step adds one at least. -/
def readAllLengths (code : PrefixCode) (total : Nat) (before : List Nat) : Nat → Reading (List Nat)
  | 0 => return before
  | steps + 1 => do
    if total ≤ before.length then return before
    let lengths := before ++ (← readLengths code before)
    if total < lengths.length then Reading.fail .lengthRepeat
    readAllLengths code total lengths steps

/-- The greatest numbers of symbols and of distances. -/
def symbolLimit : Nat := 286

def distanceLimit : Nat := 30

def readCodes : Reading BlockCodes := do
  let header ← Reading.bits 14
  let symbolCount := 257 + header % 32
  let distanceCount := 1 + header / 32 % 32
  if symbolLimit < symbolCount || distanceLimit < distanceCount then Reading.fail .tooManySymbols
  let code ← readLengthCode (4 + header / 1024)
  let total := symbolCount + distanceCount
  let lengths ← readAllLengths code total [] total
  if lengths.getD endSymbol 0 = 0 then Reading.fail .noEnd
  match PrefixCode.ofLengths? true (lengths.take symbolCount) with
  | none => Reading.fail .symbolCode
  | some symbols =>
    match PrefixCode.ofLengths? true (lengths.drop symbolCount) with
    | none => Reading.fail .distanceCode
    | some distances => return { symbols, distances }

/-! ## Blocks -/

/-- A block of bytes as they are. Their number comes twice, the second time with its bits turned. -/
def readStored : Reading Unit := do
  Reading.alignToByte
  let lengths ← Reading.bits 32
  let length := lengths % 0x10000
  if lengths / 0x10000 ≠ 0xffff - length then Reading.fail .storedLengths
  Reading.emitBytes length

/-- Read blocks up to the last one. Every step takes some bits; `bound` is at least the number of all
bits. -/
def readBlocks (bound : Nat) : Nat → Reading Unit
  | 0 => throw .cut
  | steps + 1 => do
    let header ← Reading.bits 3
    match header / 2 with
    | 0 => readStored
    | 1 => readSymbols usualCodes bound
    | 2 => readSymbols (← readCodes) bound
    | _ => Reading.fail .blockType
    if header % 2 = 0 then readBlocks bound steps

/-! ## Wrappers -/

/-- What deflated data is wrapped in. -/
inductive Wrapper where
  | bare
  | zlib
  | gzip
  deriving DecidableEq, Repr

/-- The number of the one method there is. -/
def deflateMethod : Nat := 8

/-- A header of two bytes. -/
def readZlibHeader : Reading Unit := do
  let first ← Reading.bits 8
  let second ← Reading.bits 8
  if (256 * first + second) % 31 ≠ 0 then Reading.fail .headerCheck
  if first % 16 ≠ deflateMethod then Reading.fail .method
  if 7 < first / 16 then Reading.fail .windowSize
  if second / 32 % 2 = 1 then
    let _ ← Reading.bytes 4
    Reading.fail .dictionary

/-- Bytes up to a zero, with it. -/
def readZeroEnded : Nat → Reading (List UInt8)
  | 0 => throw .cut
  | steps + 1 => do
    let byte ← Reading.byte
    if byte = 0 then return [byte] else return byte :: (← readZeroEnded steps)

/-- A part of a header that is there if a flag is set. -/
def readIf (flags bit : Nat) (part : Reading (List UInt8)) : Reading (List UInt8) :=
  if flags / (1 <<< bit) % 2 = 1 then part else return []

/-- A part that begins with its length. -/
def readCounted : Reading (List UInt8) := do
  let low ← Reading.byte
  let high ← Reading.byte
  return low :: high :: (← Reading.bytes (low.toNat + 256 * high.toNat))

/-- A header of ten bytes and optional parts; `bound` is at least the number of all bytes. -/
def readGzipHeader (bound : Nat) : Reading Unit := do
  let sign ← Reading.bytes 2
  if sign ≠ [0x1f, 0x8b] then Reading.fail .headerCheck
  let how ← Reading.bytes 2
  let flags := (how.getD 1 0).toNat
  if how.head?.map UInt8.toNat ≠ some deflateMethod then Reading.fail .method
  -- five flags are known, and any other one is a fault
  if 32 ≤ flags then Reading.fail .headerFlags
  let fixed ← Reading.bytes 6
  let extra ← readIf flags 2 readCounted
  let name ← readIf flags 3 (readZeroEnded bound)
  let comment ← readIf flags 4 (readZeroEnded bound)
  let sum ← readIf flags 1 (Reading.bytes 2)
  -- the header may bring the lower half of its own checksum
  let check := cyclicCheck (sign ++ how ++ fixed ++ extra ++ name ++ comment) % 0x10000
  match sum with
  | [low, high] => if low.toNat + 256 * high.toNat ≠ check then Reading.fail .headerChecksum
  | _ => return

/-- Four bytes as a number, the highest one first. -/
def highFirst (bytes : List UInt8) : Nat := bytes.foldl (fun n byte => 256 * n + byte.toNat) 0

/-- What follows the blocks. -/
def readTrailer (wrapper : Wrapper) : Reading Unit := do
  Reading.alignToByte
  let output := (← get).output.toList
  match wrapper with
  | .bare => return
  | .zlib => if highFirst (← Reading.bytes 4) ≠ sumCheck output then Reading.fail .checksum
  | .gzip =>
    if (← Reading.bits 32) ≠ cyclicCheck output then Reading.fail .checksum
    if (← Reading.bits 32) ≠ output.length % 0x100000000 then Reading.fail .size

def readWrapped (wrapper : Wrapper) (size : Nat) : Reading Unit := do
  match wrapper with
  | .bare => pure ()
  | .zlib => readZlibHeader
  | .gzip => readGzipHeader size
  readBlocks (8 * size + 1) (8 * size + 1)
  readTrailer wrapper

/-- What deflated data stands for. -/
def inflate (wrapper : Wrapper) (bytes : List UInt8) : Except Fault (List UInt8) :=
  let (result, stream) := StateT.run (ExceptT.run (readWrapped wrapper bytes.length)) { rest := bytes }
  match result with
  | .error (.faulty fault) => .error fault
  | _ => .ok stream.output.toList

end Bindery.Compression
