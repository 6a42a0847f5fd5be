/-!
# Inflating deflate data

A reader for the deflate format: blocks stored as they are, blocks under the fixed codes and
blocks under codes given in their header. A code is built from its code lengths as the canonical
Huffman code; a code with more than one symbol must fill the whole code space, neither more nor
less. A distance that reaches before the start of the output copies zero bytes there.

Bits are read least significant first. Every loop runs on fuel that the input's bit count
bounds, since each step reads at least one bit.
-/

set_option autoImplicit false

namespace BenchDispatch.Gzip

/-- A position in a byte sequence, counted in bits. -/
structure BitStream where
  bytes : ByteArray
  bit : Nat

namespace BitStream

/-- The next bit. -/
def readBit (s : BitStream) : Option (Nat × BitStream) :=
  let index := s.bit / 8
  if h : index < s.bytes.size then
    some ((s.bytes[index].toNat >>> (s.bit % 8)) % 2, { s with bit := s.bit + 1 })
  else none

/-- The next `count` bits as a number, the first bit read the least significant. -/
def readBits (s : BitStream) : Nat → Option (Nat × BitStream)
  | 0 => some (0, s)
  | count + 1 => do
    let (low, s) ← s.readBit
    let (high, s) ← s.readBits count
    pure (low + 2 * high, s)

/-- The position moved on to the next whole byte. -/
def alignToByte (s : BitStream) : BitStream :=
  { s with bit := (s.bit + 7) / 8 * 8 }

/-- The bits left to read. -/
def remaining (s : BitStream) : Nat :=
  s.bytes.size * 8 - s.bit

end BitStream

/-- A canonical Huffman code: how many codes each length from 1 to 15 has, and the symbols in
the order of their codes (shorter codes first, then by symbol). -/
structure Code where
  counts : Array Nat
  symbols : Array Nat

namespace Code

/-- The canonical code for per-symbol code lengths (0 for a symbol without a code), refused
when more than one symbol has a code and the codes do not fill the code space exactly. -/
def ofLengths (lengths : List Nat) : Option Code :=
  let counts := (List.range 16).toArray.map fun len => (lengths.filter (· == len)).length
  let used := (List.range 15).foldl (fun acc i => acc + counts[i + 1]!) 0
  let space := (List.range 15).foldl (fun acc i => (acc + counts[i + 1]!) * 2) 0
  if space ≠ 65536 ∧ used > 1 then none
  else
    let symbols := (List.range 15).flatMap fun i =>
      ((List.range lengths.length).filter fun sym => lengths[sym]! == i + 1)
    some ⟨counts, symbols.toArray⟩

/-- Reads one symbol bit by bit: `code` is the code read so far at length `len`, `first` the
first code of that length and `index` the position of that code's symbol. -/
def decodeFrom (code : Code) (s : BitStream) (len codeSoFar first index : Nat) :
    Nat → Option (Nat × BitStream)
  | 0 => none
  | steps + 1 => do
    let (bit, s) ← s.readBit
    let codeSoFar := codeSoFar + bit
    let count := code.counts[len]!
    if codeSoFar < first + count then
      code.symbols[index + (codeSoFar - first)]?.map fun sym => (sym, s)
    else
      code.decodeFrom s (len + 1) ((codeSoFar) * 2) ((first + count) * 2) (index + count) steps

/-- The next symbol under a code. -/
def decode (code : Code) (s : BitStream) : Option (Nat × BitStream) :=
  code.decodeFrom s 1 0 0 0 15

end Code

/-- The shortest length each length symbol from 257 stands for. -/
def lengthBase : Array Nat :=
  #[3, 4, 5, 6, 7, 8, 9, 10, 11, 13, 15, 17, 19, 23, 27, 31, 35, 43, 51, 59, 67, 83, 99, 115,
    131, 163, 195, 227, 258]

/-- The extra bits after each length symbol from 257. -/
def lengthExtra : Array Nat :=
  #[0, 0, 0, 0, 0, 0, 0, 0, 1, 1, 1, 1, 2, 2, 2, 2, 3, 3, 3, 3, 4, 4, 4, 4, 5, 5, 5, 5, 0]

/-- The shortest distance each distance symbol stands for. -/
def distanceBase : Array Nat :=
  #[1, 2, 3, 4, 5, 7, 9, 13, 17, 25, 33, 49, 65, 97, 129, 193, 257, 385, 513, 769, 1025, 1537,
    2049, 3073, 4097, 6145, 8193, 12289, 16385, 24577]

/-- The extra bits after each distance symbol. -/
def distanceExtra : Array Nat :=
  #[0, 0, 0, 0, 1, 1, 2, 2, 3, 3, 4, 4, 5, 5, 6, 6, 7, 7, 8, 8, 9, 9, 10, 10, 11, 11, 12, 12,
    13, 13]

/-- The order in which a block header gives the code lengths of the code-length code. -/
def codeLengthOrder : List Nat :=
  [16, 17, 18, 0, 8, 7, 9, 6, 10, 5, 11, 4, 12, 3, 13, 2, 14, 1, 15]

/-- The output with `count` more bytes, each copied from `distance` bytes back; a byte before
the start of the output is zero. -/
def copyBack (distance : Nat) : Nat → ByteArray → ByteArray
  | 0, out => out
  | count + 1, out =>
    let byte := if distance ≤ out.size then out.get! (out.size - distance) else 0
    copyBack distance count (out.push byte)

/-- The symbols of a block up to its end symbol, appended to the output. -/
def inflateSymbols (literals distances : Code) : Nat → BitStream → ByteArray →
    Option (ByteArray × BitStream)
  | 0, _, _ => none
  | fuel + 1, s, out => do
    let (sym, s) ← literals.decode s
    if sym < 256 then inflateSymbols literals distances fuel s (out.push sym.toUInt8)
    else if sym = 256 then pure (out, s)
    else
      let index := sym - 257
      let base ← lengthBase[index]?
      let (extra, s) ← s.readBits (lengthExtra[index]!)
      let (distSym, s) ← distances.decode s
      let distBase ← distanceBase[distSym]?
      let (distExtra, s) ← s.readBits (distanceExtra[distSym]!)
      inflateSymbols literals distances fuel s (copyBack (distBase + distExtra) (base + extra) out)

/-- The fixed literal and length code. -/
def fixedLiterals : Option Code :=
  Code.ofLengths (List.replicate 144 8 ++ List.replicate 112 9 ++ List.replicate 24 7 ++
    List.replicate 8 8)

/-- The fixed distance code: 32 symbols of five bits, of which 30 and 31 mean nothing. -/
def fixedDistances : Option Code :=
  Code.ofLengths (List.replicate 32 5)

/-- Code lengths for `total` symbols under the code-length code, where 16 repeats the previous
length three to six times, 17 writes three to ten zeros and 18 eleven to 138. -/
def readCodeLengths (code : Code) (total : Nat) : Nat → BitStream → List Nat →
    Option (List Nat × BitStream)
  | 0, _, _ => none
  | fuel + 1, s, acc =>
    if acc.length ≥ total then
      if acc.length = total then some (acc.reverse, s) else none
    else do
      let (sym, s) ← code.decode s
      if sym < 16 then readCodeLengths code total fuel s (sym :: acc)
      else if sym = 16 then
        let previous ← acc.head?
        let (times, s) ← s.readBits 2
        readCodeLengths code total fuel s (List.replicate (times + 3) previous ++ acc)
      else if sym = 17 then
        let (times, s) ← s.readBits 3
        readCodeLengths code total fuel s (List.replicate (times + 3) 0 ++ acc)
      else
        let (times, s) ← s.readBits 7
        readCodeLengths code total fuel s (List.replicate (times + 11) 0 ++ acc)

/-- The two codes a block with its own codes gives in its header. -/
def readDynamicCodes (s : BitStream) : Option (Code × Code × BitStream) := do
  let (literalCount, s) ← s.readBits 5
  let (distanceCount, s) ← s.readBits 5
  let (lengthCount, s) ← s.readBits 4
  let (lengthLengths, s) ← (List.range (lengthCount + 4)).foldlM
    (fun (acc : List Nat × BitStream) _ => do
      let (len, s) ← acc.2.readBits 3
      pure (acc.1 ++ [len], s)) ([], s)
  let orderedLengths := (List.range 19).map fun sym =>
    match codeLengthOrder.idxOf? sym with
    | some position => lengthLengths.getD position 0
    | none => 0
  let lengthCode ← Code.ofLengths orderedLengths
  let total := literalCount + 257 + distanceCount + 1
  let (lengths, s) ← readCodeLengths lengthCode total (s.remaining + 1) s []
  let literals ← Code.ofLengths (lengths.take (literalCount + 257))
  let distances ← Code.ofLengths (lengths.drop (literalCount + 257))
  pure (literals, distances, s)

/-- A block stored as it is: after the byte boundary, its length, the length's complement and
the bytes. -/
def readStored (s : BitStream) (out : ByteArray) : Option (ByteArray × BitStream) := do
  let s := s.alignToByte
  let (length, s) ← s.readBits 16
  let (complement, s) ← s.readBits 16
  if complement ≠ 65535 - length then none
  let start := s.bit / 8
  if start + length > s.bytes.size then none
  pure (out ++ s.bytes.extract start (start + length), { s with bit := (start + length) * 8 })

/-- Blocks up to and including the one marked last. -/
def inflateBlocks : Nat → BitStream → ByteArray → Option (ByteArray × BitStream)
  | 0, _, _ => none
  | fuel + 1, s, out => do
    let (last, s) ← s.readBit
    let (kind, s) ← s.readBits 2
    let (out, s) ← match kind with
      | 0 => readStored s out
      | 1 => do
        let literals ← fixedLiterals
        let distances ← fixedDistances
        inflateSymbols literals distances (s.remaining + 1) s out
      | 2 => do
        let (literals, distances, s) ← readDynamicCodes s
        inflateSymbols literals distances (s.remaining + 1) s out
      | _ => none
    if last = 1 then pure (out, s) else inflateBlocks fuel s out

/-- The bytes a deflate stream starting at a byte offset holds, and the offset of the first
byte after it. -/
def inflate (bytes : ByteArray) (offset : Nat) : Option (ByteArray × Nat) := do
  let start : BitStream := ⟨bytes, offset * 8⟩
  let (out, s) ← inflateBlocks (start.remaining + 1) start ByteArray.empty
  pure (out, (s.bit + 7) / 8)

end BenchDispatch.Gzip
