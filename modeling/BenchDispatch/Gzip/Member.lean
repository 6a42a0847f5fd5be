import BenchDispatch.Gzip.Crc32
import BenchDispatch.Gzip.Inflate
/-!
# Gzip members

A gzip member is a ten-byte header (magic `1f 8b`, method 8, flags, time, extra flags, system),
the optional fields its flags announce (extra field, name, comment, header check), a deflate
stream, and a trailer with the CRC-32 and the length modulo 2^32 of the data. Reading takes the
first member only and leaves whatever follows it; reserved flags, another method, a failed
check and a truncated member are refused. Which deflate blocks a member holds is its writer's
choice; `writeMember` stores the data in stored blocks.
-/

set_option autoImplicit false

namespace BenchDispatch.Gzip

/-- A little-endian number of `width` bytes at an offset. -/
def readLittleEndian (bytes : ByteArray) (offset width : Nat) : Option Nat :=
  if offset + width ≤ bytes.size then
    some ((List.range width).foldr (fun i acc => acc * 256 + (bytes.get! (offset + i)).toNat) 0)
  else none

/-- The offset just after the zero byte that ends a field starting at `offset`. -/
def skipZeroTerminated (bytes : ByteArray) (offset : Nat) : Option Nat :=
  let rest := (bytes.extract offset bytes.size).toList
  match rest.idxOf? 0 with
  | some index => some (offset + index + 1)
  | none => none

/-- The data of the first gzip member of a byte sequence. -/
def readMember (bytes : ByteArray) : Option ByteArray := do
  if bytes.size < 10 then none
  if bytes.get! 0 ≠ 0x1f ∨ bytes.get! 1 ≠ 0x8b ∨ bytes.get! 2 ≠ 8 then none
  let flags := (bytes.get! 3).toNat
  if flags / 32 ≠ 0 then none
  let offset := 10
  let offset ← if flags / 4 % 2 = 1 then do
      let length ← readLittleEndian bytes offset 2
      if offset + 2 + length > bytes.size then none
      pure (offset + 2 + length)
    else pure offset
  let offset ← if flags / 8 % 2 = 1 then skipZeroTerminated bytes offset else pure offset
  let offset ← if flags / 16 % 2 = 1 then skipZeroTerminated bytes offset else pure offset
  let offset ← if flags / 2 % 2 = 1 then do
      let check ← readLittleEndian bytes offset 2
      if check ≠ (crc32 (bytes.extract 0 offset)).toNat % 65536 then none
      pure (offset + 2)
    else pure offset
  let (data, offset) ← inflate bytes offset
  let crc ← readLittleEndian bytes offset 4
  let size ← readLittleEndian bytes (offset + 4) 4
  if crc ≠ (crc32 data).toNat then none
  if size ≠ data.size % 4294967296 then none
  pure data

/-- The bytes of a number in `width` little-endian bytes. -/
def littleEndian (value width : Nat) : List UInt8 :=
  (List.range width).map fun i => (value / Nat.pow 256 i % 256).toUInt8

/-- Stored deflate blocks holding the data, at most 65535 bytes each; the last is marked
last, and empty data is one empty last block. -/
def storedBlocks (data : List UInt8) : List UInt8 :=
  let blockHeader (last : Bool) (length : Nat) : List UInt8 :=
    [if last then (1 : UInt8) else 0] ++ littleEndian length 2 ++ littleEndian (65535 - length) 2
  if data.length ≤ 65535 then blockHeader true data.length ++ data
  else blockHeader false 65535 ++ data.take 65535 ++ storedBlocks (data.drop 65535)
termination_by data.length
decreasing_by simp only [List.length_drop]; omega

/-- A gzip member holding the data in stored blocks. -/
def writeMember (data : ByteArray) : ByteArray :=
  let header : List UInt8 := [0x1f, 0x8b, 8, 0, 0, 0, 0, 0, 0, 255]
  let trailer := littleEndian (crc32 data).toNat 4 ++ littleEndian (data.size % 4294967296) 4
  ⟨(header ++ storedBlocks data.toList ++ trailer).toArray⟩
end BenchDispatch.Gzip
