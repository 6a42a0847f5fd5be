/-!
# CRC-32

The cyclic redundancy check of gzip: the reflected polynomial `0xEDB88320`, a register started
at all ones and inverted at the end, one bit at a time.
-/

set_option autoImplicit false

namespace BenchDispatch.Gzip

/-- One bit of the register shifted out, the polynomial folded in when it was set. -/
def crcBit (register : UInt32) : UInt32 :=
  if register &&& 1 == 1 then (register >>> 1) ^^^ 0xEDB88320 else register >>> 1

/-- The register after one byte. -/
def crcByte (register : UInt32) (byte : UInt8) : UInt32 :=
  let register := register ^^^ byte.toUInt32
  (List.range 8).foldl (fun register _ => crcBit register) register

/-- The check value of a byte sequence. -/
def crc32 (bytes : ByteArray) : UInt32 :=
  bytes.foldl crcByte 0xFFFFFFFF ^^^ 0xFFFFFFFF

end BenchDispatch.Gzip
