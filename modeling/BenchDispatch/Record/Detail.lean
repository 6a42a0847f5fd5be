import BenchDispatch.Gzip.Member
import BenchDispatch.Record.Basic
import BenchDispatch.Record.Error
/-!
# Packing details

A detail carries bytes as text: packing compresses them when asked, then writes them in base64
when asked, and otherwise requires them to be UTF-8 text. Compressed bytes are not text, so
compression without an encoding is refused before anything else. Unpacking undoes the two steps
in reverse order.

Packing takes the gzip compressor it uses: which deflate blocks a member holds, and so the packed
data, are the compressor's choice.
-/

set_option autoImplicit false

namespace BenchDispatch.BuildDetail

/-- The detail holding the bytes compressed into a gzip member by `gzip` and encoded as asked. -/
def pack (gzip : ByteArray → ByteArray) (kind : String) (bytes : ByteArray) (compression : Option Compression)
    (encoding : Option TextEncoding) : Except RecordError BuildDetail := do
  let compressed ← match compression, encoding with
    | none, _ => pure bytes
    | some _, none => throw (.unencodedCompression kind)
    | some .gzip, some _ => pure (gzip bytes)
  let data ← match encoding with
    | some .base64 => pure (Base64.encode compressed.toList)
    | none =>
      match String.fromUTF8? compressed with
      | some text => pure text
      | none => throw (.notText kind)
  pure ⟨kind, compression, encoding, data⟩

/-- The bytes a detail carries: its data read as base64 when it is encoded, else its UTF-8
bytes, then decompressed when it is compressed. -/
def unpack (detail : BuildDetail) : Except RecordError ByteArray := do
  let decoded ← match detail.encoding with
    | some .base64 =>
      match Base64.decode detail.data.toUTF8.toList with
      | .ok bytes => pure (ByteArray.mk bytes.toArray)
      | .error reason => throw (.base64 detail.kind reason)
    | none => pure detail.data.toUTF8
  match detail.compression with
  | none => pure decoded
  | some .gzip =>
    match Gzip.readMember decoded with
    | some data => pure data
    | none => throw (.compression detail.kind)

/-- The text a detail carries. -/
def unpackText (detail : BuildDetail) : Except RecordError String := do
  let bytes ← detail.unpack
  match String.fromUTF8? bytes with
  | some text => pure text
  | none => throw (.notText detail.kind)

end BenchDispatch.BuildDetail
