import BenchDispatch.Text.Base64
/-!
# Record errors

Why a record could not be read, or a detail could not be packed or unpacked, with the message
each reason is reported with.
-/

set_option autoImplicit false

namespace BenchDispatch

/-- Why a record or a detail could not be made or read. -/
inductive RecordError where
  /-- A build state tag that names no state. -/
  | unknownState (tag : String)
  /-- A text that is not the JSON of the record asked for. -/
  | malformed
  /-- Compressed bytes asked for without a text encoding to carry them. -/
  | unencodedCompression (kind : String)
  /-- Detail data that is not base64. -/
  | base64 (kind : String) (reason : Base64.Error)
  /-- Detail data that is not a gzip member. -/
  | compression (kind : String)
  /-- Detail bytes that are not UTF-8 where text is needed. -/
  | notText (kind : String)
  deriving Repr, DecidableEq

/-- The message a reason is reported with. -/
def RecordError.message : RecordError → String
  | .unknownState tag => s!"unknown build state '{tag}'"
  | .malformed => "failed to decode record"
  | .unencodedCompression kind => s!"detail '{kind}' is compressed but not text-encoded"
  | .base64 kind reason => s!"detail '{kind}' is not valid base64: " ++ reason.message
  | .compression kind => s!"detail '{kind}' could not be (de)compressed"
  | .notText kind => s!"detail '{kind}' is not valid UTF-8 after decoding"

end BenchDispatch
