/-!
# YAML tokens

The token stream of a YAML 1.1 text: indicators, the block structure that
indentation implies (`blockMappingStart`, `blockEnd`, ...), and scalars with the
style they were written in. Only plain scalars are later resolved to booleans
and numbers, so the style travels with the text.
-/

set_option autoImplicit false

namespace BenchDispatch.Yaml

/-- How a scalar was written in the text. -/
inductive ScalarStyle where
  | plain
  | singleQuoted
  | doubleQuoted
  | literal
  | folded
  deriving DecidableEq, Repr

/-- One token of a YAML text. Block starts and ends are implied by indentation;
flow starts and ends are written brackets. -/
inductive Token where
  | streamStart
  | streamEnd
  | versionDirective (major minor : Nat)
  | tagDirective (handle prefixText : String)
  | documentStart
  | documentEnd
  | blockSequenceStart
  | blockMappingStart
  | blockEnd
  | flowSequenceStart
  | flowSequenceEnd
  | flowMappingStart
  | flowMappingEnd
  | blockEntry
  | flowEntry
  | key
  | value
  | alias (name : String)
  | anchor (name : String)
  | tag (handle suffix : String)
  | scalar (text : String) (style : ScalarStyle)
  deriving DecidableEq, Repr

/-- A line break: carriage return, line feed, next line, line or paragraph separator. -/
def isBreak (c : Char) : Bool :=
  c == '\r' || c == '\n' || c == '\u0085' || c == '\u2028' || c == '\u2029'

/-- A blank: space or tab. -/
def isBlank (c : Char) : Bool :=
  c == ' ' || c == '\t'

/-- The end of the text or a line break. -/
def isBreakOrEnd : Option Char → Bool
  | none => true
  | some c => isBreak c

/-- The end of the text, a line break or a blank. -/
def isBlankOrEnd : Option Char → Bool
  | none => true
  | some c => isBreak c || isBlank c

/-- A character of an anchor name or tag handle: an ASCII letter or digit, `_` or `-`. -/
def isNameChar (c : Char) : Bool :=
  c.isAlphanum || c == '_' || c == '-'

/-- A character the reader accepts in a YAML text: tab, line breaks, printable
ASCII, and the printable ranges above it (no surrogates, no `U+FFFE`, `U+FFFF`). -/
def isPrintable (c : Char) : Bool :=
  let n := c.toNat
  n == 0x09 || n == 0x0A || n == 0x0D || (0x20 ≤ n && n ≤ 0x7E) || n == 0x85 ||
    (0xA0 ≤ n && n ≤ 0xD7FF) || (0xE000 ≤ n && n ≤ 0xFFFD) || (0x10000 ≤ n && n ≤ 0x10FFFF)

end BenchDispatch.Yaml
