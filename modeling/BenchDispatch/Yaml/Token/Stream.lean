import BenchDispatch.Yaml.Token.Scalar

/-!
# The token stream of a YAML text

`Token.scan?` turns a whole text into its tokens, or fails. Each step skips
blanks, comments and line breaks, closes the block collections that the new
column leaves, and reads one token; the indicator characters decide which.
Tabs may separate tokens inside a line but never indent one, and a `:` only
makes a key of what precedes it when a simple key was allowed there.
-/

set_option autoImplicit false

namespace BenchDispatch.Yaml

namespace Scan

/-- Skip spaces, and tabs where a simple key cannot start (in flow context or
after a token on the same line). -/
def skipSeparators : Nat → Scan Unit
  | 0 => pure ()
  | fuel + 1 => do
    let s ← get
    let c ← peek 0
    if c == some ' ' || (c == some '\t' && (s.flowLevel > 0 || !s.simpleKeyAllowed)) then
      skip
      skipSeparators fuel

/-- Skip to the start of the next token: separators, comments and line breaks
(a byte-order mark may open a line). In block context a new line allows a simple key. -/
def toNextToken : Nat → Scan Unit
  | 0 => pure ()
  | fuel + 1 => do
    if (← column) == 0 && (← peek 0) == some '\uFEFF' then skip
    skipSeparators (← budget)
    if (← peek 0) == some '#' then skipToBreak (← budget)
    if (← peek 0).any isBreak then
      skipLine
      if (← get).flowLevel == 0 then setKeyAllowed true
      toNextToken fuel

/-- The end of the text closes every block collection. -/
def streamEnd : Scan Unit := do
  let s ← get
  if s.mark.column != 0 then
    set { s with mark := { s.mark with column := 0, line := s.mark.line + 1 } }
  unrollIndent (-1)
  removeSimpleKey
  setKeyAllowed false
  append .streamEnd

/-- A directive line closes every block collection. -/
def directiveLine : Scan Unit := do
  unrollIndent (-1)
  removeSimpleKey
  setKeyAllowed false
  directive

/-- A document marker `---` or `...` closes every block collection. -/
def documentMarker (token : Token) : Scan Unit := do
  unrollIndent (-1)
  removeSimpleKey
  setKeyAllowed false
  skipN 3
  append token

/-- `[` or `{`: it may start a simple key, and opens a flow level. -/
def flowStart (token : Token) : Scan Unit := do
  saveSimpleKey
  increaseFlowLevel
  setKeyAllowed true
  skip
  append token

/-- `]` or `}` closes a flow level. -/
def flowEnd (token : Token) : Scan Unit := do
  removeSimpleKey
  decreaseFlowLevel
  setKeyAllowed false
  skip
  append token

/-- `,` between flow entries. -/
def flowEntry : Scan Unit := do
  removeSimpleKey
  setKeyAllowed true
  skip
  append .flowEntry

/-- `-` before a block sequence entry; in block context it may open a sequence. -/
def blockEntry : Scan Unit := do
  let s ← get
  if s.flowLevel == 0 then
    if !s.simpleKeyAllowed then fail
    rollIndent s.mark.column none .blockSequenceStart
  removeSimpleKey
  setKeyAllowed true
  skip
  append .blockEntry

/-- `?` before an explicit key; in block context it may open a mapping. -/
def explicitKey : Scan Unit := do
  let s ← get
  if s.flowLevel == 0 then
    if !s.simpleKeyAllowed then fail
    rollIndent s.mark.column none .blockMappingStart
  removeSimpleKey
  setKeyAllowed (s.flowLevel == 0)
  skip
  append .key

/-- `:` after a key. If a simple key was saved, its `key` token (and in block
context the mapping start) is inserted where it began; otherwise the `:` follows an
explicit key, which in block context is only allowed where a simple key would be. -/
def valueIndicator : Scan Unit := do
  let key ← topKey
  if key.possible then
    insertAt key.tokenNumber .key
    rollIndent key.mark.column (some key.tokenNumber) .blockMappingStart
    setTopKey { key with possible := false }
    setKeyAllowed false
  else
    let s ← get
    if s.flowLevel == 0 then
      if !s.simpleKeyAllowed then fail
      rollIndent s.mark.column none .blockMappingStart
    setKeyAllowed (s.flowLevel == 0)
  skip
  append .value

/-- A token that may be the start of a simple key and forbids another one right after it. -/
def keyCandidate (read : Scan Unit) : Scan Unit := do
  saveSimpleKey
  setKeyAllowed false
  read

/-- Whether `c` may start a plain scalar, given the character after it: not an
indicator, except `-`, and (in block context) `?` and `:`, before a non-blank. -/
def startsPlain (flow : Bool) (c : Char) (next : Option Char) : Bool :=
  !(isBreak c || isBlank c || "-?:,[]\x7b\x7d#&*!|>'\"%@\x60".contains c) ||
    (c == '-' && !next.any isBlank) ||
    (!flow && (c == '?' || c == ':') && !isBlankOrEnd next)

/-- Read the next token; `true` once the end of the stream is reached. -/
def nextToken : Scan Bool := do
  toNextToken (← budget)
  staleSimpleKeys
  unrollIndent (← column)
  let s ← get
  let flow := s.flowLevel > 0
  match ← peek 0 with
  | none => streamEnd; return true
  | some c =>
    let next ← peek 1
    if s.mark.column == 0 && c == '%' then directiveLine
    else if ← atDocumentMarker then
      documentMarker (if c == '-' then .documentStart else .documentEnd)
    else if c == '[' then flowStart .flowSequenceStart
    else if c == '{' then flowStart .flowMappingStart
    else if c == ']' then flowEnd .flowSequenceEnd
    else if c == '}' then flowEnd .flowMappingEnd
    else if c == ',' then flowEntry
    else if c == '-' && isBlankOrEnd next then blockEntry
    else if c == '?' && (flow || isBlankOrEnd next) then explicitKey
    else if c == ':' && (flow || isBlankOrEnd next) then valueIndicator
    else if c == '*' then keyCandidate (anchorOrAlias true)
    else if c == '&' then keyCandidate (anchorOrAlias false)
    else if c == '!' then keyCandidate tag
    else if (c == '|' || c == '>') && !flow then
      removeSimpleKey
      setKeyAllowed true
      blockScalar (c == '|')
    else if c == '\'' || c == '"' then keyCandidate (quotedScalar (c == '\''))
    else if startsPlain flow c next then keyCandidate plainScalar
    else fail
    return false

/-- Read tokens until the end of the stream. -/
def tokens : Nat → Scan Unit
  | 0 => fail
  | fuel + 1 => do
    if ← nextToken then pure () else tokens fuel

end Scan

/-- The tokens of a YAML text, from `streamStart` to `streamEnd`, or `none` when the
text is not well-formed (including a character outside the printable set). -/
def Token.scan? (text : String) : Option (Array Token) :=
  let chars := text.toList.toArray
  if !chars.all isPrintable then none
  else
    let start : Cursor :=
      { input := chars, mark := ⟨0, 0, 0⟩, tokens := #[.streamStart], flowLevel := 0,
        indent := -1, indents := [], simpleKeyAllowed := true, simpleKeys := [SimpleKey.none] }
    match (Scan.tokens (chars.size + 2)).run start with
    | .ok ((), s) => some s.tokens
    | .error _ => none

end BenchDispatch.Yaml
