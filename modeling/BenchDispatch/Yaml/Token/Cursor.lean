import BenchDispatch.Yaml.Token

/-!
# The scanning cursor

The state of a YAML scan: the position in the text, the tokens found so far,
the stack of block indentations and, per flow level, the one place where a
*simple key* (a key written without `?`) may have started. A simple key is only
recognised when its `:` arrives, so the `key` token (and, in block context, the
`blockMappingStart` before it) is inserted back at the place that was saved.
-/

set_option autoImplicit false

namespace BenchDispatch.Yaml

/-- A position in the text: character index, line and column (both from 0). -/
structure Mark where
  index : Nat
  line : Nat
  column : Nat
  deriving Repr

/-- A place where a simple key may have started. `required` keys are those that
start a line at the current block indentation: they must be followed by `:`. -/
structure SimpleKey where
  possible : Bool
  required : Bool
  tokenNumber : Nat
  mark : Mark
  deriving Repr

/-- No simple key. -/
def SimpleKey.none : SimpleKey :=
  { possible := false, required := false, tokenNumber := 0, mark := ⟨0, 0, 0⟩ }

/-- The state of a scan. `simpleKeys` has one entry per flow level, innermost first. -/
structure Cursor where
  input : Array Char
  mark : Mark
  tokens : Array Token
  flowLevel : Nat
  indent : Int
  indents : List Int
  simpleKeyAllowed : Bool
  simpleKeys : List SimpleKey

/-- A scan step: it changes the cursor or fails. The reason of a failure is not kept. -/
abbrev Scan := StateT Cursor (Except Unit)

namespace Scan

/-- Stop the scan: the text is not well-formed YAML. -/
def fail {α : Type} : Scan α := throw ()

/-- The character `k` places ahead, if the text is that long. -/
def peek (k : Nat) : Scan (Option Char) := do
  let s ← get
  return s.input[s.mark.index + k]?

/-- The current column. -/
def column : Scan Nat := do
  return (← get).mark.column

/-- Move past one character that is not a line break. -/
def skip : Scan Unit :=
  modify fun s => { s with mark := { s.mark with index := s.mark.index + 1, column := s.mark.column + 1 } }

/-- Move past `n` characters that are not line breaks. -/
def skipN : Nat → Scan Unit
  | 0 => pure ()
  | n + 1 => do skip; skipN n

/-- Move to the next line: the position goes past `count` characters. -/
def nextLine (count : Nat) : Scan Unit :=
  modify fun s => { s with mark := { index := s.mark.index + count, line := s.mark.line + 1, column := 0 } }

/-- Move past a line break, if one is here (carriage return and line feed together count as one). -/
def skipLine : Scan Unit := do
  match ← peek 0, ← peek 1 with
  | some '\r', some '\n' => nextLine 2
  | some c, _ => if isBreak c then nextLine 1 else pure ()
  | none, _ => pure ()

/-- Move past a line break and return it as it reads in a scalar: every break is
a line feed except the line and paragraph separators, which stay themselves.
At the end of the text nothing is read. -/
def readLine : Scan String := do
  match ← peek 0, ← peek 1 with
  | some '\r', some '\n' => nextLine 2; return "\n"
  | some c, _ =>
    if c == '\r' || c == '\n' || c == '\u0085' then
      nextLine 1; return "\n"
    else if c == '\u2028' || c == '\u2029' then
      nextLine 1; return c.toString
    else return ""
  | none, _ => return ""

/-- Read the current character (not a line break) into a string. -/
def readChar : Scan String := do
  match ← peek 0 with
  | some c => skip; return c.toString
  | none => return ""

/-- Add a token at the end of the stream. -/
def append (token : Token) : Scan Unit :=
  modify fun s => { s with tokens := s.tokens.push token }

/-- Insert a token before the token numbered `number`. -/
def insertAt (number : Nat) (token : Token) : Scan Unit :=
  modify fun s =>
    let list := s.tokens.toList
    { s with tokens := (list.take number ++ token :: list.drop number).toArray }

/-- The simple key of the innermost flow level. -/
def topKey : Scan SimpleKey := do
  match (← get).simpleKeys with
  | key :: _ => return key
  | [] => return SimpleKey.none

/-- Replace the simple key of the innermost flow level. -/
def setTopKey (key : SimpleKey) : Scan Unit :=
  modify fun s =>
    match s.simpleKeys with
    | _ :: rest => { s with simpleKeys := key :: rest }
    | [] => { s with simpleKeys := [key] }

/-- Allow or forbid a simple key at the next token. -/
def setKeyAllowed (allowed : Bool) : Scan Unit :=
  modify fun s => { s with simpleKeyAllowed := allowed }

/-- Forget the possible simple key of this level; a required one that never saw its `:` is an error. -/
def removeSimpleKey : Scan Unit := do
  let key ← topKey
  if key.possible && key.required then fail
  setTopKey { key with possible := false }

/-- Remember that a simple key may start at the next token, if one is allowed here. -/
def saveSimpleKey : Scan Unit := do
  let s ← get
  let required := s.flowLevel == 0 && s.indent == (s.mark.column : Int)
  if s.simpleKeyAllowed then
    let key : SimpleKey :=
      { possible := true, required, tokenNumber := s.tokens.size, mark := s.mark }
    removeSimpleKey
    setTopKey key

/-- A simple key lies on one line and within 1024 characters: forget those that no longer can,
and fail if such a key was required. -/
def staleSimpleKeys : Scan Unit := do
  let s ← get
  let here := s.mark
  let keys ← s.simpleKeys.mapM fun (key : SimpleKey) =>
    if key.possible && (key.mark.line < here.line || key.mark.index + 1024 < here.index) then
      if key.required then (throw () : Except Unit SimpleKey)
      else pure { key with possible := false }
    else pure key
  set { s with simpleKeys := keys }

/-- Enter a flow collection: a new level with no simple key. -/
def increaseFlowLevel : Scan Unit :=
  modify fun s => { s with flowLevel := s.flowLevel + 1, simpleKeys := SimpleKey.none :: s.simpleKeys }

/-- Leave a flow collection. -/
def decreaseFlowLevel : Scan Unit :=
  modify fun s =>
    if s.flowLevel = 0 then s
    else { s with flowLevel := s.flowLevel - 1, simpleKeys := s.simpleKeys.drop 1 }

/-- In block context, open a block collection at `column` if it lies deeper than the current
indentation; the start token goes at position `number`, or at the end. -/
def rollIndent (column : Nat) (number : Option Nat) (token : Token) : Scan Unit := do
  let s ← get
  if s.flowLevel == 0 && s.indent < (column : Int) then
    set { s with indents := s.indent :: s.indents, indent := column }
    match number with
    | some n => insertAt n token
    | none => append token

/-- Close one block collection per indentation deeper than `column`. -/
def unrollFrom (column : Int) : List Int → Scan Unit
  | [] => pure ()
  | outer :: rest => do
    let s ← get
    if s.indent > column then
      set { s with indent := outer, indents := rest, tokens := s.tokens.push .blockEnd }
      unrollFrom column rest

/-- In block context, close every block collection indented deeper than `column`. -/
def unrollIndent (column : Int) : Scan Unit := do
  let s ← get
  if s.flowLevel == 0 then unrollFrom column s.indents

/-- Whether a document marker (`---` or `...`, then a blank or the end) starts here. -/
def atDocumentMarker : Scan Bool := do
  let s ← get
  if s.mark.column != 0 then return false
  let c0 ← peek 0
  let c1 ← peek 1
  let c2 ← peek 2
  let c3 ← peek 3
  let dashes := c0 == some '-' && c1 == some '-' && c2 == some '-'
  let dots := c0 == some '.' && c1 == some '.' && c2 == some '.'
  return (dashes || dots) && isBlankOrEnd c3

end Scan

end BenchDispatch.Yaml
