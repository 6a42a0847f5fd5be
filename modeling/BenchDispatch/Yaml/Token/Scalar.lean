import BenchDispatch.Yaml.Token.Cursor

/-!
# Scalars, anchors, tags and directives

Reading the tokens that carry text. The three flow styles share one folding
rule: inside a scalar, a single line break between two pieces of text becomes a
space, every further break is kept as a line feed, and the blanks around breaks
are dropped. Block scalars (`|` keeps breaks, `>` folds them) take their
indentation from the first non-empty line and end at the first line indented less.
-/

set_option autoImplicit false

namespace BenchDispatch.Yaml

/-- The text of a flow scalar while it is read: what is final, and the blanks and
breaks met since the last non-blank character, which wait to be folded. -/
structure Folding where
  text : String := ""
  leadingBreak : String := ""
  trailingBreaks : String := ""
  whitespaces : String := ""
  leadingBlanks : Bool := false

/-- Fold what is waiting into the text: after a line break, one line feed becomes a
space unless more breaks follow, which are kept; without a break, the blanks are kept. -/
def Folding.join (f : Folding) : Folding :=
  if f.leadingBlanks then
    if f.leadingBreak.startsWith "\n" then
      if f.trailingBreaks.isEmpty then
        { f with text := f.text ++ " ", leadingBreak := "" }
      else
        { f with text := f.text ++ f.trailingBreaks, trailingBreaks := "", leadingBreak := "" }
    else
      { f with text := f.text ++ f.leadingBreak ++ f.trailingBreaks, leadingBreak := "",
               trailingBreaks := "" }
  else
    { f with text := f.text ++ f.whitespaces, whitespaces := "" }

namespace Scan

/-- How many steps a loop over the rest of the text may take. -/
def budget : Scan Nat := do
  let s ← get
  return s.input.size - s.mark.index + 1

/-- Skip blanks. -/
def skipBlanks : Nat → Scan Unit
  | 0 => pure ()
  | fuel + 1 => do
    if (← peek 0).any isBlank then
      skip
      skipBlanks fuel

/-- Skip up to the next line break or the end of the text. -/
def skipToBreak : Nat → Scan Unit
  | 0 => pure ()
  | fuel + 1 => do
    if !isBreakOrEnd (← peek 0) then
      skip
      skipToBreak fuel

/-- Read characters while they satisfy `p`. -/
def readWhile (p : Char → Bool) : Nat → String → Scan String
  | 0, acc => pure acc
  | fuel + 1, acc => do
    match ← peek 0 with
    | some c => if p c then do skip; readWhile p fuel (acc.push c) else pure acc
    | none => pure acc

/-- Consume blanks and line breaks after a piece of flow-scalar text. With `tabLimit`,
a tab among the leading blanks of a line left of that column is an error. -/
def foldBlanks (tabLimit : Option Int) : Nat → Folding → Scan Folding
  | 0, f => pure f
  | fuel + 1, f => do
    match ← peek 0 with
    | some c =>
      if isBlank c then
        let col ← column
        if f.leadingBlanks && c == '\t' && tabLimit.any (fun limit => (col : Int) < limit) then
          fail
        skip
        if f.leadingBlanks then foldBlanks tabLimit fuel f
        else foldBlanks tabLimit fuel { f with whitespaces := f.whitespaces.push c }
      else if isBreak c then
        let lineBreak ← readLine
        if f.leadingBlanks then
          foldBlanks tabLimit fuel { f with trailingBreaks := f.trailingBreaks ++ lineBreak }
        else
          foldBlanks tabLimit fuel
            { f with whitespaces := "", leadingBreak := lineBreak, leadingBlanks := true }
      else pure f
    | none => pure f

/-- The non-blank characters of one piece of a plain scalar. In flow context it stops
at `,[]{}`; everywhere it stops at `:` before a blank. -/
def plainChars : Nat → Folding → Scan Folding
  | 0, f => pure f
  | fuel + 1, f => do
    match ← peek 0 with
    | none => pure f
    | some c =>
      if isBlank c || isBreak c then pure f
      else
        let flow := (← get).flowLevel > 0
        let next ← peek 1
        if flow && c == ':' && next.any (fun n => ",?[]\x7b\x7d".contains n) then fail
        if (c == ':' && isBlankOrEnd next) || (flow && ",[]\x7b\x7d".contains c) then pure f
        else
          let f := if f.leadingBlanks || !f.whitespaces.isEmpty then
            { f.join with leadingBlanks := false } else f
          skip
          plainChars fuel { f with text := f.text.push c }

/-- The lines of a plain scalar; in block context a continuation line must be
indented at least to `indent`. -/
def plainLines (indent : Int) : Nat → Folding → Scan Folding
  | 0, f => pure f
  | fuel + 1, f => do
    if ← atDocumentMarker then return f
    if (← peek 0) == some '#' then return f
    let f ← plainChars (← budget) f
    let c ← peek 0
    if !(c.any isBlank || c.any isBreak) then return f
    let f ← foldBlanks (some indent) (← budget) f
    let s ← get
    if s.flowLevel == 0 && (s.mark.column : Int) < indent then return f
    plainLines indent fuel f

/-- Read a plain scalar. A plain scalar that ends on a later line allows a simple key next. -/
def plainScalar : Scan Unit := do
  let s ← get
  let f ← plainLines (s.indent + 1) (← budget) {}
  append (.scalar f.text .plain)
  if f.leadingBlanks then setKeyAllowed true

/-- The character a one-letter escape of a double-quoted scalar stands for. -/
def simpleEscape : Char → Option Char
  | '0' => some '\x00'
  | 'a' => some '\x07'
  | 'b' => some '\x08'
  | 't' => some '\t'
  | '\t' => some '\t'
  | 'n' => some '\n'
  | 'v' => some '\x0b'
  | 'f' => some '\x0c'
  | 'r' => some '\r'
  | 'e' => some '\x1b'
  | ' ' => some ' '
  | '"' => some '"'
  | '/' => some '/'
  | '\'' => some '\''
  | '\\' => some '\\'
  | 'N' => some '\u0085'
  | '_' => some '\u00a0'
  | 'L' => some '\u2028'
  | 'P' => some '\u2029'
  | _ => none

/-- The value of a hexadecimal digit. -/
def hexDigitValue (c : Char) : Option Nat :=
  if '0' ≤ c && c ≤ '9' then some (c.toNat - '0'.toNat)
  else if 'a' ≤ c && c ≤ 'f' then some (c.toNat - 'a'.toNat + 10)
  else if 'A' ≤ c && c ≤ 'F' then some (c.toNat - 'A'.toNat + 10)
  else none

/-- The number written by the `width` hexadecimal digits ahead, starting `from` places on. -/
def hexAhead (start : Nat) : Nat → Nat → Scan Nat
  | 0, acc => pure acc
  | width + 1, acc => do
    match (← peek start).bind hexDigitValue with
    | some d => hexAhead (start + 1) width (acc * 16 + d)
    | none => fail

/-- The non-blank characters of one piece of a quoted scalar, up to the closing quote.
An escaped line break ends the piece and counts as a break already met. -/
def quotedChars (single : Bool) : Nat → Folding → Scan Folding
  | 0, f => pure f
  | fuel + 1, f => do
    match ← peek 0 with
    | none => pure f
    | some c =>
      if isBlank c || isBreak c then pure f
      else
        let next ← peek 1
        if single && c == '\'' && next == some '\'' then
          skipN 2
          quotedChars single fuel { f with text := f.text.push '\'' }
        else if c == (if single then '\'' else '"') then pure f
        else if !single && c == '\\' && next.any isBreak then
          skip
          skipLine
          pure { f with leadingBlanks := true }
        else if !single && c == '\\' then
          let some e := next | fail
          match simpleEscape e with
          | some out =>
            skipN 2
            quotedChars single fuel { f with text := f.text.push out }
          | none =>
            let width := if e == 'x' then 2 else if e == 'u' then 4 else if e == 'U' then 8 else 0
            if width == 0 then fail
            skipN 2
            let code ← hexAhead 0 width 0
            if (0xD800 ≤ code && code ≤ 0xDFFF) || code > 0x10FFFF then fail
            skipN width
            quotedChars single fuel { f with text := f.text.push (Char.ofNat code) }
        else
          skip
          quotedChars single fuel { f with text := f.text.push c }

/-- The pieces of a quoted scalar up to its closing quote; the end of the text or a
document marker inside it is an error. -/
def quotedLines (single : Bool) : Nat → Folding → Scan Folding
  | 0, _ => fail
  | fuel + 1, f => do
    if ← atDocumentMarker then fail
    if (← peek 0).isNone then fail
    let f ← quotedChars single (← budget) { f with leadingBlanks := false }
    if (← peek 0) == some (if single then '\'' else '"') then return f
    let f ← foldBlanks none (← budget) f
    quotedLines single fuel f.join

/-- Read a single- or double-quoted scalar. -/
def quotedScalar (single : Bool) : Scan Unit := do
  skip
  let f ← quotedLines single (← budget) {}
  skip
  append (.scalar f.text (if single then .singleQuoted else .doubleQuoted))

/-- Skip indentation spaces while the column is left of `indent` (any column when `indent` is 0). -/
def skipIndentation (indent : Nat) : Nat → Scan Unit
  | 0 => pure ()
  | fuel + 1 => do
    let col ← column
    if (indent == 0 || col < indent) && (← peek 0) == some ' ' then
      skip
      skipIndentation indent fuel

/-- The empty lines before a line of a block scalar, and its indentation: when not yet
known it is the deepest of those lines, at least one more than the parent's and at least 1. -/
def blockBreaks (parent : Int) (indent : Nat) : Nat → Nat → String → Scan (Nat × String)
  | 0, _, breaks => pure (indent, breaks)
  | fuel + 1, deepest, breaks => do
    skipIndentation indent (← budget)
    let col ← column
    let deepest := max deepest col
    let c ← peek 0
    if (indent == 0 || col < indent) && c == some '\t' then fail
    if c.any isBreak then
      let lineBreak ← readLine
      blockBreaks parent indent fuel deepest (breaks ++ lineBreak)
    else if indent == 0 then
      pure (max (max deepest (parent + 1).toNat) 1, breaks)
    else pure (indent, breaks)

/-- Read the rest of a line into `text`. -/
def restOfLine : Nat → String → Scan String
  | 0, text => pure text
  | fuel + 1, text => do
    match ← peek 0 with
    | some c => if isBreak c then pure text else do skip; restOfLine fuel (text.push c)
    | none => pure text

/-- The lines of a block scalar at indentation `indent`. A folded scalar joins two lines
by a space when neither starts with a blank and no empty line lies between them. -/
def blockLines (literal : Bool) (parent : Int) (indent : Nat) :
    Nat → String → String → String → Bool → Scan (String × String × String)
  | 0, text, leadingBreak, trailingBreaks, _ => pure (text, leadingBreak, trailingBreaks)
  | fuel + 1, text, leadingBreak, trailingBreaks, leadingBlank => do
    let col ← column
    let c ← peek 0
    if col != indent || c.isNone then return (text, leadingBreak, trailingBreaks)
    let trailingBlank := c.any isBlank
    let text :=
      if !literal && leadingBreak.startsWith "\n" && !leadingBlank && !trailingBlank then
        if trailingBreaks.isEmpty then text ++ " " else text
      else text ++ leadingBreak
    let text := text ++ trailingBreaks
    let text ← restOfLine (← budget) text
    let lineBreak ← readLine
    let (indent', breaks) ← blockBreaks parent indent (← budget) 0 ""
    blockLines literal parent indent' fuel text lineBreak breaks trailingBlank

/-- The value of a digit. -/
def digitValue (c : Char) : Nat := c.toNat - '0'.toNat

/-- Read a literal (`|`) or folded (`>`) block scalar with its chomping (`+` keeps the
final breaks, `-` drops them, default keeps one) and optional indentation digit. -/
def blockScalar (literal : Bool) : Scan Unit := do
  skip
  let c ← peek 0
  let (chomping, increment) ←
    match c with
    | some '+' | some '-' => do
      let chomping : Int := if c == some '+' then 1 else -1
      skip
      match ← peek 0 with
      | some d =>
        if d.isDigit then
          if d == '0' then fail
          skip
          pure (chomping, digitValue d)
        else pure (chomping, 0)
      | none => pure (chomping, 0)
    | some d =>
      if d.isDigit then do
        if d == '0' then fail
        skip
        match ← peek 0 with
        | some '+' => do skip; pure (1, digitValue d)
        | some '-' => do skip; pure (-1, digitValue d)
        | _ => pure (0, digitValue d)
      else pure (0, 0)
    | none => pure (0, 0)
  skipBlanks (← budget)
  if (← peek 0) == some '#' then skipToBreak (← budget)
  if !isBreakOrEnd (← peek 0) then fail
  skipLine
  let parent := (← get).indent
  let start : Nat :=
    if increment > 0 then
      if parent ≥ 0 then (parent + increment).toNat else increment
    else 0
  let (indent, breaks) ← blockBreaks parent start (← budget) 0 ""
  let (text, leadingBreak, trailingBreaks) ←
    blockLines literal parent indent (← budget) "" "" breaks false
  let text := if chomping != -1 then text ++ leadingBreak else text
  let text := if chomping == 1 then text ++ trailingBreaks else text
  append (.scalar text (if literal then .literal else .folded))

/-- Read an anchor (`&name`) or alias (`*name`). The name must be followed by a blank,
the end, or one of `?:,]}%@` and the backquote. -/
def anchorOrAlias (isAlias : Bool) : Scan Unit := do
  skip
  let name ← readWhile isNameChar (← budget) ""
  let c ← peek 0
  let ends := isBlankOrEnd c || c.any (fun e => "?:,]\x7d%@\x60".contains e)
  if name.isEmpty || !ends then fail
  append (if isAlias then .alias name else .anchor name)

/-- A tag handle: `!`, `!!` or `!name!`. In a directive a handle other than `!` must end with `!`. -/
def tagHandle (directive : Bool) : Scan String := do
  if (← peek 0) != some '!' then fail
  skip
  let name ← readWhile isNameChar (← budget) ""
  if (← peek 0) == some '!' then
    skip
    return "!" ++ name ++ "!"
  else if directive && !name.isEmpty then fail
  else return "!" ++ name

/-- A character of a tag's URI; `wide` also admits `,`, `[` and `]`. -/
def isUriChar (wide : Bool) (c : Char) : Bool :=
  isNameChar c || ";/?:@&=+$.%!~*'()".contains c || (wide && ",[]".contains c)

/-- The URI characters of a tag; `%` must introduce two hexadecimal digits. -/
def uriChars (wide : Bool) : Nat → String → Scan String
  | 0, acc => pure acc
  | fuel + 1, acc => do
    match ← peek 0 with
    | some c =>
      if isUriChar wide c then
        if c == '%' then
          let _ ← hexAhead 1 2 0
          let percent ← readChar
          let high ← readChar
          let low ← readChar
          uriChars wide fuel (acc ++ percent ++ high ++ low)
        else
          skip
          uriChars wide fuel (acc.push c)
      else pure acc
    | none => pure acc

/-- A tag's URI after `head` (a handle that turned out to be the start of the URI);
it may not be empty. -/
def tagUri (wide : Bool) (head : Option String) : Scan String := do
  let start := match head with
    | some h => h.drop 1 |>.toString
    | none => ""
  let text ← uriChars wide (← budget) start
  let headLength := match head with
    | some h => h.length
    | none => 0
  if headLength == 0 && text.isEmpty then fail
  return text

/-- Read a tag: `!<uri>`, `!handle!suffix`, `!suffix` or the lone `!`. -/
def tag : Scan Unit := do
  let (handle, suffix) ←
    if (← peek 1) == some '<' then do
      skipN 2
      let suffix ← tagUri true none
      if (← peek 0) != some '>' then fail
      skip
      pure ("", suffix)
    else do
      let handle ← tagHandle false
      if handle.length > 1 && handle.endsWith "!" then
        let suffix ← tagUri false none
        pure (handle, suffix)
      else
        let suffix ← tagUri false (some handle)
        if suffix.isEmpty then pure ("", "!") else pure ("!", suffix)
  let c ← peek 0
  if !isBlankOrEnd c then
    if (← get).flowLevel == 0 || c != some ',' then fail
  append (.tag handle suffix)

/-- A version number: one to nine digits. -/
def versionNumber : Scan Nat := do
  let digits ← readWhile Char.isDigit (← budget) ""
  if digits.isEmpty || digits.length > 9 then fail
  return digits.foldl (fun n d => n * 10 + digitValue d) 0

/-- Read a `%YAML` or `%TAG` directive and the rest of its line. -/
def directive : Scan Unit := do
  skip
  let name ← readWhile isNameChar (← budget) ""
  if name.isEmpty || !isBlankOrEnd (← peek 0) then fail
  if name == "YAML" then
    skipBlanks (← budget)
    let major ← versionNumber
    if (← peek 0) != some '.' then fail
    skip
    let minor ← versionNumber
    append (.versionDirective major minor)
  else if name == "TAG" then
    skipBlanks (← budget)
    let handle ← tagHandle true
    if !(← peek 0).any isBlank then fail
    skipBlanks (← budget)
    let prefixText ← tagUri true none
    if !isBlankOrEnd (← peek 0) then fail
    append (.tagDirective handle prefixText)
  else fail
  skipBlanks (← budget)
  if (← peek 0) == some '#' then skipToBreak (← budget)
  if !isBreakOrEnd (← peek 0) then fail
  skipLine

end Scan

end BenchDispatch.Yaml
