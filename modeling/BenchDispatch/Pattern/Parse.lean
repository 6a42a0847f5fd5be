import BenchDispatch.Pattern.Syntax
import BenchDispatch.Pattern.Unicode.Category
import BenchDispatch.Pattern.Unicode.Property
import BenchDispatch.Text.Space

/-!
# Reading a pattern

`Ast.parse?` reads a pattern into its syntax tree, or rejects it. It is rejected
for an unbalanced parenthesis, a repetition with nothing to repeat (also right
after a flag group), a malformed or reversed counted repetition, look-around,
backreferences (`\1`) and unknown escapes (`\k<x>`), a reversed class range, a
malformed group name or flag list, an unclosed class, and nesting deeper than 250.
Under the `x` flag blanks are skipped and `#` starts a comment to the end of the line.
-/

set_option autoImplicit false

namespace BenchDispatch.Pattern

/-- An open group or alternation while reading. -/
inductive Frame where
  | group (outer : List Ast) (kind : GroupKind) (ignoreWhitespace : Bool)
  | alternation (branches : List Ast)

/-- An open bracket or pending set operation while reading a class. -/
inductive ClassFrame where
  | openBracket (parent : List ClassSet) (negated : Bool)
  | operation (kind : SetOperation) (left : ClassSet)

/-- The state of a reading: the text, the position, whether blanks are skipped, the open
groups, the number of capture groups and their names. Item lists are kept newest first. -/
structure Reader where
  chars : Array Char
  pos : Nat
  ignoreWhitespace : Bool
  frames : List Frame
  classFrames : List ClassFrame
  captures : Nat
  names : List String

/-- A reading step; a failure rejects the pattern. -/
abbrev Read := StateT Reader (Except Unit)

/-- What an escape or a single character stands for. `byte` marks a two-digit `\x` escape. -/
inductive Primitive where
  | literal (c : Char) (byte : Bool)
  | assertion (kind : Assertion)
  | dot
  | perl (kind : PerlClass) (negated : Bool)
  | property (query : PropertyQuery) (negated : Bool)

/-- The alphabetic characters. -/
def alphabeticSet : CharSet := Unicode.propertySet "Alphabetic"

/-- The alphabetic and numeric characters. -/
def alphanumericSet : CharSet := alphabeticSet.union (Unicode.categorySet "N")

/-- The characters that need no escape to be special: `\.+*?()|[]{}^$#&-~`. -/
def isMetaCharacter (c : Char) : Bool :=
  "\\.+*?()|[]\x7b\x7d^$#&-~".contains c

/-- The characters whose escape stands for themselves: the special ones, and ASCII
punctuation other than `<` and `>`. -/
def isEscapeable (c : Char) : Bool :=
  isMetaCharacter c || (c.toNat < 0x80 && !c.isAlphanum && c != '<' && c != '>')

/-- A character of a group name; the first must be `_` or alphabetic. -/
def isCaptureChar (c : Char) (first : Bool) : Bool :=
  if first then c == '_' || alphabeticSet.contains c
  else c == '_' || c == '.' || c == '[' || c == ']' || alphanumericSet.contains c

/-- The ASCII class of a name such as `alpha`. -/
def AsciiClass.ofName? : String → Option AsciiClass
  | "alnum" => some .alnum
  | "alpha" => some .alpha
  | "ascii" => some .ascii
  | "blank" => some .blank
  | "cntrl" => some .cntrl
  | "digit" => some .digit
  | "graph" => some .graph
  | "lower" => some .lower
  | "print" => some .print
  | "punct" => some .punct
  | "space" => some .space
  | "upper" => some .upper
  | "word" => some .word
  | "xdigit" => some .xdigit
  | _ => none

namespace Read

/-- Reject the pattern. -/
def fail {α : Type} : Read α := throw ()

/-- The current character, if any. -/
def current : Read (Option Char) := do
  let s ← get
  return s.chars[s.pos]?

/-- The character after the current one. -/
def peek : Read (Option Char) := do
  let s ← get
  return s.chars[s.pos + 1]?

/-- Whether the text is used up. -/
def atEnd : Read Bool := do
  return (← current).isNone

/-- Move past the current character; whether a character follows. -/
def bump : Read Bool := do
  let s ← get
  if s.pos < s.chars.size then
    set { s with pos := s.pos + 1 }
    return s.pos + 1 < s.chars.size
  else return false

/-- Move past `text` if it comes next. -/
def bumpIf (text : String) : Read Bool := do
  let s ← get
  let wanted := text.toList
  if (s.chars.extract s.pos (s.pos + wanted.length)).toList == wanted then
    set { s with pos := s.pos + wanted.length }
    return true
  else return false

/-- Move to the end of a comment line (past its line feed). -/
def skipComment : Nat → Read Unit
  | 0 => pure ()
  | fuel + 1 => do
    match ← current with
    | some c =>
      let _ ← bump
      if c != '\n' then skipComment fuel
    | none => pure ()

/-- Under the `x` flag, skip blanks and comments. -/
def bumpSpace : Nat → Read Unit
  | 0 => pure ()
  | fuel + 1 => do
    if (← get).ignoreWhitespace then
      match ← current with
      | some c =>
        if Text.isWhiteSpace c then
          let _ ← bump
          bumpSpace fuel
        else if c == '#' then
          let _ ← bump
          skipComment (← get).chars.size
          bumpSpace fuel
      | none => pure ()

/-- A loop bound: the length of the text, plus one. -/
def budget : Read Nat := do
  return (← get).chars.size + 1

/-- Move past the current character and any skipped blanks; whether a character follows. -/
def bumpAndBumpSpace : Read Bool := do
  if !(← bump) then return false
  bumpSpace (← budget)
  return !(← atEnd)

/-- The next character after the current one, skipping blanks and comments under `x`. -/
def peekSpace : Read (Option Char) := do
  let s ← get
  if !s.ignoreWhitespace then peek
  else
    let rest := (s.chars.extract (s.pos + 1) s.chars.size).toList
    let rec scan : List Char → Bool → Option Char
      | [], _ => none
      | c :: more, inComment =>
        if Text.isWhiteSpace c then scan more inComment
        else if !inComment && c == '#' then scan more true
        else if inComment && c == '\n' then scan more false
        else some c
    return scan rest false

/-- A decimal number, blanks around it allowed; at most `2^32 - 1`. -/
def decimal : Read Nat := do
  let rec skipBlanks : Nat → Read Unit
    | 0 => pure ()
    | fuel + 1 => do
      match ← current with
      | some c => if Text.isWhiteSpace c then do let _ ← bumpAndBumpSpace; skipBlanks fuel else pure ()
      | none => pure ()
  let rec digits : Nat → List Char → Read (List Char)
    | 0, acc => pure acc
    | fuel + 1, acc => do
      match ← current with
      | some c => if c.isDigit then do let _ ← bumpAndBumpSpace; digits fuel (c :: acc) else pure acc
      | none => pure acc
  -- Leading blanks are skipped one character at a time, without comments.
  let rec leading : Nat → Read Unit
    | 0 => pure ()
    | fuel + 1 => do
      match ← current with
      | some c => if Text.isWhiteSpace c then do let _ ← bump; leading fuel else pure ()
      | none => pure ()
  leading (← budget)
  let ds ← digits (← budget) []
  skipBlanks (← budget)
  if ds.isEmpty then fail
  let value := ds.reverse.foldl (fun n d => n * 10 + (d.toNat - '0'.toNat)) 0
  if value ≥ Nat.pow 2 32 then fail
  return value

/-- The value of a hexadecimal digit. -/
def hexValue (c : Char) : Option Nat :=
  if '0' ≤ c && c ≤ '9' then some (c.toNat - '0'.toNat)
  else if 'a' ≤ c && c ≤ 'f' then some (c.toNat - 'a'.toNat + 10)
  else if 'A' ≤ c && c ≤ 'F' then some (c.toNat - 'A'.toNat + 10)
  else none

/-- The character of a code point, unless it is a surrogate or too large. -/
def scalar? (n : Nat) : Option Char :=
  if n ≤ 0xD7FF || (0xE000 ≤ n && n ≤ maxScalar) then some (Char.ofNat n) else none

/-- Exactly `count` hexadecimal digits (the first is current). -/
def hexDigits : Nat → Nat → Nat → Read Nat
  | 0, _, value => pure value
  | count + 1, index, value => do
    if index > 0 then
      if !(← bumpAndBumpSpace) then fail
    match (← current).bind hexValue with
    | some d => hexDigits count (index + 1) (value * 16 + d)
    | none => fail

/-- Hexadecimal digits up to `}`, at least one. -/
def hexBrace : Nat → List Nat → Read (List Nat)
  | 0, _ => fail
  | fuel + 1, acc => do
    if (← bumpAndBumpSpace) && (← current) != some '}' then
      match (← current).bind hexValue with
      | some d => hexBrace fuel (d :: acc)
      | none => fail
    else pure acc.reverse

/-- `\x`, `\u` or `\U`: a fixed number of hexadecimal digits (2, 4 or 8) or any number in braces. -/
def hexEscape : Read Primitive := do
  let kind ← current
  let width := if kind == some 'x' then 2 else if kind == some 'u' then 4 else 8
  if !(← bumpAndBumpSpace) then fail
  if (← current) == some '{' then
    let ds ← hexBrace (← budget) []
    if ← atEnd then fail
    let _ ← bumpAndBumpSpace
    if ds.isEmpty then fail
    let value := ds.foldl (fun n d => n * 16 + d) 0
    if value ≥ Nat.pow 2 32 then fail
    match scalar? value with
    | some c => return .literal c false
    | none => fail
  else
    let value ← hexDigits width 0 0
    let _ ← bumpAndBumpSpace
    match scalar? value with
    | some c => return .literal c (width == 2)
    | none => fail

/-- `\p` or `\P`: a one-letter class, or a name (or `name=value`, `name:value`,
`name!=value`) in braces. -/
def propertyEscape : Read Primitive := do
  let negated := (← current) == some 'P'
  if !(← bumpAndBumpSpace) then fail
  if (← current) == some '{' then
    let rec name : Nat → List Char → Read (List Char)
      | 0, acc => pure acc.reverse
      | fuel + 1, acc => do
        if (← bumpAndBumpSpace) && (← current) != some '}' then
          match ← current with
          | some c => name fuel (c :: acc)
          | none => pure acc.reverse
        else pure acc.reverse
    let text := String.ofList (← name (← budget) [])
    if ← atEnd then fail
    let _ ← bump
    match text.splitOn "!=" with
    | n :: v :: rest => return .property (.byValue true n (String.intercalate "!=" (v :: rest))) negated
    | _ =>
      match text.splitOn ":" with
      | n :: v :: rest => return .property (.byValue false n (String.intercalate ":" (v :: rest))) negated
      | _ =>
        match text.splitOn "=" with
        | n :: v :: rest => return .property (.byValue false n (String.intercalate "=" (v :: rest))) negated
        | _ => return .property (.named text) negated
  else
    match ← current with
    | some '\\' => fail
    | some c =>
      let _ ← bumpAndBumpSpace
      return .property (.oneLetter c) negated
    | none => fail

/-- After `\b`, a brace may name a special word boundary: `start`, `end`, `start-half` or
`end-half`. A brace followed by anything else is left for a counted repetition. -/
def specialWordBoundary : Read (Option Assertion) := do
  let start := (← get).pos
  if !(← bumpAndBumpSpace) then fail
  let isNameChar := fun (c : Char) => ('A' ≤ c && c ≤ 'Z') || ('a' ≤ c && c ≤ 'z') || c == '-'
  match ← current with
  | some c =>
    if !isNameChar c then
      modify fun s => { s with pos := start }
      return none
  | none => fail
  let rec name : Nat → List Char → Read (List Char)
    | 0, acc => pure acc.reverse
    | fuel + 1, acc => do
      match ← current with
      | some c => if isNameChar c then do let _ ← bumpAndBumpSpace; name fuel (c :: acc) else pure acc.reverse
      | none => pure acc.reverse
  let text := String.ofList (← name (← budget) [])
  if (← current) != some '}' then fail
  let _ ← bump
  match text with
  | "start" => return some .wordStart
  | "end" => return some .wordEnd
  | "start-half" => return some .wordStartHalf
  | "end-half" => return some .wordEndHalf
  | _ => fail

/-- An escape sequence, at its backslash. -/
def escape : Read Primitive := do
  if !(← bump) then fail
  let some c ← current | fail
  if c.isDigit then fail
  if c == 'x' || c == 'u' || c == 'U' then return ← hexEscape
  if c == 'p' || c == 'P' then return ← propertyEscape
  if "dswDSW".contains c then
    let _ ← bump
    let kind : PerlClass := if c == 'd' || c == 'D' then .digit else if c == 's' || c == 'S' then .space else .word
    return .perl kind c.isUpper
  let _ ← bump
  if isEscapeable c then return .literal c false
  match c with
  | 'a' => return .literal '\x07' false
  | 'f' => return .literal '\x0c' false
  | 't' => return .literal '\t' false
  | 'n' => return .literal '\n' false
  | 'r' => return .literal '\r' false
  | 'v' => return .literal '\x0b' false
  | 'A' => return .assertion .startText
  | 'z' => return .assertion .endText
  | 'b' =>
    if (← current) == some '{' then
      match ← specialWordBoundary with
      | some kind => return .assertion kind
      | none => return .assertion .wordBoundary
    else return .assertion .wordBoundary
  | 'B' => return .assertion .notWordBoundary
  | '<' => return .assertion .wordStart
  | '>' => return .assertion .wordEnd
  | _ => fail

/-- A primitive outside a class: an escape, `.`, `^`, `$` or a literal character. -/
def primitive : Read Ast := do
  match ← current with
  | some '\\' =>
    match ← escape with
    | .literal c byte => return if byte then .hexByte c.toNat else .literal c
    | .assertion kind => return .assertion kind
    | .dot => return .dot
    | .perl kind negated => return .perl kind negated
    | .property query negated => return .property query negated
  | some '.' => let _ ← bump; return .dot
  | some '^' => let _ ← bump; return .assertion .startLine
  | some '$' => let _ ← bump; return .assertion .endLine
  | some c => let _ ← bump; return .literal c
  | none => fail

/-- A flag letter. -/
def flag : Read Flag := do
  match ← current with
  | some 'i' => return .caseInsensitive
  | some 'm' => return .multiLine
  | some 's' => return .dotMatchesNewLine
  | some 'U' => return .swapGreed
  | some 'u' => return .unicode
  | some 'R' => return .crlf
  | some 'x' => return .ignoreWhitespace
  | _ => fail

/-- The flag letters of a group, up to `:` or `)`: each flag at most once, at most one
`-` (which switches the flags after it off), and no `-` at the end. -/
def flags : Nat → List FlagChange → Bool → Bool → Read (List FlagChange)
  | 0, _, _, _ => fail
  | fuel + 1, items, negating, lastWasNegation => do
    match ← current with
    | some ':' | some ')' =>
      if lastWasNegation then fail
      return items.reverse
    | some '-' =>
      if negating then fail
      if !(← bump) then fail
      flags fuel items true true
    | some _ =>
      let f ← flag
      if items.any (·.flag == f) then fail
      if !(← bump) then fail
      flags fuel ({ flag := f, enabled := !negating } :: items) negating false
    | none => fail

/-- A group name up to `>`: not empty, a valid name, not used before. -/
def captureName : Read String := do
  if ← atEnd then fail
  let start := (← get).pos
  let rec go : Nat → Read Unit
    | 0 => pure ()
    | fuel + 1 => do
      match ← current with
      | some '>' => pure ()
      | some c =>
        if !isCaptureChar c ((← get).pos == start) then fail
        if ← bump then go fuel
      | none => pure ()
  go (← budget)
  if ← atEnd then fail
  let s ← get
  let name := String.ofList (s.chars.extract start s.pos).toList
  let _ ← bump
  if name.isEmpty || s.names.contains name then fail
  modify fun s => { s with names := name :: s.names }
  return name

/-- What follows `(`: a flag change (left) or the kind of a group (right). -/
def groupOpening : Read (List FlagChange ⊕ GroupKind) := do
  let _ ← bump
  bumpSpace (← budget)
  if (← bumpIf "?=") || (← bumpIf "?!") || (← bumpIf "?<=") || (← bumpIf "?<!") then fail
  if (← bumpIf "?P<") || (← bumpIf "?<") then
    modify fun s => { s with captures := s.captures + 1 }
    let name ← captureName
    return .inr (.capture (some name))
  else if ← bumpIf "?" then
    if ← atEnd then fail
    let items ← flags (← budget) [] false false
    let closing ← current
    let _ ← bump
    if closing == some ')' then
      if items.isEmpty then fail
      return .inl items
    else return .inr (.plain items)
  else
    modify fun s => { s with captures := s.captures + 1 }
    return .inr (.capture none)

/-- The value a flag list gives to `x`, if it mentions it. -/
def ignoreWhitespaceIn (items : List FlagChange) : Option Bool :=
  (items.find? (·.flag == .ignoreWhitespace)).map (·.enabled)

/-- Open a group (or apply a flag change) at `(`. -/
def openGroup (concat : List Ast) : Read (List Ast) := do
  match ← groupOpening with
  | .inl items =>
    if let some v := ignoreWhitespaceIn items then
      modify fun s => { s with ignoreWhitespace := v }
    return .setFlags items :: concat
  | .inr kind =>
    let s ← get
    let inner := match kind with
      | .plain items => (ignoreWhitespaceIn items).getD s.ignoreWhitespace
      | .capture _ => s.ignoreWhitespace
    set { s with frames := .group concat kind s.ignoreWhitespace :: s.frames, ignoreWhitespace := inner }
    return []

/-- Close a group at `)`; there must be one open. -/
def closeGroup (concat : List Ast) : Read (List Ast) := do
  let s ← get
  let (outer, kind, ignore, branches, rest) ←
    match s.frames with
    | .group outer kind ignore :: rest => pure (outer, kind, ignore, none, rest)
    | .alternation branches :: .group outer kind ignore :: rest =>
      pure (outer, kind, ignore, some branches, rest)
    | _ => fail
  set { s with frames := rest, ignoreWhitespace := ignore }
  let _ ← bump
  let last := Ast.ofConcat concat.reverse
  let inner := match branches with
    | none => last
    | some bs => .alternation (bs.reverse ++ [last])
  return .group kind inner :: outer

/-- Start a new branch at `|`. -/
def alternate (concat : List Ast) : Read (List Ast) := do
  let branch := Ast.ofConcat concat.reverse
  modify fun s =>
    match s.frames with
    | .alternation branches :: rest => { s with frames := .alternation (branch :: branches) :: rest }
    | frames => { s with frames := .alternation [branch] :: frames }
  let _ ← bump
  return []

/-- The last item of a concatenation, which a repetition applies to: there must be one,
and not a flag change. -/
def repeated (concat : List Ast) : Read (Ast × List Ast) := do
  match concat with
  | [] => fail
  | .setFlags _ :: _ => fail
  | .empty :: _ => fail
  | last :: rest => return (last, rest)

/-- `?`, `*` or `+`, perhaps followed by `?` for a lazy repetition. -/
def uncountedRepetition (concat : List Ast) (min : Nat) (max : Option Nat) : Read (List Ast) := do
  let (last, rest) ← repeated concat
  let lazy ← do
    if (← bump) && (← current) == some '?' then
      let _ ← bump
      pure true
    else pure false
  return .repetition last min max (!lazy) :: rest

/-- `{n}`, `{n,}` or `{n,m}` with `n ≤ m`, perhaps followed by `?`. -/
def countedRepetition (concat : List Ast) : Read (List Ast) := do
  let (last, rest) ← repeated concat
  if !(← bumpAndBumpSpace) then fail
  let low ← decimal
  if ← atEnd then fail
  let high ←
    if (← current) == some ',' then do
      if !(← bumpAndBumpSpace) then fail
      if (← current) != some '}' then pure (some (some (← decimal)))
      else pure (some none)
    else pure none
  if (← current) != some '}' then fail
  let lazy ← do
    if (← bumpAndBumpSpace) && (← current) == some '?' then
      let _ ← bump
      pure true
    else pure false
  let (min, max) := match high with
    | none => (low, some low)
    | some none => (low, none)
    | some (some h) => (low, some h)
  if let some m := max then
    if min > m then fail
  return .repetition last min max (!lazy) :: rest

/-- The item of a class set that a union of items stands for. -/
def unionItem : List ClassSet → ClassSet
  | [item] => item
  | items => .union items.reverse

/-- Apply a pending set operation to its right operand, if one is pending. -/
def finishOperation (right : ClassSet) : Read ClassSet := do
  let s ← get
  match s.classFrames with
  | .operation kind left :: rest =>
    set { s with classFrames := rest }
    return .operation kind left right
  | _ => return right

/-- Skip to the next `:` (or the end). -/
def toColon : Nat → Read Unit
  | 0 => pure ()
  | fuel + 1 => do
    if (← current) != some ':' then
      if ← bump then toColon fuel

/-- A named ASCII class `[:name:]` or `[:^name:]`; otherwise nothing is consumed. -/
def asciiClass : Read (Option ClassSet) := do
  let start := (← get).pos
  let found ← do
    if !(← bump) || (← current) != some ':' then pure none
    else if !(← bump) then pure none
    else
      let negated ← do
        if (← current) == some '^' then
          if ← bump then pure (some true) else pure none
        else pure (some false)
      match negated with
      | none => pure none
      | some negated =>
        let nameStart := (← get).pos
        toColon (← budget)
        if ← atEnd then pure none
        else
          let s ← get
          let name := String.ofList (s.chars.extract nameStart s.pos).toList
          if !(← bumpIf ":]") then pure none
          else pure ((AsciiClass.ofName? name).map fun kind => ClassSet.ascii kind negated)
  if found.isNone then modify fun s => { s with pos := start }
  return found

/-- Leading `-` characters of a class, which stand for themselves. -/
def leadingDashes : Nat → List ClassSet → Read (List ClassSet)
  | 0, items => pure items
  | fuel + 1, items => do
    if (← current) == some '-' then
      if !(← bumpAndBumpSpace) then fail
      leadingDashes fuel (.literal '-' :: items)
    else pure items

/-- The opening of a bracketed class: `[`, an optional `^`, then any `-` and a first `]`,
which stand for themselves. -/
def classOpening : Read (Bool × List ClassSet) := do
  if !(← bumpAndBumpSpace) then fail
  let negated ← do
    if (← current) == some '^' then
      if !(← bumpAndBumpSpace) then fail
      pure true
    else pure false
  let items ← leadingDashes (← budget) []
  if items.isEmpty && (← current) == some ']' then
    if !(← bumpAndBumpSpace) then fail
    return (negated, [.literal ']'])
  return (negated, items)

/-- One item inside a class: an escape or a literal character. -/
def classPrimitive : Read Primitive := do
  match ← current with
  | some '\\' => escape
  | some c => let _ ← bump; return .literal c false
  | none => fail

/-- A class item from a primitive: assertions and the dot are not allowed in a class. -/
def classItem : Primitive → Read ClassSet
  | .literal c _ => pure (.literal c)
  | .perl kind negated => pure (.perl kind negated)
  | .property query negated => pure (.property query negated)
  | _ => fail

/-- A class item or a range `a-z` (a `-` before `]` or `-` is not a range). -/
def classRange : Read ClassSet := do
  let first ← classPrimitive
  bumpSpace (← budget)
  if ← atEnd then fail
  let next ← peekSpace
  if (← current) != some '-' || next == some ']' || next == some '-' then
    return ← classItem first
  if !(← bumpAndBumpSpace) then fail
  let second ← classPrimitive
  match first, second with
  | .literal lo _, .literal hi _ =>
    if hi < lo then fail
    return .range lo hi
  | _, _ => fail

/-- A bracketed class, at its `[`: its contents and whether it is negated. -/
def bracketedClass : Nat → List ClassSet → Read (ClassSet × Bool)
  | 0, _ => fail
  | fuel + 1, union => do
    bumpSpace (← budget)
    match ← current with
    | none => fail
    | some '[' =>
      let nested := !(← get).classFrames.isEmpty
      let ascii ← if nested then asciiClass else pure none
      match ascii with
      | some item => bracketedClass fuel (item :: union)
      | none =>
        let (negated, items) ← classOpening
        modify fun s => { s with classFrames := .openBracket union negated :: s.classFrames }
        bracketedClass fuel items
    | some ']' =>
      let inner ← finishOperation (unionItem union)
      let s ← get
      match s.classFrames with
      | .openBracket parent negated :: rest =>
        set { s with classFrames := rest }
        let _ ← bump
        if rest.isEmpty then return (inner, negated)
        else bracketedClass fuel (.bracketed inner negated :: parent)
      | _ => fail
    | some c =>
      let next ← peek
      let operation : Option SetOperation :=
        if c == '&' && next == some '&' then some .intersection
        else if c == '-' && next == some '-' then some .difference
        else if c == '~' && next == some '~' then some .symmetricDifference
        else none
      match operation with
      | some kind =>
        let _ ← bump
        let _ ← bump
        let left ← finishOperation (unionItem union)
        modify fun s => { s with classFrames := .operation kind left :: s.classFrames }
        bracketedClass fuel []
      | none =>
        let item ← classRange
        bracketedClass fuel (item :: union)

/-- The items of the pattern up to its end. -/
def items : Nat → List Ast → Read (List Ast)
  | 0, _ => fail
  | fuel + 1, concat => do
    bumpSpace (← budget)
    match ← current with
    | none => pure concat
    | some '(' => items fuel (← openGroup concat)
    | some ')' => items fuel (← closeGroup concat)
    | some '|' => items fuel (← alternate concat)
    | some '[' =>
      modify fun s => { s with classFrames := [] }
      let (set, negated) ← bracketedClass (← budget) []
      items fuel (.bracketed set negated :: concat)
    | some '?' => items fuel (← uncountedRepetition concat 0 (some 1))
    | some '*' => items fuel (← uncountedRepetition concat 0 none)
    | some '+' => items fuel (← uncountedRepetition concat 1 none)
    | some '{' => items fuel (← countedRepetition concat)
    | some _ => items fuel ((← primitive) :: concat)

/-- The whole pattern: every group must be closed. -/
def pattern : Read Ast := do
  let concat ← items ((← budget) + 1) []
  let last := Ast.ofConcat concat.reverse
  match (← get).frames with
  | [] => return last
  | [.alternation branches] => return .alternation (branches.reverse ++ [last])
  | _ => fail

end Read

mutual

/-- How deeply a class set nests. -/
def ClassSet.depth : ClassSet → Nat
  | .bracketed inner _ => inner.depth + 1
  | .union items => ClassSet.depthOfList items + 1
  | .operation _ left right => max left.depth right.depth + 1
  | _ => 0

/-- The deepest nesting among class sets. -/
def ClassSet.depthOfList : List ClassSet → Nat
  | [] => 0
  | item :: rest => max item.depth (ClassSet.depthOfList rest)

end

mutual

/-- How deeply a pattern nests: groups, repetitions, classes, concatenations and
alternations each add a level. -/
def Ast.depth : Ast → Nat
  | .bracketed set _ => set.depth + 1
  | .repetition sub _ _ _ => sub.depth + 1
  | .group _ sub => sub.depth + 1
  | .concat items => Ast.depthOfList items + 1
  | .alternation items => Ast.depthOfList items + 1
  | _ => 0

/-- The deepest nesting among patterns. -/
def Ast.depthOfList : List Ast → Nat
  | [] => 0
  | item :: rest => max item.depth (Ast.depthOfList rest)

end

/-- The deepest nesting a pattern may have. -/
def nestLimit : Nat := 250

/-- Read a pattern, or `none` when it is not a valid pattern. -/
def Ast.parse? (text : String) : Option Ast :=
  let start : Reader :=
    { chars := text.toList.toArray, pos := 0, ignoreWhitespace := false, frames := [],
      classFrames := [], captures := 0, names := [] }
  match Read.pattern.run' start with
  | .ok ast => if ast.depth ≤ nestLimit then some ast else none
  | .error _ => none

end BenchDispatch.Pattern
