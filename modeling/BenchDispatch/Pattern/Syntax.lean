/-!
# Pattern syntax

The abstract syntax of a target pattern, as written: literals, the dot,
anchors and word boundaries, Perl classes (`\d`, `\s`, `\w`), Unicode property
classes (`\p{..}`), bracketed classes with nested classes and set operations,
repetitions, groups, flag changes, concatenation and alternation.
-/

set_option autoImplicit false

namespace BenchDispatch.Pattern

/-- A matching flag that `(?flags)` can switch. -/
inductive Flag where
  | caseInsensitive
  | multiLine
  | dotMatchesNewLine
  | swapGreed
  | unicode
  | crlf
  | ignoreWhitespace
  deriving DecidableEq, Repr

/-- One item of a flag group: a flag, switched on or (after `-`) off. -/
structure FlagChange where
  flag : Flag
  enabled : Bool
  deriving DecidableEq, Repr

/-- A zero-width assertion. -/
inductive Assertion where
  | startLine
  | endLine
  | startText
  | endText
  | wordBoundary
  | notWordBoundary
  | wordStart
  | wordEnd
  | wordStartHalf
  | wordEndHalf
  deriving DecidableEq, Repr

/-- A Perl class: `\d`, `\s` or `\w`. -/
inductive PerlClass where
  | digit
  | space
  | word
  deriving DecidableEq, Repr

/-- A named ASCII class such as `[:alpha:]`. -/
inductive AsciiClass where
  | alnum
  | alpha
  | ascii
  | blank
  | cntrl
  | digit
  | graph
  | lower
  | print
  | punct
  | space
  | upper
  | word
  | xdigit
  deriving DecidableEq, Repr

/-- A Unicode property query: `\pL`, `\p{Name}`, or `\p{name=value}` (with `!=`, the
complement). -/
inductive PropertyQuery where
  | oneLetter (c : Char)
  | named (name : String)
  | byValue (negated : Bool) (name value : String)
  deriving DecidableEq, Repr

/-- A set operation between bracketed class items: `&&`, `--` or `~~`. -/
inductive SetOperation where
  | intersection
  | difference
  | symmetricDifference
  deriving DecidableEq, Repr

/-- The contents of a bracketed class. -/
inductive ClassSet where
  | literal (c : Char)
  | range (low high : Char)
  | ascii (kind : AsciiClass) (negated : Bool)
  | perl (kind : PerlClass) (negated : Bool)
  | property (query : PropertyQuery) (negated : Bool)
  | bracketed (inner : ClassSet) (negated : Bool)
  | union (items : List ClassSet)
  | operation (kind : SetOperation) (left right : ClassSet)
  deriving Repr, Inhabited

/-- What kind of group: capturing (perhaps named), or not capturing with flag changes. -/
inductive GroupKind where
  | capture (name : Option String)
  | plain (flags : List FlagChange)
  deriving DecidableEq, Repr

/-- A pattern as written. `hexByte` is a two-digit `\x` escape: the character of that code
point, or the byte itself when Unicode mode is off. -/
inductive Ast where
  | empty
  | literal (c : Char)
  | hexByte (value : Nat)
  | dot
  | assertion (kind : Assertion)
  | perl (kind : PerlClass) (negated : Bool)
  | property (query : PropertyQuery) (negated : Bool)
  | bracketed (set : ClassSet) (negated : Bool)
  | repetition (sub : Ast) (min : Nat) (max : Option Nat) (greedy : Bool)
  | group (kind : GroupKind) (sub : Ast)
  | setFlags (flags : List FlagChange)
  | concat (items : List Ast)
  | alternation (items : List Ast)
  deriving Repr, Inhabited

/-- The pattern of a concatenation's items: nothing, the one item, or the concatenation. -/
def Ast.ofConcat : List Ast → Ast
  | [] => .empty
  | [item] => item
  | items => .concat items

end BenchDispatch.Pattern
