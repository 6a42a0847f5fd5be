import BenchDispatch.Pattern.Hir
import BenchDispatch.Pattern.NamedClass
import BenchDispatch.Pattern.Unicode.Fold

/-!
# From syntax to core form

`Hir.ofAst?` applies the flags of a pattern to its syntax. Flags changed by
`(?flags)` hold to the end of the enclosing group; a group `(?flags:...)`
changes them for its body only. Case-insensitive matching closes every literal
and set under simple case folding (before a class is complemented). With Unicode
mode off, classes are ASCII, and whatever could match a non-ASCII byte (the dot,
a complemented class, a `\x` escape above `7F`) is rejected, as is any Unicode
property class; an unknown property name is rejected too.
-/

set_option autoImplicit false

namespace BenchDispatch.Pattern

/-- The flags in force at a point of a pattern. -/
structure Flags where
  caseInsensitive : Bool := false
  multiLine : Bool := false
  dotMatchesNewLine : Bool := false
  swapGreed : Bool := false
  unicode : Bool := true
  crlf : Bool := false
  deriving DecidableEq, Repr

/-- Apply one flag change. -/
def Flags.change (f : Flags) (c : FlagChange) : Flags :=
  match c.flag with
  | .caseInsensitive => { f with caseInsensitive := c.enabled }
  | .multiLine => { f with multiLine := c.enabled }
  | .dotMatchesNewLine => { f with dotMatchesNewLine := c.enabled }
  | .swapGreed => { f with swapGreed := c.enabled }
  | .unicode => { f with unicode := c.enabled }
  | .crlf => { f with crlf := c.enabled }
  | .ignoreWhitespace => f

/-- Apply a list of flag changes in order. -/
def Flags.applyAll (f : Flags) (changes : List FlagChange) : Flags :=
  changes.foldl Flags.change f

/-- The ASCII letters together with their other case. -/
def asciiFold (s : CharSet) : CharSet :=
  let upper := CharSet.range 0x41 0x5A
  let lower := CharSet.range 0x61 0x7A
  let shift := fun (set : CharSet) (delta : Int) =>
    CharSet.ofRanges (set.ranges.map fun (lo, hi) => ((lo + delta).toNat, (hi + delta).toNat))
  CharSet.unionAll [s, shift (s.intersect upper) 32, shift (s.intersect lower) (-32)]

/-- A step of the conversion: it reads and changes the flags and the number of capture
groups so far, or rejects the pattern. -/
abbrev Lower := StateT (Flags × Nat) (Except Unit)

namespace Lower

/-- Reject the pattern. -/
def fail {α : Type} : Lower α := throw ()

/-- The flags in force. -/
def flags : Lower Flags := do
  return (← get).1

/-- Replace the flags in force. -/
def setFlags (f : Flags) : Lower Unit :=
  modify fun (_, n) => (f, n)

/-- Fold a set under the case-insensitive flag (Unicode or ASCII folding). -/
def fold (s : CharSet) : Lower CharSet := do
  let f ← flags
  if !f.caseInsensitive then return s
  else if f.unicode then return Unicode.foldClose s
  else return asciiFold s

/-- A literal character. -/
def literal (c : Char) : Lower Hir := do
  let f ← flags
  if f.caseInsensitive && (f.unicode || c.toNat < 0x80) then
    return Hir.ofSet (← fold (CharSet.single c))
  else return .literal [c]

/-- A set, complemented when asked; with Unicode off a complement is rejected. -/
def complementIf (negated : Bool) (s : CharSet) : Lower CharSet := do
  if !negated then return s
  if (← flags).unicode then return s.complement
  else fail

/-- A property class, folded then complemented when asked. -/
def property (query : PropertyQuery) (negated : Bool) : Lower CharSet := do
  if !(← flags).unicode then fail
  match query.set? with
  | some (s, complemented) => complementIf (negated != complemented) (← fold s)
  | none => fail

/-- A Perl class; with Unicode off it is ASCII and may not be complemented. -/
def perl (kind : PerlClass) (negated : Bool) : Lower CharSet := do
  if (← flags).unicode then complementIf negated kind.unicodeSet
  else complementIf negated kind.asciiSet

/-- A literal character inside a class; with Unicode off it must be ASCII. -/
def classChar (c : Char) : Lower Unit := do
  if !(← flags).unicode && c.toNat ≥ 0x80 then fail

mutual

/-- The set of a bracketed class's contents. -/
def classSet : ClassSet → Lower CharSet
  | .literal c => do classChar c; fold (CharSet.single c)
  | .range lo hi => do classChar lo; classChar hi; fold (CharSet.range lo.toNat hi.toNat)
  | .ascii kind negated => do complementIf negated (← fold kind.set)
  | .perl kind negated => perl kind negated
  | .property query negated => property query negated
  | .bracketed inner negated => do complementIf negated (← fold (← classSet inner))
  | .union items => do return CharSet.unionAll (← classSets items)
  | .operation kind left right => do
    let a ← fold (← classSet left)
    let b ← fold (← classSet right)
    return match kind with
      | .intersection => a.intersect b
      | .difference => a.difference b
      | .symmetricDifference => a.symmetricDifference b

/-- The sets of a union's items, in order. -/
def classSets : List ClassSet → Lower (List CharSet)
  | [] => pure []
  | item :: rest => do
    let s ← classSet item
    return s :: (← classSets rest)

end

/-- The look of an assertion under the flags in force. -/
def look (kind : Assertion) : Lower Look := do
  let f ← flags
  return match kind with
    | .startLine => if f.multiLine then (if f.crlf then .startCRLF else .startLF) else .start
    | .endLine => if f.multiLine then (if f.crlf then .endCRLF else .endLF) else .finish
    | .startText => .start
    | .endText => .finish
    | .wordBoundary => if f.unicode then .wordUnicode else .wordAscii
    | .notWordBoundary => if f.unicode then .wordUnicodeNegate else .wordAsciiNegate
    | .wordStart => if f.unicode then .wordStartUnicode else .wordStartAscii
    | .wordEnd => if f.unicode then .wordEndUnicode else .wordEndAscii
    | .wordStartHalf => if f.unicode then .wordStartHalfUnicode else .wordStartHalfAscii
    | .wordEndHalf => if f.unicode then .wordEndHalfUnicode else .wordEndHalfAscii

mutual

/-- The core form of a pattern under the flags in force. -/
def ast : Ast → Lower Hir
  | .empty => pure .empty
  | .literal c => literal c
  | .hexByte value => do
    if (← flags).unicode || value < 0x80 then literal (Char.ofNat value) else fail
  | .dot => do
    let f ← flags
    if !f.unicode then fail
    if f.dotMatchesNewLine then return .set CharSet.full
    else if f.crlf then return .set (CharSet.full.difference (CharSet.ofRanges [(0x0A, 0x0A), (0x0D, 0x0D)]))
    else return .set (CharSet.full.difference (CharSet.single '\n'))
  | .assertion kind => do return .look (← look kind)
  | .perl kind negated => do return Hir.ofSet (← perl kind negated)
  | .property query negated => do return Hir.ofSet (← property query negated)
  | .bracketed set negated => do
    let s ← complementIf negated (← fold (← classSet set))
    return Hir.ofSet s
  | .repetition sub min max greedy => do
    let h ← ast sub
    return Hir.repeatOf min max (greedy != (← flags).swapGreed) h
  | .group kind sub => do
    let saved ← flags
    match kind with
    | .capture _ =>
      let (f, n) ← get
      set (f, n + 1)
      let h ← ast sub
      setFlags saved
      return .capture (n + 1) h
    | .plain changes =>
      setFlags (saved.applyAll changes)
      let h ← ast sub
      setFlags saved
      return h
  | .setFlags changes => do
    setFlags ((← flags).applyAll changes)
    return .empty
  | .concat items => do return Hir.concatOf (← astAll items)
  | .alternation items => do return Hir.alternationOf (← astAll items)

/-- The core forms of a list of patterns, in order. -/
def astAll : List Ast → Lower (List Hir)
  | [] => pure []
  | item :: rest => do
    let h ← ast item
    return h :: (← astAll rest)

end

end Lower

/-- The core form of a pattern read with the default flags, or `none` when it uses
something the flags in force reject. -/
def Hir.ofAst? (pattern : Ast) : Option Hir :=
  match (Lower.ast pattern).run' ({}, 0) with
  | .ok h => some h
  | .error _ => none

end BenchDispatch.Pattern
