import BenchDispatch.Pattern.CharSet

/-!
# The core form of a pattern

What a pattern means once its flags are applied: literal strings, character
sets, zero-width looks at the text around a position, repetitions, captures,
concatenations and alternations. The smart constructors keep the shapes a
compiled automaton is built from: adjacent literals merge, nested
concatenations and alternations flatten, an alternation of single characters
or of sets becomes one set, and a repetition of something that can only match
the empty string repeats at most once.
-/

set_option autoImplicit false

namespace BenchDispatch.Pattern

/-- A zero-width test of the text around a position. -/
inductive Look where
  | start
  | finish
  | startLF
  | endLF
  | startCRLF
  | endCRLF
  | wordAscii
  | wordAsciiNegate
  | wordUnicode
  | wordUnicodeNegate
  | wordStartAscii
  | wordEndAscii
  | wordStartUnicode
  | wordEndUnicode
  | wordStartHalfAscii
  | wordEndHalfAscii
  | wordStartHalfUnicode
  | wordEndHalfUnicode
  deriving DecidableEq, Repr

/-- A pattern in core form. -/
inductive Hir where
  | empty
  | literal (chars : List Char)
  | set (chars : CharSet)
  | look (look : Look)
  | repetition (min : Nat) (max : Option Nat) (greedy : Bool) (sub : Hir)
  | capture (index : Nat) (sub : Hir)
  | concat (items : List Hir)
  | alternation (items : List Hir)
  deriving Repr, Inhabited

/-- The number of bytes of a character in UTF-8. -/
def utf8Width (c : Char) : Nat :=
  if c.toNat < 0x80 then 1 else if c.toNat < 0x800 then 2 else if c.toNat < 0x10000 then 3 else 4

mutual

/-- Structural equality of core patterns. -/
def Hir.beq : Hir → Hir → Bool
  | .empty, .empty => true
  | .literal a, .literal b => a == b
  | .set a, .set b => a == b
  | .look a, .look b => a == b
  | .repetition m₁ n₁ g₁ s₁, .repetition m₂ n₂ g₂ s₂ => m₁ == m₂ && n₁ == n₂ && g₁ == g₂ && s₁.beq s₂
  | .capture i₁ s₁, .capture i₂ s₂ => i₁ == i₂ && s₁.beq s₂
  | .concat a, .concat b => Hir.beqList a b
  | .alternation a, .alternation b => Hir.beqList a b
  | _, _ => false

/-- Structural equality of lists of core patterns. -/
def Hir.beqList : List Hir → List Hir → Bool
  | [], [] => true
  | a :: as, b :: bs => a.beq b && Hir.beqList as bs
  | _, _ => false

end

instance : BEq Hir := ⟨Hir.beq⟩

mutual

/-- The fewest bytes a match can take, if the pattern can match at all. -/
def Hir.minimumLength : Hir → Option Nat
  | .empty => some 0
  | .literal chars => some (chars.foldl (fun n c => n + utf8Width c) 0)
  | .set chars =>
    match chars.ranges with
    | (lo, _) :: _ => some (utf8Width (Char.ofNat lo))
    | [] => none
  | .look _ => some 0
  | .repetition min _ _ sub => sub.minimumLength.map (· * min)
  | .capture _ sub => sub.minimumLength
  | .concat items => Hir.minimumLengthSum items
  | .alternation items => Hir.minimumLengthMin items

/-- The fewest bytes of a concatenation. -/
def Hir.minimumLengthSum : List Hir → Option Nat
  | [] => some 0
  | item :: rest => do
    let a ← item.minimumLength
    let b ← Hir.minimumLengthSum rest
    some (a + b)

/-- The fewest bytes of an alternation. -/
def Hir.minimumLengthMin : List Hir → Option Nat
  | [] => none
  | [item] => item.minimumLength
  | item :: rest => do
    let a ← item.minimumLength
    let b ← Hir.minimumLengthMin rest
    some (min a b)

end

mutual

/-- The most bytes a match can take: `none` when unbounded. -/
def Hir.maximumLength : Hir → Option Nat
  | .empty => some 0
  | .literal chars => some (chars.foldl (fun n c => n + utf8Width c) 0)
  | .set chars =>
    match chars.ranges.getLast? with
    | some (_, hi) => some (utf8Width (Char.ofNat hi))
    | none => none
  | .look _ => some 0
  | .repetition _ max _ sub =>
    match sub.maximumLength, max with
    | some 0, _ => some 0
    | some n, some m => some (n * m)
    | _, _ => none
  | .capture _ sub => sub.maximumLength
  | .concat items => Hir.maximumLengthSum items
  | .alternation items => Hir.maximumLengthMax items

/-- The most bytes of a concatenation. -/
def Hir.maximumLengthSum : List Hir → Option Nat
  | [] => some 0
  | item :: rest => do
    let a ← item.maximumLength
    let b ← Hir.maximumLengthSum rest
    some (a + b)

/-- The most bytes of an alternation. -/
def Hir.maximumLengthMax : List Hir → Option Nat
  | [] => none
  | [item] => item.maximumLength
  | item :: rest => do
    let a ← item.maximumLength
    let b ← Hir.maximumLengthMax rest
    some (max a b)

end

namespace Hir

/-- A set as a pattern: an empty set never matches, a set of one character is that literal. -/
def ofSet (chars : CharSet) : Hir :=
  match chars.singleton? with
  | some c => .literal [c]
  | none => .set chars

/-- Concatenate, flattening nested concatenations, merging adjacent literals and dropping
empty patterns. -/
def concatOf (items : List Hir) : Hir :=
  let flat := items.flatMap fun item =>
    match item with
    | .concat inner => inner
    | .empty => []
    | other => [other]
  let merged := flat.foldr (fun item acc =>
    match item, acc with
    | .literal a, .literal b :: rest => .literal (a ++ b) :: rest
    | _, _ => item :: acc) []
  match merged with
  | [] => .empty
  | [one] => one
  | many => .concat many

/-- The character of a one-character literal. -/
def singleChar? : Hir → Option Char
  | .literal [c] => some c
  | _ => none

/-- The set of a set pattern. -/
def setOf? : Hir → Option CharSet
  | .set chars => some chars
  | _ => none

/-- The items of a concatenation. -/
def concatItems? : Hir → Option (List Hir)
  | .concat items => some items
  | _ => none

/-- The longest common prefix of two lists of patterns. -/
def commonPrefix : List Hir → List Hir → List Hir
  | a :: as, b :: bs => if a == b then a :: commonPrefix as bs else []
  | _, _ => []

/-- Flatten nested alternations. -/
def flattenAlternatives (items : List Hir) : List Hir :=
  items.flatMap fun item =>
    match item with
    | .alternation inner => inner
    | other => [other]

/-- Alternate without taking out common parts: single characters or sets become one set. -/
def alternationOfPlain (items : List Hir) : Hir :=
  match flattenAlternatives items with
  | [] => .set CharSet.empty
  | [one] => one
  | flat =>
    match flat.mapM singleChar? with
    | some chars => ofSet (CharSet.ofRanges (chars.map fun c => (c.toNat, c.toNat)))
    | none =>
      match flat.mapM setOf? with
      | some sets => ofSet (CharSet.unionAll sets)
      | none => .alternation flat

/-- Alternate, flattening nested alternations; single characters or sets become one set,
and a common leading part of concatenations is taken out. -/
def alternationOf (items : List Hir) : Hir :=
  match alternationOfPlain items with
  | .alternation flat =>
    match flat.mapM concatItems? with
    | some (head :: others) =>
      let shared := others.foldl commonPrefix head
      if shared.isEmpty then .alternation flat
      else
        let suffixes := (head :: others).map fun items => concatOf (items.drop shared.length)
        concatOf (shared ++ [alternationOfPlain suffixes])
    | _ => .alternation flat
  | other => other

/-- Repeat between `min` and `max` times. What can only match the empty string repeats at
most once; `{0}` is the empty pattern and `{1}` the pattern itself. -/
def repeatOf (min : Nat) (max : Option Nat) (greedy : Bool) (sub : Hir) : Hir :=
  let (min, max) :=
    if sub.maximumLength == some 0 then (Nat.min min 1, some (match max with | some m => Nat.min m 1 | none => 1))
    else (min, max)
  if min == 0 && max == some 0 then .empty
  else if min == 1 && max == some 1 then sub
  else .repetition min max greedy sub

end Hir

end BenchDispatch.Pattern
