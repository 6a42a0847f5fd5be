/-!
# Sets of characters

A set of Unicode scalar values kept as sorted, disjoint, non-adjacent inclusive
ranges of code points, the surrogate block excluded. This canonical form makes
equal sets equal values; union, complement, intersection, difference and
symmetric difference all produce it.
-/

set_option autoImplicit false

namespace BenchDispatch

/-- The largest Unicode scalar value. -/
def maxScalar : Nat := 0x10FFFF

/-- A set of characters as canonical inclusive ranges of code points. -/
structure CharSet where
  ranges : List (Nat × Nat)
  deriving DecidableEq, Repr, Inhabited

namespace CharSet

/-- The empty set. -/
def empty : CharSet := ⟨[]⟩

/-- Whether the set holds the character. -/
def contains (s : CharSet) (c : Char) : Bool :=
  s.ranges.any fun (lo, hi) => lo ≤ c.toNat && c.toNat ≤ hi

/-- Merge sorted ranges that overlap or touch. -/
def mergeSorted : List (Nat × Nat) → List (Nat × Nat)
  | [] => []
  | [r] => [r]
  | (lo₁, hi₁) :: (lo₂, hi₂) :: rest =>
    if lo₂ ≤ hi₁ + 1 then mergeSorted ((lo₁, max hi₁ hi₂) :: rest)
    else (lo₁, hi₁) :: mergeSorted ((lo₂, hi₂) :: rest)

/-- Cut the surrogate block `D800`–`DFFF` out of a range. -/
def withoutSurrogates (r : Nat × Nat) : List (Nat × Nat) :=
  let (lo, hi) := r
  if hi < lo then []
  else if lo ≤ 0xDFFF && 0xD800 ≤ hi then
    (if lo < 0xD800 then [(lo, 0xD7FF)] else []) ++ (if 0xDFFF < hi then [(0xE000, hi)] else [])
  else [r]

/-- The set holding exactly the characters of the given ranges. -/
def ofRanges (rs : List (Nat × Nat)) : CharSet :=
  let sorted := (rs.filter fun (lo, hi) => lo ≤ hi).mergeSort fun a b => a.1 ≤ b.1
  ⟨(mergeSorted sorted).flatMap withoutSurrogates⟩

/-- The set of one character. -/
def single (c : Char) : CharSet := ⟨[(c.toNat, c.toNat)]⟩

/-- The characters from `lo` to `hi`. -/
def range (lo hi : Nat) : CharSet := ofRanges [(lo, hi)]

/-- Every character. -/
def full : CharSet := range 0 maxScalar

/-- Characters of either set. -/
def union (a b : CharSet) : CharSet := ofRanges (a.ranges ++ b.ranges)

/-- The gaps between canonical ranges, from `next` up to the largest scalar. -/
def gaps : Nat → List (Nat × Nat) → List (Nat × Nat)
  | next, [] => if next ≤ maxScalar then [(next, maxScalar)] else []
  | next, (lo, hi) :: rest =>
    (if next < lo then [(next, lo - 1)] else []) ++ gaps (hi + 1) rest

/-- Every character not in the set. -/
def complement (a : CharSet) : CharSet := ofRanges (gaps 0 a.ranges)

/-- Characters of both sets. -/
def intersect (a b : CharSet) : CharSet := (a.complement.union b.complement).complement

/-- Characters of the first set and not the second. -/
def difference (a b : CharSet) : CharSet := a.intersect b.complement

/-- Characters of exactly one of the sets. -/
def symmetricDifference (a b : CharSet) : CharSet := (a.union b).difference (a.intersect b)

/-- Whether the set holds no character. -/
def isEmpty (a : CharSet) : Bool := a.ranges.isEmpty

/-- Whether every character of the set is ASCII. -/
def isAscii (a : CharSet) : Bool := a.ranges.all fun (_, hi) => hi ≤ 0x7F

/-- The one character of a set of one character. -/
def singleton? (a : CharSet) : Option Char :=
  match a.ranges with
  | [(lo, hi)] => if lo == hi then some (Char.ofNat lo) else none
  | _ => none

/-- The union of many sets. -/
def unionAll (sets : List CharSet) : CharSet := ofRanges (sets.flatMap CharSet.ranges)

end CharSet

/-- The value of a base-36 digit (`0`–`9`, `a`–`z`). -/
def base36Digit (c : Char) : Nat :=
  if c.isDigit then c.toNat - '0'.toNat else c.toNat - 'a'.toNat + 10

/-- A number written in base 36. -/
def base36Value (text : String) : Nat :=
  text.foldl (fun n c => n * 36 + base36Digit c) 0

/-- Read a range table: space-separated entries `gap` or `gap.extent` in base 36, where
`gap` counts the code points skipped since the previous range and `extent` is the
range's length less one. -/
def decodeRanges (text : String) : List (Nat × Nat) :=
  let step := fun (acc : Nat × List (Nat × Nat)) (entry : String) =>
    let (next, out) := acc
    match entry.splitOn "." with
    | [gap] => let lo := next + base36Value gap; (lo + 1, (lo, lo) :: out)
    | [gap, extent] =>
      let lo := next + base36Value gap
      let hi := lo + base36Value extent
      (hi + 1, (lo, hi) :: out)
    | _ => acc
  ((text.splitOn " ").foldl step (0, [])).2.reverse

end BenchDispatch
