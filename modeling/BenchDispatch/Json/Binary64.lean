import BenchDispatch.Json.Value

/-!
# Doubles

The IEEE 754 binary64 numbers a generic JSON reader turns numbers into, computed exactly: a
finite double is a sign and a magnitude `significand * 2 ^ exponent`, and every operation
rounds its exact result to the nearest representable magnitude, ties to even.

Two conversions sit on top. Reading keeps at most the digits that fit a 64-bit integer (later
integer digits only raise the scale, later fraction digits are dropped) and then scales that
integer by a table of rounded powers of ten, rounding once per multiplication or division;
this is not always the double nearest to the written number, and it is what the reader does.
Printing gives the shortest decimal that reads back as the same double, the nearest such one
when there are several, laid out as plain digits when the decimal point falls within sixteen
places and with an exponent otherwise.
-/

set_option autoImplicit false

namespace BenchDispatch.Json

/-- A finite double: its sign and its magnitude `significand * 2 ^ exponent`. A nonzero
magnitude is normal (`2^52 ≤ significand < 2^53`, `-1074 ≤ exponent ≤ 971`) or subnormal
(`significand < 2^52`, `exponent = -1074`); zero has significand 0. -/
structure Binary64 where
  negative : Bool
  significand : Nat
  exponent : Int
  deriving DecidableEq, Repr

namespace Binary64

/-- The smallest exponent of a magnitude. -/
def minExponent : Int := -1074

/-- The largest exponent of a finite magnitude. -/
def maxExponent : Int := 971

/-- `2 ^ e` as a numerator and a denominator. -/
def twoPow (e : Int) : Nat × Nat :=
  if 0 ≤ e then (Nat.pow 2 e.toNat, 1) else (1, Nat.pow 2 (-e).toNat)

/-- `10 ^ e` as a numerator and a denominator. -/
def tenPow (e : Int) : Nat × Nat :=
  if 0 ≤ e then (Nat.pow 10 e.toNat, 1) else (1, Nat.pow 10 (-e).toNat)

/-- `⌊log₂ (num / den)⌋` for positive `num` and `den`: the difference of the bit lengths, or
one less. -/
def floorLog2 (num den : Nat) : Int :=
  let k : Int := (Nat.log2 num : Int) - (Nat.log2 den : Int)
  let (a, b) := twoPow k
  if num * b ≥ den * a then k else k - 1

/-- The magnitude nearest to `num / den`, ties to even; `none` when it is too large for a
finite double. -/
def roundMagnitude (num den : Nat) : Option (Nat × Int) :=
  if num == 0 || den == 0 then some (0, 0)
  else
    let e := max (floorLog2 num den - 52) minExponent
    let (a, b) := twoPow e
    let n := num * b
    let d := den * a
    let q := n / d
    let r := n % d
    let q := if 2 * r > d || (2 * r == d && q % 2 == 1) then q + 1 else q
    let (q, e) := if q == Nat.pow 2 53 then (Nat.pow 2 52, e + 1) else (q, e)
    if e > maxExponent then none else some (q, e)

/-- The double nearest to `± num / den`; `none` when it overflows. -/
def ofRational (negative : Bool) (num den : Nat) : Option Binary64 :=
  (roundMagnitude num den).map fun (s, e) => ⟨negative, s, e⟩

/-- The exact magnitude as a numerator and a denominator. -/
def magnitude (x : Binary64) : Nat × Nat :=
  let (a, b) := twoPow x.exponent
  (x.significand * a, b)

/-- Rounded product; `none` on overflow. -/
def mul (x y : Binary64) : Option Binary64 :=
  let (a, b) := x.magnitude
  let (c, d) := y.magnitude
  ofRational (x.negative != y.negative) (a * c) (b * d)

/-- Rounded quotient by a nonzero double; `none` on overflow. -/
def div (x y : Binary64) : Option Binary64 :=
  let (a, b) := x.magnitude
  let (c, d) := y.magnitude
  ofRational (x.negative != y.negative) (a * d) (b * c)

/-- The double nearest to `10 ^ k`. -/
def powerOfTen (k : Nat) : Binary64 :=
  (ofRational false (Nat.pow 10 k) 1).getD ⟨false, 0, 0⟩

/-- The largest power of ten in the reader's table. -/
def tableLimit : Nat := 308

/-- The largest 64-bit unsigned integer. -/
def wordMax : Nat := Nat.pow 2 64 - 1

/-- The smallest and largest 32-bit signed integers. -/
def intMin : Int := -2147483648

/-- The largest 32-bit signed integer. -/
def intMax : Int := 2147483647

/-- Scale the integer `significand` by `10 ^ exponent` as the reader does: one rounded
multiplication or division by a table power when the exponent is within the table, otherwise
repeated division by `10^308` until it is (or the value is zero); a positive exponent beyond
the table, or an infinite product, is out of range. -/
def fromParts (negative : Bool) (significand : Nat) (exponent : Int) : Option Binary64 :=
  let start := (ofRational false significand 1).getD ⟨false, 0, 0⟩
  let rec scale : Nat → Binary64 → Int → Option Binary64
    | 0, f, _ => some f
    | fuel + 1, f, e =>
      if e.natAbs ≤ tableLimit && e != intMin then
        if 0 ≤ e then mul f (powerOfTen e.toNat)
        else div f (powerOfTen e.natAbs)
      else if f.significand == 0 then some f
      else if 0 ≤ e then none
      else
        match div f (powerOfTen tableLimit) with
        | some f => scale fuel f (e + tableLimit)
        | none => none
  (scale 8 start exponent).map fun f => { f with negative }

/-- Add digits to a 64-bit significand while they fit; also how many digits were left over. -/
def accumulate (significand : Nat) : List Nat → Nat × Nat
  | [] => (significand, 0)
  | d :: rest =>
    if significand * 10 + d > wordMax then (significand, rest.length + 1)
    else accumulate (significand * 10 + d) rest

/-- Clamp to the 32-bit signed range. -/
def saturate (e : Int) : Int := max intMin (min intMax e)

/-- The double the reader makes of a written number with a point or an exponent, or of an
integer too large for a 64-bit word; `none` when it is out of range. -/
def ofWritten (n : Number) : Option Binary64 :=
  -- integer digits beyond the word raise the scale; fraction digits count while they fit
  let (whole, dropped) := accumulate 0 n.whole
  let (significand, left) := accumulate whole n.fraction
  let scale : Int := (dropped : Int) - ((n.fraction.length - left : Nat) : Int)
  match n.exponent with
  | none => fromParts n.negative significand scale
  | some x =>
    if x.natAbs > intMax.toNat then
      if significand != 0 && 0 < x then none else some ⟨n.negative, 0, 0⟩
    else fromParts n.negative significand (saturate (scale + x))

/-- The shortest digits `t` and power `j` with `t * 10 ^ j` reading back as the positive
magnitude `s * 2 ^ e`: the largest `j` for which a multiple of `10 ^ j` lies within the
rounding interval (ends included when `s` is even), and the multiple nearest to the
magnitude, ties to even. -/
def shortest (s : Nat) (e : Int) : Nat × Int :=
  -- the interval in units of 2^(e-2): below by one unit at a power of two, else by two
  let lowGap := if s == Nat.pow 2 52 && e > minExponent then 1 else 2
  let low := 4 * s - lowGap
  let high := 4 * s + 2
  let even := s % 2 == 0
  let (ua, ub) := twoPow (e - 2)
  let (va, vb) := twoPow e
  let inside (t : Nat) (j : Int) : Bool :=
    let (pa, pb) := tenPow j
    let c := t * pa * ub
    let lo := low * ua * pb
    let hi := high * ua * pb
    if even then lo ≤ c && c ≤ hi else lo < c && c < hi
  let pick (j : Int) : Option Nat :=
    let (pa, pb) := tenPow j
    let n := s * va * pb
    let d := vb * pa
    let tf := n / d
    let r := n % d
    if r == 0 then some tf
    else
      let below := tf > 0 && inside tf j
      let above := inside (tf + 1) j
      if below && above then
        if 2 * r < d || (2 * r == d && tf % 2 == 0) then some tf else some (tf + 1)
      else if below then some tf
      else if above then some (tf + 1)
      else none
  -- start above the magnitude's decimal exponent: log10 2 < 0.30103
  let lg := floorLog2 (s * va) vb
  let top : Int :=
    if 0 ≤ lg then ((lg.toNat * 30103) / 100000 : Nat) + 3
    else 3 - ((lg.natAbs * 30103) / 100000 : Nat)
  let rec search : Nat → Int → Nat × Int
    | 0, j => (s, j)
    | fuel + 1, j =>
      match pick j with
      | some t => (t, j)
      | none => search fuel (j - 1)
  search 400 top

/-- The decimal digits of a positive natural number, most significant first. -/
def digitsOf (n : Nat) : List Nat :=
  (Nat.toDigits 10 n).map fun c => c.toNat - '0'.toNat

/-- The shortest text of a double as a JSON number. -/
def toNumber (x : Binary64) : Number :=
  if x.significand == 0 then ⟨x.negative, [0], [0], none⟩
  else
    let (t, j) := shortest x.significand x.exponent
    let ds := digitsOf t
    let length : Int := ds.length
    let kk := length + j
    if 0 ≤ j && kk ≤ 16 then
      ⟨x.negative, ds ++ List.replicate j.toNat 0, [0], none⟩
    else if 0 < kk && kk ≤ 16 then
      ⟨x.negative, ds.take kk.toNat, ds.drop kk.toNat, none⟩
    else if -5 < kk && kk ≤ 0 then
      ⟨x.negative, [0], List.replicate kk.natAbs 0 ++ ds, none⟩
    else
      ⟨x.negative, ds.take 1, ds.drop 1, some (kk - 1)⟩

end Binary64

end BenchDispatch.Json
