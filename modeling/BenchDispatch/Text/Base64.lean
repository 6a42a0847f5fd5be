/-!
# Base64

The standard alphabet (`A`–`Z`, `a`–`z`, `0`–`9`, `+`, `/`) with `=` padding. Writing pads every
text to a multiple of four symbols. Reading is strict: padding is required, the bits a final
symbol carries past the last byte must be zero, and nothing outside the alphabet is allowed.

When a text is refused, the reason is the first fault in this order: a final symbol standing
alone that is neither in the alphabet nor `=`; then the first byte outside the alphabet before
the last group of one to four symbols; then, within the last group, a misplaced `=`, a symbol
outside the alphabet, a group of one symbol, padding that does not fill the group, and bits left
over in the final symbol. Offsets count bytes from the start of the text.
-/

set_option autoImplicit false

namespace BenchDispatch.Base64

/-- Why a text is not base64. -/
inductive Error where
  /-- A byte outside the alphabet, or a misplaced `=`, at an offset. -/
  | invalidSymbol (offset : Nat) (byte : UInt8)
  /-- A last group of a single symbol; the length counts through that symbol. -/
  | invalidLength (length : Nat)
  /-- A final symbol whose bits past the last byte are not zero. -/
  | invalidLastSymbol (offset : Nat) (byte : UInt8)
  /-- Padding missing, or more than the last group needs. -/
  | invalidPadding
  deriving Repr, DecidableEq

/-- The reason as the readers of this format word it. -/
def Error.message : Error → String
  | .invalidSymbol offset byte => s!"Invalid symbol {byte}, offset {offset}."
  | .invalidLength length => s!"Invalid input length: {length}"
  | .invalidLastSymbol offset byte => s!"Invalid last symbol {byte}, offset {offset}."
  | .invalidPadding => "Invalid padding"

/-- The padding byte `=`. -/
def padding : UInt8 := 61

/-- The symbol for a six-bit value. -/
def symbol (value : Nat) : Char :=
  if value < 26 then Char.ofNat (value + 65)
  else if value < 52 then Char.ofNat (value - 26 + 97)
  else if value < 62 then Char.ofNat (value - 52 + 48)
  else if value = 62 then '+'
  else '/'

/-- The six-bit value of a symbol of the alphabet. -/
def sextet? (byte : UInt8) : Option Nat :=
  let b := byte.toNat
  if 65 ≤ b ∧ b ≤ 90 then some (b - 65)
  else if 97 ≤ b ∧ b ≤ 122 then some (b - 97 + 26)
  else if 48 ≤ b ∧ b ≤ 57 then some (b - 48 + 52)
  else if b = 43 then some 62
  else if b = 47 then some 63
  else none

/-- The symbols for a list of bytes, three bytes to four symbols, the last group padded. -/
def encodeSymbols : List UInt8 → List Char
  | a :: b :: c :: rest =>
    let a := a.toNat
    let b := b.toNat
    let c := c.toNat
    symbol (a / 4) :: symbol (a % 4 * 16 + b / 16) :: symbol (b % 16 * 4 + c / 64) ::
      symbol (c % 64) :: encodeSymbols rest
  | [a, b] =>
    let a := a.toNat
    let b := b.toNat
    [symbol (a / 4), symbol (a % 4 * 16 + b / 16), symbol (b % 16 * 4), '=']
  | [a] =>
    let a := a.toNat
    [symbol (a / 4), symbol (a % 4 * 16), '=', '=']
  | [] => []

/-- The padded base64 text of a list of bytes. -/
def encode (bytes : List UInt8) : String :=
  String.ofList (encodeSymbols bytes)

/-- The six-bit values of bytes that must all be in the alphabet, or the first that is not. -/
def sextets (offset : Nat) : List UInt8 → Except Error (List Nat)
  | [] => .ok []
  | byte :: rest =>
    match sextet? byte with
    | none => .error (.invalidSymbol offset byte)
    | some value => (sextets (offset + 1) rest).map (value :: ·)

/-- The bytes that groups of four six-bit values spell. -/
def quadBytes : List Nat → List UInt8
  | a :: b :: c :: d :: rest =>
    let n := ((a * 64 + b) * 64 + c) * 64 + d
    (n / 65536).toUInt8 :: (n / 256 % 256).toUInt8 :: (n % 256).toUInt8 :: quadBytes rest
  | _ => []

/-- What the last group of symbols holds: its six-bit values, the number of `=` after them, and
the last symbol read. A `=` among the first two bytes, or a symbol after a `=`, is refused at the
offset of the first `=`. -/
def readLastGroup (start : Nat) :
    Nat → List UInt8 → List Nat → Nat → Nat → UInt8 → Except Error (List Nat × Nat × UInt8)
  | _, [], values, pads, _, last => .ok (values.reverse, pads, last)
  | index, byte :: rest, values, pads, firstPad, last =>
    if byte = padding then
      if index < 2 then .error (.invalidSymbol (start + index) byte)
      else
        readLastGroup start (index + 1) rest values (pads + 1)
          (if pads = 0 then index else firstPad) last
    else if pads > 0 then .error (.invalidSymbol (start + firstPad) padding)
    else
      match sextet? byte with
      | none => .error (.invalidSymbol (start + index) byte)
      | some value => readLastGroup start (index + 1) rest (value :: values) pads firstPad byte

/-- The bytes of the last group: two symbols give one byte, three give two, four give three;
the bits of the final symbol past the last byte must be zero. -/
def lastGroupBytes (start : Nat) (values : List Nat) (last : UInt8) : Except Error (List UInt8) :=
  match values with
  | [a, b] =>
    if b % 16 ≠ 0 then .error (.invalidLastSymbol (start + 1) last)
    else .ok [(a * 4 + b / 16).toUInt8]
  | [a, b, c] =>
    if c % 4 ≠ 0 then .error (.invalidLastSymbol (start + 2) last)
    else .ok [(a * 4 + b / 16).toUInt8, (b % 16 * 16 + c / 4).toUInt8]
  | _ => .ok (quadBytes values)

/-- The bytes a base64 text spells, or the first fault in it (see the module comment). -/
def decode (input : List UInt8) : Except Error (List UInt8) := do
  let length := input.length
  let remainder := length % 4
  if remainder = 1 then
    match input.getLast? with
    | some last =>
      if last ≠ padding ∧ (sextet? last).isNone then throw (.invalidSymbol (length - 1) last)
    | none => pure ()
  let bodyLength := if remainder = 0 then length - 4 else length - remainder
  let body ← sextets 0 (input.take bodyLength)
  let (values, pads, last) ← readLastGroup bodyLength 0 (input.drop bodyLength) [] 0 0 0
  if length > 0 ∧ values.length < 2 then throw (.invalidLength (bodyLength + values.length))
  if (pads + values.length) % 4 ≠ 0 then throw .invalidPadding
  let tail ← lastGroupBytes bodyLength values last
  pure (quadBytes body ++ tail)

end BenchDispatch.Base64
