/-!
# JSON values

The JSON values that records travel as, and their compact text. A number keeps the digits it was
written with, so that a reader can tell an unsigned integer from a written fraction or exponent;
an object keeps its members in written order, repeated names included, so that a reader can
refuse a name given twice.
-/

set_option autoImplicit false

namespace BenchDispatch.Json

/-- A JSON number as written: its sign, the digits before the point, the digits after it (empty
when there is no point) and the exponent, when one is written. -/
structure Number where
  negative : Bool
  whole : List Nat
  fraction : List Nat
  exponent : Option Int
  deriving Repr, DecidableEq, Inhabited

/-- The value of a list of decimal digits, most significant first. -/
def ofDigits (digits : List Nat) : Nat :=
  digits.foldl (fun acc digit => acc * 10 + digit) 0

/-- The decimal digits of a natural number, most significant first; zero has the one digit 0. -/
def decimalDigits (n : Nat) : List Nat :=
  (Nat.toDigits 10 n).map fun c => c.toNat - '0'.toNat

namespace Number

/-- The number written with the decimal digits of `n` and nothing else. -/
def ofNat (n : Nat) : Number :=
  ⟨false, decimalDigits n, [], none⟩

/-- The number written as `-n`. -/
def ofNeg (n : Nat) : Number :=
  ⟨true, decimalDigits n, [], none⟩

/-- The natural number a number denotes when it is written as a plain unsigned integer: no sign,
no point, no exponent. -/
def natural? (n : Number) : Option Nat :=
  if !n.negative && n.fraction.isEmpty && n.exponent.isNone then some (ofDigits n.whole) else none

/-- The digits of an exponent. -/
def exponentText (e : Int) : String :=
  if e < 0 then "-" ++ toString e.natAbs else toString e.natAbs

/-- The number's text: the digits it was written with, a point before the fraction and `e`
before the exponent. -/
def render (n : Number) : String :=
  let digitText (ds : List Nat) : String := String.ofList (ds.map fun d => Char.ofNat (d + '0'.toNat))
  (if n.negative then "-" else "") ++ digitText n.whole
    ++ (if n.fraction.isEmpty then "" else "." ++ digitText n.fraction)
    ++ (match n.exponent with
        | none => ""
        | some e => "e" ++ exponentText e)

end Number

/-- A JSON value. `loneSurrogate` stands for a string that escapes one half of a UTF-16
surrogate pair without the other, or for an object with a member name that does: no Unicode
text holds it, so a reader can only pass over it. -/
inductive Value where
  | null
  | bool (value : Bool)
  | number (value : Number)
  | string (value : String)
  | array (items : List Value)
  | object (members : List (String × Value))
  | loneSurrogate
  deriving Repr, Inhabited

/-- Hex digits are written in lower case. -/
def hexDigit (n : Nat) : Char :=
  if n < 10 then Char.ofNat (n + '0'.toNat) else Char.ofNat (n - 10 + 'a'.toNat)

/-- How one character is written inside a string: a quote and a backslash are escaped, a control
character below U+0020 takes its short escape or `\u00XX`, and every other character stands for
itself. -/
def escapeChar (c : Char) : String :=
  if c = '"' then "\\\""
  else if c = '\\' then "\\\\"
  else if c = '\n' then "\\n"
  else if c = '\r' then "\\r"
  else if c = '\t' then "\\t"
  else if c.toNat = 8 then "\\b"
  else if c.toNat = 12 then "\\f"
  else if c.toNat < 0x20 then
    String.ofList ['\\', 'u', '0', '0', hexDigit (c.toNat / 16), hexDigit (c.toNat % 16)]
  else c.toString

/-- A string's text between quotes. -/
def quote (s : String) : String :=
  s.foldl (fun out c => out ++ escapeChar c) "\"" ++ "\""

mutual

/-- The compact text of a value: no blanks, members in their order. -/
def Value.render : Value → String
  | .null => "null"
  | .bool true => "true"
  | .bool false => "false"
  | .number n => n.render
  | .string s => quote s
  | .array items => "[" ++ renderItems items ++ "]"
  | .object members => "\x7b" ++ renderMembers members ++ "\x7d"
  | .loneSurrogate => "null"

/-- Array items separated by commas. -/
def renderItems : List Value → String
  | [] => ""
  | [item] => item.render
  | item :: rest => item.render ++ "," ++ renderItems rest

/-- Object members separated by commas. -/
def renderMembers : List (String × Value) → String
  | [] => ""
  | [(name, value)] => quote name ++ ":" ++ value.render
  | (name, value) :: rest => quote name ++ ":" ++ value.render ++ "," ++ renderMembers rest

end

namespace Value

/-- The members of an object with the given name, in order. -/
def membersNamed (members : List (String × Value)) (name : String) : List Value :=
  (members.filter fun member => member.1 == name).map Prod.snd

/-- The text of a string value. -/
def string? : Value → Option String
  | .string s => some s
  | _ => none

end Value

end BenchDispatch.Json
