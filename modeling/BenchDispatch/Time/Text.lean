import BenchDispatch.Text.Space
import BenchDispatch.Time.Instant
/-!
# Timestamps as text

Instants are written in RFC 3339 form in UTC: `YYYY-MM-DDTHH:MM:SS`, a fraction of three, six
or nine digits when the nanoseconds are not zero (the fewest that hold them exactly), and `Z`.
A leap second is written as second 60. Years outside 0000 to 9999 carry a sign.

The reader is lenient in the way of common RFC 3339 readers: white space may precede every
number and the offset, and may follow the text; the date and time are divided by `T`, `t` or a
space; months, days, hours, minutes and seconds take one or two digits; an unsigned year takes
one to four, a signed year any number; a fraction takes at least one digit and keeps the first
nine; the offset is `Z`, `z`, `UTC` in any case, or a sign (`+`, `-` or U+2212) with hours and
minutes, between which colons and white space may stand. Second 60 is a leap second.
-/

set_option autoImplicit false

namespace BenchDispatch.Instant

open BenchDispatch.Text

/-- The value of the ASCII digits at the front of a text: at least one, and no more than `most`
when a bound is given. -/
def readNumeral (most : Option Nat) (cs : List Char) : Option (Nat × List Char) :=
  let digits := cs.takeWhile Char.isDigit
  let digits := match most with
    | some bound => digits.take bound
    | none => digits
  if digits.isEmpty then none
  else some (digits.foldl (fun acc c => acc * 10 + (c.toNat - '0'.toNat)) 0, cs.drop digits.length)

/-- A field of at most two digits after optional white space. -/
def readField (cs : List Char) : Option (Nat × List Char) :=
  readNumeral (some 2) (dropWhiteSpace cs)

/-- A separator character after optional white space. -/
def expectAfterSpace (separator : Char) (cs : List Char) : Option (List Char) :=
  match dropWhiteSpace cs with
  | c :: rest => if c == separator then some rest else none
  | [] => none

/-- The year after optional white space: a sign and any number of digits, or up to four
digits. -/
def readYear (cs : List Char) : Option (Int × List Char) :=
  match dropWhiteSpace cs with
  | '-' :: rest => (readNumeral none rest).map fun (v, after) => (-(v : Int), after)
  | '+' :: rest => (readNumeral none rest).map fun (v, after) => ((v : Int), after)
  | other => (readNumeral (some 4) other).map fun (v, after) => ((v : Int), after)

/-- The nanoseconds of a fraction after its point: one to nine digits scaled to nine places;
digits after the ninth are passed over. -/
def readFraction (cs : List Char) : Option (Nat × List Char) :=
  match readNumeral (some 9) cs with
  | none => none
  | some (value, after) =>
    let used := cs.length - after.length
    some (value * Nat.pow 10 (9 - used), after.dropWhile Char.isDigit)

/-- Two ASCII digits. -/
def twoDigits? : List Char → Option (Nat × Nat × List Char)
  | a :: b :: rest =>
    if a.isDigit && b.isDigit then some (a.toNat - '0'.toNat, b.toNat - '0'.toNat, rest) else none
  | _ => none

/-- The offset from UTC in seconds: `Z`, `z`, `UTC` in any case, or a signed `HH:MM`. -/
def readOffset (cs : List Char) : Option (Int × List Char) :=
  match cs with
  | a :: b :: c :: rest =>
    if a.toLower == 'u' && b.toLower == 't' && c.toLower == 'c' then some (0, rest)
    else readSignedOffset cs
  | _ => readSignedOffset cs
where
  /-- `Z`, `z` or a sign, hours, colons or blanks, minutes. -/
  readSignedOffset (cs : List Char) : Option (Int × List Char) := do
    let (negative, rest) ← match cs with
      | 'Z' :: rest => return (0, rest)
      | 'z' :: rest => return (0, rest)
      | '+' :: rest => some (false, rest)
      | '-' :: rest => some (true, rest)
      | c :: rest => if c.toNat == 0x2212 then some (true, rest) else none
      | [] => none
    let (h1, h2, rest) ← twoDigits? rest
    let rest := rest.dropWhile fun c => c == ':' || isWhiteSpace c
    let (m1, m2, rest) ← twoDigits? rest
    if m1 > 5 then none
    let seconds := (h1 * 10 + h2) * 3600 + (m1 * 10 + m2) * 60
    if seconds ≥ 86400 then none
    pure (if negative then -(seconds : Int) else seconds, rest)

/-- Reads a timestamp; see the module comment for what is accepted. -/
def parse? (text : String) : Option Instant := do
  let cs := text.toList
  let (year, cs) ← readYear cs
  let cs ← expectAfterSpace '-' cs
  let (month, cs) ← readField cs
  let cs ← expectAfterSpace '-' cs
  let (day, cs) ← readField cs
  let cs ← match cs with
    | 'T' :: rest | 't' :: rest | ' ' :: rest => some rest
    | _ => none
  let (hour, cs) ← readField cs
  let cs ← expectAfterSpace ':' cs
  let (minute, cs) ← readField cs
  let cs ← expectAfterSpace ':' cs
  let (second, cs) ← readField cs
  let (nano, cs) ← match cs with
    | '.' :: rest => readFraction rest
    | _ => some (0, cs)
  let (offset, cs) ← readOffset (dropWhiteSpace cs)
  if !(dropWhiteSpace cs).isEmpty then none
  if !(1 ≤ month && month ≤ 12 && 1 ≤ day && day ≤ 31 && hour ≤ 23 && minute ≤ 59 && second ≤ 60)
  then none
  if !(-262144 ≤ year && year ≤ 262143) then none
  let date : CivilDate := ⟨year, month, day⟩
  if !date.isValid then none
  let localSeconds : Int := date.toDays * 86400 + hour * 3600 + minute * 60 + min second 59
  let utc := localSeconds - offset
  let nano := if second = 60 then nano + 1000000000 else nano
  ofParts? (utc / 86400) (utc % 86400).toNat nano

/-- Two digits of a number below 100. -/
def twoDigitText (n : Nat) : String :=
  String.ofList [Char.ofNat (n / 10 + '0'.toNat), Char.ofNat (n % 10 + '0'.toNat)]

/-- A year: four digits from 0000 to 9999, else a sign and at least four digits. -/
def yearText (year : Int) : String :=
  let digits := toString year.natAbs
  let padded := String.ofList (List.replicate (4 - digits.length) '0') ++ digits
  if 0 ≤ year && year ≤ 9999 then padded
  else (if year < 0 then "-" else "+") ++ padded

/-- A fraction of a second: nothing for zero, else three, six or nine digits, the fewest that
hold the nanoseconds exactly. -/
def fractionText (nano : Nat) : String :=
  let nineDigits := toString (nano + 1000000000) |>.drop 1 |>.toString
  if nano = 0 then ""
  else if nano % 1000000 = 0 then "." ++ (nineDigits.take 3).toString
  else if nano % 1000 = 0 then "." ++ (nineDigits.take 6).toString
  else "." ++ nineDigits

/-- The RFC 3339 text of an instant in UTC. -/
def render (t : Instant) : String :=
  let date := t.date
  let leap := t.nano ≥ 1000000000
  let second := t.second % 60 + (if leap then 1 else 0)
  let nano := if leap then t.nano - 1000000000 else t.nano
  yearText date.year ++ "-" ++ twoDigitText date.month ++ "-" ++ twoDigitText date.day ++ "T"
    ++ twoDigitText (t.second / 3600) ++ ":" ++ twoDigitText (t.second / 60 % 60) ++ ":"
    ++ twoDigitText second ++ fractionText nano ++ "Z"

end BenchDispatch.Instant
