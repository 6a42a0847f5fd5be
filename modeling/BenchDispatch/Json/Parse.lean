import BenchDispatch.Json.Value
/-!
# Reading JSON text

A reader for JSON text as records are written: blanks are the four JSON blanks, strings may not
hold raw control characters, numbers follow the JSON grammar (no leading zero, a digit after a
point and after an exponent mark), and nothing but blanks may follow the value. A string that
escapes half of a surrogate pair alone is read as `Value.loneSurrogate`.

A document reader also refuses containers nested 128 deep or deeper, wherever they stand in
the text (`Value.parseNested?`); readers of a fixed shape count only the containers they read
into.

The reader runs on fuel that the text's length bounds: every call consumes at least one
character, so `Value.parse?` gives twice the length and never runs out on a value it can read.
-/

set_option autoImplicit false

namespace BenchDispatch.Json

/-- The four blank characters of JSON. -/
def isBlank (c : Char) : Bool :=
  c == ' ' || c == '\t' || c == '\n' || c == '\r'

/-- The text after leading blanks. -/
def skipBlank (cs : List Char) : List Char :=
  cs.dropWhile isBlank

/-- The value of a hex digit of either case. -/
def hexValue? (c : Char) : Option Nat :=
  if '0' ≤ c ∧ c ≤ '9' then some (c.toNat - '0'.toNat)
  else if 'a' ≤ c ∧ c ≤ 'f' then some (c.toNat - 'a'.toNat + 10)
  else if 'A' ≤ c ∧ c ≤ 'F' then some (c.toNat - 'A'.toNat + 10)
  else none

/-- The UTF-16 code unit written by four hex digits. -/
def codeUnit? (a b c d : Char) : Option Nat := do
  let a ← hexValue? a
  let b ← hexValue? b
  let c ← hexValue? c
  let d ← hexValue? d
  pure (((a * 16 + b) * 16 + c) * 16 + d)

/-- A high surrogate opens a pair. -/
def isHighSurrogate (u : Nat) : Bool := 0xD800 ≤ u && u ≤ 0xDBFF

/-- A low surrogate closes a pair. -/
def isLowSurrogate (u : Nat) : Bool := 0xDC00 ≤ u && u ≤ 0xDFFF

/-- What an escaped UTF-16 code unit adds once it is known that no low surrogate follows it: a
surrogate standing alone adds no character and marks the string as unpaired. -/
def flushUnit (acc : List Char) (paired : Bool) : Option Nat → List Char × Bool
  | none => (acc, paired)
  | some unit =>
    if isHighSurrogate unit || isLowSurrogate unit then (acc, false)
    else (Char.ofNat unit :: acc, paired)

/-- The body of a string after its opening quote, read up to its closing quote: the characters
read so far (last first), whether every escaped surrogate so far had its partner, and the text
after the closing quote. `pending` holds the code unit of a \u escape just read, which joins the
next escape when the two form a surrogate pair. -/
def readString (acc : List Char) (paired : Bool) (pending : Option Nat) :
    List Char → Option (List Char × Bool × List Char)
  | '\\' :: 'u' :: a :: b :: c :: d :: rest =>
    match codeUnit? a b c d, pending with
    | none, _ => none
    | some low, some high =>
      if isHighSurrogate high && isLowSurrogate low then
        readString (Char.ofNat (0x10000 + (high - 0xD800) * 0x400 + (low - 0xDC00)) :: acc)
          paired none rest
      else
        let (acc, paired) := flushUnit acc paired (some high)
        readString acc paired (some low) rest
    | some unit, none => readString acc paired (some unit) rest
  | cs =>
    let (acc, paired) := flushUnit acc paired pending
    match cs with
    | [] => none
    | '"' :: rest => some (acc.reverse, paired, rest)
    | '\\' :: '"' :: rest => readString ('"' :: acc) paired none rest
    | '\\' :: '\\' :: rest => readString ('\\' :: acc) paired none rest
    | '\\' :: '/' :: rest => readString ('/' :: acc) paired none rest
    | '\\' :: 'b' :: rest => readString (Char.ofNat 8 :: acc) paired none rest
    | '\\' :: 'f' :: rest => readString (Char.ofNat 12 :: acc) paired none rest
    | '\\' :: 'n' :: rest => readString ('\n' :: acc) paired none rest
    | '\\' :: 'r' :: rest => readString ('\r' :: acc) paired none rest
    | '\\' :: 't' :: rest => readString ('\t' :: acc) paired none rest
    | '\\' :: _ => none
    | c :: rest => if c.toNat < 0x20 then none else readString (c :: acc) paired none rest
termination_by structural cs => cs

/-- The decimal digits at the front of a text, and the text after them. -/
def readDigits : List Char → List Nat × List Char
  | c :: rest =>
    if c.isDigit then
      let (digits, after) := readDigits rest
      ((c.toNat - '0'.toNat) :: digits, after)
    else ([], c :: rest)
  | [] => ([], [])

/-- The exponent after its mark: an optional sign and at least one digit. -/
def readExponent (cs : List Char) : Option (Int × List Char) :=
  let (negative, body) : Bool × List Char :=
    match cs with
    | '+' :: rest => (false, rest)
    | '-' :: rest => (true, rest)
    | _ => (false, cs)
  match readDigits body with
  | ([], _) => none
  | (digits, rest) =>
    let magnitude : Int := ofDigits digits
    some (if negative then -magnitude else magnitude, rest)

/-- A number: an optional minus, `0` or digits without a leading zero, an optional point with at
least one digit, and an optional exponent. -/
def readNumber (cs : List Char) : Option (Number × List Char) := do
  let (negative, body) : Bool × List Char :=
    match cs with
    | '-' :: rest => (true, rest)
    | _ => (false, cs)
  let (whole, afterWhole) ← match readDigits body with
    | ([], _) => none
    | (0 :: _ :: _, _) => none
    | result => some result
  let (fraction, afterFraction) ← match afterWhole with
    | '.' :: rest =>
      match readDigits rest with
      | ([], _) => none
      | result => some result
    | _ => some ([], afterWhole)
  let (exponent, afterExponent) ← match afterFraction with
    | 'e' :: rest => (readExponent rest).map fun (e, r) => (some e, r)
    | 'E' :: rest => (readExponent rest).map fun (e, r) => (some e, r)
    | _ => some (none, afterFraction)
  pure (⟨negative, whole, fraction, exponent⟩, afterExponent)

mutual

/-- One value after optional blanks, and the text after it. -/
def readValue : Nat → List Char → Option (Value × List Char)
  | 0, _ => none
  | fuel + 1, cs =>
    match skipBlank cs with
    | 'n' :: 'u' :: 'l' :: 'l' :: rest => some (.null, rest)
    | 't' :: 'r' :: 'u' :: 'e' :: rest => some (.bool true, rest)
    | 'f' :: 'a' :: 'l' :: 's' :: 'e' :: rest => some (.bool false, rest)
    | '"' :: rest =>
      (readString [] true none rest).map fun (chars, paired, after) =>
        (if paired then .string (String.ofList chars) else .loneSurrogate, after)
    | '[' :: rest =>
      match skipBlank rest with
      | ']' :: after => some (.array [], after)
      | _ => readItems fuel [] rest
    | '{' :: rest =>
      match skipBlank rest with
      | '}' :: after => some (.object [], after)
      | _ => readMembers fuel [] true rest
    | other => (readNumber other).map fun (n, after) => (.number n, after)

/-- Array items after `[` or a comma, up to the closing `]`; `acc` holds the items read, last
first. -/
def readItems : Nat → List Value → List Char → Option (Value × List Char)
  | 0, _, _ => none
  | fuel + 1, acc, cs =>
    match readValue fuel cs with
    | none => none
    | some (item, rest) =>
      match skipBlank rest with
      | ',' :: after => readItems fuel (item :: acc) after
      | ']' :: after => some (.array (item :: acc).reverse, after)
      | _ => none

/-- Object members after `{` or a comma, up to the closing brace; `paired` records whether every
member name so far holds only whole surrogate pairs. -/
def readMembers : Nat → List (String × Value) → Bool → List Char → Option (Value × List Char)
  | 0, _, _, _ => none
  | fuel + 1, acc, paired, cs =>
    match skipBlank cs with
    | '"' :: rest =>
      match readString [] true none rest with
      | none => none
      | some (name, namePaired, afterName) =>
        match skipBlank afterName with
        | ':' :: afterColon =>
          match readValue fuel afterColon with
          | none => none
          | some (value, rest) =>
            let acc := (String.ofList name, value) :: acc
            let paired := paired && namePaired
            match skipBlank rest with
            | ',' :: after => readMembers fuel acc paired after
            | '}' :: after =>
              some (if paired then .object acc.reverse else .loneSurrogate, after)
            | _ => none
        | _ => none
    | _ => none

end

/-- The value a whole text holds, blanks around it allowed. -/
def Value.parse? (text : String) : Option Value :=
  let cs := text.toList
  match readValue (2 * cs.length + 2) cs with
  | some (value, rest) => if rest.all isBlank then some value else none
  | none => none

/-- Containers nest strictly less deep than this. -/
def nestingLimit : Nat := 128

mutual

/-- How deep containers nest in a value: 0 for a scalar. -/
def Value.depth : Value → Nat
  | .array items => 1 + depthOfItems items
  | .object members => 1 + depthOfMembers members
  | _ => 0

/-- The deepest nesting among array items. -/
def depthOfItems : List Value → Nat
  | [] => 0
  | v :: rest => max v.depth (depthOfItems rest)

/-- The deepest nesting among member values. -/
def depthOfMembers : List (String × Value) → Nat
  | [] => 0
  | (_, v) :: rest => max v.depth (depthOfMembers rest)

end

/-- The value a whole text holds, as a document reader takes it: the text must read as JSON and
its containers must nest less than `nestingLimit` deep, wherever they stand. -/
def Value.parseNested? (text : String) : Option Value := do
  let v ← Value.parse? text
  if v.depth ≥ nestingLimit then none else some v

end BenchDispatch.Json
