import BenchDispatch.Pattern.Syntax
import BenchDispatch.Pattern.Unicode.Category
import BenchDispatch.Pattern.Unicode.Script
import BenchDispatch.Pattern.Unicode.ScriptExtension
import BenchDispatch.Pattern.Unicode.Property

/-!
# Named classes

The sets behind class names: the Perl classes in their Unicode meaning (`\d` the
decimal digits, `\s` white space, `\w` letters, marks, decimal digits, connector
punctuation and joiners) and in their ASCII meaning, the bracket classes such as
`[:alpha:]`, and Unicode property queries. A property name matches loosely:
case, spaces, underscores, hyphens and a leading `is` do not count, and a name is
tried as a binary property, then a general category, then a script.
-/

set_option autoImplicit false

namespace BenchDispatch.Pattern

open Unicode

/-- The decimal digits. -/
def unicodeDigits : CharSet := categorySet "Nd"

/-- The white-space characters. -/
def unicodeSpaces : CharSet := propertySet "White_Space"

/-- The word characters: alphabetic characters, marks, decimal digits, connector punctuation
and the joiners. -/
def unicodeWordChars : CharSet :=
  CharSet.unionAll [propertySet "Alphabetic", categorySet "M", categorySet "Nd",
    categorySet "Pc", propertySet "Join_Control"]

/-- The ASCII word characters `[0-9A-Za-z_]`. -/
def asciiWordChars : CharSet := CharSet.ofRanges [(0x30, 0x39), (0x41, 0x5A), (0x5F, 0x5F), (0x61, 0x7A)]

/-- The set of a Perl class in Unicode mode. -/
def PerlClass.unicodeSet : PerlClass → CharSet
  | .digit => unicodeDigits
  | .space => unicodeSpaces
  | .word => unicodeWordChars

/-- The ranges of a named ASCII class. -/
def AsciiClass.ranges : AsciiClass → List (Nat × Nat)
  | .alnum => [(0x30, 0x39), (0x41, 0x5A), (0x61, 0x7A)]
  | .alpha => [(0x41, 0x5A), (0x61, 0x7A)]
  | .ascii => [(0x00, 0x7F)]
  | .blank => [(0x09, 0x09), (0x20, 0x20)]
  | .cntrl => [(0x00, 0x1F), (0x7F, 0x7F)]
  | .digit => [(0x30, 0x39)]
  | .graph => [(0x21, 0x7E)]
  | .lower => [(0x61, 0x7A)]
  | .print => [(0x20, 0x7E)]
  | .punct => [(0x21, 0x2F), (0x3A, 0x40), (0x5B, 0x60), (0x7B, 0x7E)]
  | .space => [(0x09, 0x0D), (0x20, 0x20)]
  | .upper => [(0x41, 0x5A)]
  | .word => [(0x30, 0x39), (0x41, 0x5A), (0x5F, 0x5F), (0x61, 0x7A)]
  | .xdigit => [(0x30, 0x39), (0x41, 0x46), (0x61, 0x66)]

/-- The set of a named ASCII class. -/
def AsciiClass.set (kind : AsciiClass) : CharSet := CharSet.ofRanges kind.ranges

/-- The set of a Perl class in ASCII mode. -/
def PerlClass.asciiSet : PerlClass → CharSet
  | .digit => AsciiClass.digit.set
  | .space => AsciiClass.space.set
  | .word => AsciiClass.word.set

/-- A property name in loose form: a leading `is` dropped, ASCII letters lowered, spaces,
underscores, hyphens and non-ASCII characters removed (`isc` stays itself). -/
def normaliseName (name : String) : String :=
  let chars := name.toList
  let startsWithIs := match chars with
    | a :: b :: _ => (a == 'i' || a == 'I') && (b == 's' || b == 'S')
    | _ => false
  let body := if startsWithIs then chars.drop 2 else chars
  let kept := body.filterMap fun c =>
    if c == ' ' || c == '_' || c == '-' then none
    else if 'A' ≤ c && c ≤ 'Z' then some (Char.ofNat (c.toNat + 32))
    else if c.toNat ≤ 0x7F then some c
    else none
  if startsWithIs && kept == ['c'] then "isc" else String.ofList kept

/-- The set of a general category value in loose form, including `any`, `assigned` and `ascii`. -/
def categoryValueSet? (normalised : String) : Option CharSet :=
  if normalised == "any" then some CharSet.full
  else if normalised == "assigned" then some (categorySet "Cn").complement
  else if normalised == "ascii" then some (CharSet.range 0 0x7F)
  else (categoryOfAlias? normalised).map categorySet

/-- The set of a property named alone: a binary property (unless the name is `cf`, `sc` or
`lc`, which mean categories), a general category, or a script. -/
def namedPropertySet? (name : String) : Option CharSet :=
  let n := normaliseName name
  let binary := if n == "cf" || n == "sc" || n == "lc" then none else propertyOfAlias? n
  match binary with
  | some p => some (propertySet p)
  | none =>
    match categoryValueSet? n with
    | some s => some s
    | none => (scriptOfAlias? n).map scriptSet

/-- The set of `name=value`: a general category, a script or a script extension. -/
def propertyValueSet? (name value : String) : Option CharSet :=
  let n := normaliseName name
  let v := normaliseName value
  if n == "gc" || n == "generalcategory" then categoryValueSet? v
  else if n == "sc" || n == "script" then (scriptOfAlias? v).map scriptSet
  else if n == "scx" || n == "scriptextensions" then (scriptOfAlias? v).map scriptExtensionSet
  else none

/-- The set a property query names, and whether the query itself asks for the complement. -/
def PropertyQuery.set? : PropertyQuery → Option (CharSet × Bool)
  | .oneLetter c => (namedPropertySet? c.toString).map (·, false)
  | .named name => (namedPropertySet? name).map (·, false)
  | .byValue negated name value => (propertyValueSet? name value).map (·, negated)

end BenchDispatch.Pattern
