import BenchDispatch.Json.Parse
import BenchDispatch.Json.Binary64

/-!
# JSON documents

A JSON text read as a plain document rather than as a record: an object keeps one member per
name, the last one written, and lists its members sorted by name; a non-negative integer below
2^64 and a negative one down to -2^63 stay integers, and every other number becomes a double.
Strings must be whole Unicode text, and containers may nest at most 127 deep.

The compact text of a document is then canonical: the same document always prints the same way.
-/

set_option autoImplicit false

namespace BenchDispatch.Json

namespace Number

/-- The number a document holds for a written number: integers in range keep their digits,
negative zero and everything else go through a double; `none` when the double would be
infinite. -/
def canonical? (n : Number) : Option Number :=
  if n.fraction.isEmpty && n.exponent.isNone then
    let m := ofDigits n.whole
    if m > Binary64.wordMax then (Binary64.ofWritten n).map (·.toNumber)
    else if !n.negative then some (ofNat m)
    else if m == 0 then some ⟨true, [0], [0], none⟩
    else if m ≤ Nat.pow 2 63 then some (ofNeg m)
    else (Binary64.ofRational true m 1).map (·.toNumber)
  else (Binary64.ofWritten n).map (·.toNumber)

end Number

/-- Insert a member into members sorted by name, replacing a member of the same name. -/
def insertMember (member : String × Value) : List (String × Value) → List (String × Value)
  | [] => [member]
  | m :: rest =>
    if member.1 == m.1 then member :: rest
    else if member.1 < m.1 then member :: m :: rest
    else m :: insertMember member rest

mutual

/-- The document a parsed value stands for; `none` for a lone surrogate or a number out of
range. -/
def Value.canonical? : Value → Option Value
  | .number n => n.canonical?.map .number
  | .array items => (canonicalItems items).map .array
  | .object members =>
    (canonicalMembers members).map fun ms => .object (ms.foldl (fun acc m => insertMember m acc) [])
  | .loneSurrogate => none
  | v => some v

/-- The documents of array items. -/
def canonicalItems : List Value → Option (List Value)
  | [] => some []
  | v :: rest => do
    let v ← v.canonical?
    let rest ← canonicalItems rest
    pure (v :: rest)

/-- The documents of member values, in written order. -/
def canonicalMembers : List (String × Value) → Option (List (String × Value))
  | [] => some []
  | (k, v) :: rest => do
    let v ← v.canonical?
    let rest ← canonicalMembers rest
    pure ((k, v) :: rest)

end

/-- Read a JSON text as a document. -/
def Value.document? (text : String) : Option Value :=
  (Value.parseNested? text).bind Value.canonical?

end BenchDispatch.Json
