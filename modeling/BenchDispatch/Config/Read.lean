import BenchDispatch.Config.Basic
import BenchDispatch.Yaml.Node

/-!
# Reading a configuration from YAML

A configuration file holds one YAML document: a mapping from field names to
values, or nothing (an empty document or a null gives the defaults). Unknown
keys are ignored and a known key may appear once. Strings take any scalar's
text; booleans are `true` or `false` (also capitalised or all upper case);
counts are unsigned integers below `2^64`, in decimal, `0x` hexadecimal, `0o`
octal or `0b` binary, without leading zeros; the pattern list is a sequence of
scalars (an empty value is the empty list). Only plain scalars are booleans or
numbers.
-/

set_option autoImplicit false

namespace BenchDispatch

open Yaml

/-- The tag of core-schema booleans. -/
def boolTag : String := "tag:yaml.org,2002:bool"

/-- The tag of core-schema integers. -/
def intTag : String := "tag:yaml.org,2002:int"

/-- The scalars that mean null. -/
def isNullText (text : String) : Bool :=
  text == "" || text == "~" || text == "null" || text == "Null" || text == "NULL"

/-- A boolean scalar's value. -/
def boolOfText? (text : String) : Option Bool :=
  if text == "true" || text == "True" || text == "TRUE" then some true
  else if text == "false" || text == "False" || text == "FALSE" then some false
  else none

/-- The digits of a number in a radix, without a sign; at least one. -/
def digitsInRadix? (radix : Nat) (text : String) : Option Nat :=
  let digit := fun (c : Char) =>
    if c.isDigit then some (c.toNat - '0'.toNat)
    else if 'a' ≤ c && c ≤ 'z' then some (c.toNat - 'a'.toNat + 10)
    else if 'A' ≤ c && c ≤ 'Z' then some (c.toNat - 'A'.toNat + 10)
    else none
  if text.isEmpty then none
  else text.toList.foldlM (fun n c => do
    let d ← digit c
    if d < radix then some (n * radix + d) else none) 0

/-- A number in a radix with an optional `+` (as integer readers accept it). -/
def unsignedInRadix? (radix : Nat) (text : String) : Option Nat :=
  digitsInRadix? radix (if text.startsWith "+" && text.length > 1 then text.drop 1 |>.toString else text)

/-- Leading zeros followed by more digits: such a scalar is a string, not a number. -/
def hasLeadingZero (text : String) : Bool :=
  let body := if text.startsWith "-" || text.startsWith "+" then (text.drop 1).toString else text
  body.length > 1 && body.startsWith "0" && body.toList.all Char.isDigit

/-- An unsigned integer scalar below `2^64`: an optional `+`, then `0x`, `0o` or `0b`
digits, or decimal digits without leading zeros. -/
def unsignedOfText? (text : String) : Option Nat :=
  let body := if text.startsWith "+" then (text.drop 1).toString else text
  let signed := fun (rest : String) => rest.startsWith "+" || rest.startsWith "-"
  let radixed := [("0x", 16), ("0o", 8), ("0b", 2)].findSome? fun (pfx, radix) =>
    if body.startsWith pfx then
      let rest := (body.drop 2).toString
      if signed rest then some none else (unsignedInRadix? radix rest).map some
    else none
  let value := match radixed with
    | some v => v
    | none =>
      if signed body || hasLeadingZero text then none else unsignedInRadix? 10 body
  value.bind fun n => if n < Nat.pow 2 64 then some n else none

/-- Whether a scalar is a negative integer that equals zero (`-0`, `-0x0`, ...), which an
unsigned count accepts as 0. -/
def isNegativeZero (text : String) : Bool :=
  let radixed := [("-0x", 16), ("-0o", 8), ("-0b", 2)].findSome? fun (pfx, radix) =>
    if text.startsWith pfx then
      let rest := (text.drop 3).toString
      if rest.startsWith "+" || rest.startsWith "-" then none else digitsInRadix? radix rest
    else none
  match radixed with
  | some v => v == 0
  | none =>
    text.startsWith "-" && !hasLeadingZero text && digitsInRadix? 10 (text.drop 1).toString == some 0

/-- A scalar read as a boolean. -/
def Yaml.Node.bool? : Node → Option Bool
  | .scalar text style tag =>
    match tag with
    | some t =>
      if t == boolTag then boolOfText? text
      else if t.startsWith "!" && style == .plain then boolOfText? text
      else none
    | none => if style == .plain then boolOfText? text else none
  | _ => none

/-- A scalar read as an unsigned count. -/
def Yaml.Node.count? : Node → Option Nat
  | .scalar text style tag =>
    let read := fun (t : String) =>
      match unsignedOfText? t with
      | some n => some n
      | none => if isNegativeZero t then some 0 else none
    match tag with
    | some t =>
      if t == intTag then read text
      else if t.startsWith "!" && style == .plain then read text
      else none
    | none => if style == .plain then read text else none
  | _ => none

/-- A scalar read as a string: its text, whatever its style. -/
def Yaml.Node.text? : Node → Option String
  | .scalar text _ _ => some text
  | _ => none

/-- A sequence of scalars read as strings; an empty plain scalar is the empty list. -/
def Yaml.Node.strings? : Node → Option (List String)
  | .sequence items => items.mapM Yaml.Node.text?
  | .scalar "" .plain _ => some []
  | _ => none

/-- Read one known field into the configuration. -/
def OrchestratorConfig.setField (c : OrchestratorConfig) (field : String) (value : Node) :
    Option OrchestratorConfig :=
  match field with
  | "event_queue" => value.text?.map fun v => { c with eventQueue := v }
  | "result_queue" => value.text?.map fun v => { c with resultQueue := v }
  | "work_queue" => value.text?.map fun v => { c with workQueue := v }
  | "output_queue" => value.text?.map fun v => { c with outputQueue := v }
  | "target_patterns" => value.strings?.map fun v => { c with targetPatterns := v }
  | "admit_all" => value.bool?.map fun v => { c with admitAll := v }
  | "handler_concurrency" => value.count?.map fun v => { c with handlerConcurrency := v }
  | _ => some c

/-- The names of the configuration's fields. -/
def OrchestratorConfig.fieldNames : List String :=
  ["event_queue", "result_queue", "work_queue", "output_queue", "target_patterns", "admit_all",
   "handler_concurrency"]

/-- Read the entries of the top mapping: keys must be scalars and known keys appear once. -/
def OrchestratorConfig.readEntries (c : OrchestratorConfig) (seen : List String) :
    List (Node × Node) → Option OrchestratorConfig
  | [] => some c
  | (key, value) :: rest => do
    let field ← key.text?
    if OrchestratorConfig.fieldNames.contains field then
      if seen.contains field then none
      else
        let c ← c.setField field value
        c.readEntries (field :: seen) rest
    else c.readEntries seen rest

/-- The configuration of a document's root node. -/
def OrchestratorConfig.ofNode? : Node → Option OrchestratorConfig
  | .mapping entries => ({} : OrchestratorConfig).readEntries [] entries
  | .scalar text .plain _ => if isNullText text then some {} else none
  | _ => none

/-- Read a configuration from YAML text: no document gives the defaults, more than one is
an error. -/
def OrchestratorConfig.ofYaml (text : String) : Except ConfigError OrchestratorConfig :=
  match Yaml.documents? text with
  | some [] => pure {}
  | some [root] =>
    match OrchestratorConfig.ofNode? root with
    | some c => pure c
    | none => throw .yaml
  | _ => throw .yaml

end BenchDispatch
