import BenchDispatch.Json.Document
import BenchDispatch.Broker.Hub
import BenchDispatch.Text.Space

/-!
# Replay files

A replay file holds one `{"queue": ..., "payload": ...}` object per line (or the two-element
array `[queue, payload]`); blank lines are skipped. A payload string is published as it is, any
other payload as its canonical JSON text. The same shape, with the payload read back as JSON
when it is JSON, is how `run` prints every message it takes off an outbound queue.
-/

set_option autoImplicit false

namespace BenchDispatch.Cli

open Json Broker

/-- One line of a replay file. -/
structure ReplayLine where
  queue : String
  payload : Value
  deriving Repr

namespace ReplayLine

/-- The line of a queue and a payload read from inside the line's container: the payload is a
document, and with that container its containers nest less than `nestingLimit` deep. -/
def ofParts? (queue : String) (payload : Value) : Option ReplayLine :=
  if payload.depth + 1 < nestingLimit then payload.canonical?.map fun payload => ⟨queue, payload⟩
  else none

/-- The line a JSON value stands for: unknown members are passed over however deep they nest,
`queue` must be a string, `payload` any JSON, each given once. -/
def ofValue? : Value → Option ReplayLine
  | .object members =>
    match Value.membersNamed members "queue", Value.membersNamed members "payload" with
    | [.string queue], [payload] => ofParts? queue payload
    | _, _ => none
  | .array [.string queue, payload] => ofParts? queue payload
  | _ => none

/-- Read one line of text. -/
def parse? (text : String) : Option ReplayLine :=
  (Value.parse? text).bind ofValue?

/-- The message a line publishes: a string payload as it is, anything else as JSON text. -/
def message (line : ReplayLine) : Message :=
  match line.payload with
  | .string text => .text text
  | other => .text other.render

end ReplayLine

/-- The lines of a text: split at line feeds, a carriage return before one dropped, and no
empty line after a final line feed (so an empty text has no lines). -/
def textLines (text : String) : List String :=
  if text.isEmpty then [] else
  let pieces := text.splitOn "\n"
  let pieces := if text.endsWith "\n" then pieces.dropLast else pieces
  pieces.map fun piece => if piece.endsWith "\r" then (piece.dropEnd 1).toString else piece

/-- Why a replay file cannot be used: the line number and what is wrong. -/
inductive ReplayError where
  | invalidLine (line : Nat)
  | emptyQueue (line : Nat)
  deriving DecidableEq, Repr

/-- Read the lines of a replay file, numbering lines from 1 and skipping blank ones. -/
def readReplay (content : String) : Except ReplayError (List ReplayLine) :=
  let rec go : Nat → List String → Except ReplayError (List ReplayLine)
    | _, [] => .ok []
    | n, raw :: rest =>
      let trimmed := String.ofList (Text.trimWhiteSpace raw)
      if trimmed.isEmpty then go (n + 1) rest
      else
        match ReplayLine.parse? trimmed with
        | none => .error (.invalidLine n)
        | some line =>
          if (Text.trimWhiteSpace line.queue).isEmpty then .error (.emptyQueue n)
          else (go (n + 1) rest).map (line :: ·)
  go 1 (textLines content)

/-- How `run` prints a message taken off a queue: the payload is the text read as JSON, or the
text as a JSON string when it is not JSON; bytes print as an array of numbers. -/
def outputLine (queue : String) (message : Message) : String :=
  let payload : Value := match message with
    | .text body => (Value.document? body).getD (.string body)
    | .binary bytes => .array (bytes.map fun b => .number (Number.ofNat b.toNat))
  "\x7b\"queue\":" ++ quote queue ++ ",\"payload\":" ++ payload.render ++ "\x7d"

end BenchDispatch.Cli
