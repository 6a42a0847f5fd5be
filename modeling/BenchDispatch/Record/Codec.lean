import BenchDispatch.Json.Parse
import BenchDispatch.Time.Text
import BenchDispatch.Record.Basic
/-!
# Records as JSON

Each record is written as a JSON object with its fields in declaration order, optional fields
left out when absent. Reading accepts an object, whose unknown members are passed over and
whose known members may each appear once, or an array of the fields in order, which may stop
early only where the remaining fields are optional. An optional field given as `null` is absent.
Durations are unsigned 64-bit integers written without point or exponent; timestamps are
RFC 3339 text; states are their tags.
-/

set_option autoImplicit false

namespace BenchDispatch

open Json

/-- Reading a record from a JSON value, and writing it as one. -/
class JsonCodec (α : Type) where
  toJson : α → Value
  ofJson? : Value → Option α

namespace JsonCodec

/-- The values given for a record's fields, in the record's order: from an object by name, a
name given twice refused and unknown names passed over, or from an array by position, an array
longer than the record refused. A field not given reads as `none`. -/
def fieldValues? (names : List String) : Value → Option (List (Option Value))
  | .object members => names.mapM fun name =>
    match Value.membersNamed members name with
    | [] => some none
    | [value] => some (some value)
    | _ => none
  | .array items =>
    if items.length ≤ names.length then
      some (items.map some ++ List.replicate (names.length - items.length) none)
    else none
  | _ => none

/-- A field that must be given. -/
def required {α : Type} [JsonCodec α] : Option Value → Option α
  | some value => ofJson? value
  | none => none

/-- A field that may be left out or given as `null`. -/
def omittable {α : Type} [JsonCodec α] : Option Value → Option (Option α)
  | none => some none
  | some .null => some none
  | some value => (ofJson? value).map some

/-- An object of the members that are present, in order. -/
def objectOf (members : List (String × Option Value)) : Value :=
  .object (members.filterMap fun (name, value) => value.map (name, ·))

end JsonCodec

open JsonCodec

instance : JsonCodec String where
  toJson := .string
  ofJson? := Value.string?

instance : JsonCodec BuildState where
  toJson state := .string state.tag
  ofJson? value := value.string?.bind BuildState.ofTag?

instance : JsonCodec Instant where
  toJson t := .string t.render
  ofJson? value := value.string?.bind Instant.parse?

/-- The largest value of an unsigned 64-bit integer, plus one. -/
def wordBound : Nat := 18446744073709551616

instance : JsonCodec UInt64 where
  toJson n := .number (Number.ofNat n.toNat)
  ofJson?
    | .number n => n.natural?.bind fun v => if v < wordBound then some v.toUInt64 else none
    | _ => none

instance {α : Type} [JsonCodec α] : JsonCodec (List α) where
  toJson items := .array (items.map toJson)
  ofJson?
    | .array items => items.mapM ofJson?
    | _ => none

instance : JsonCodec Compression where
  toJson _ := .string "gzip"
  ofJson?
    | .string "gzip" => some .gzip
    | .object [("gzip", .null)] => some .gzip
    | _ => none

instance : JsonCodec TextEncoding where
  toJson _ := .string "base64"
  ofJson?
    | .string "base64" => some .base64
    | .object [("base64", .null)] => some .base64
    | _ => none

instance : JsonCodec PushSummary where
  toJson s := .object [("id", toJson s.id), ("timestamp", toJson s.timestamp),
    ("ref", toJson s.ref), ("before", toJson s.before), ("after", toJson s.after),
    ("repository", toJson s.repository), ("pusher", toJson s.pusher),
    ("sender", toJson s.sender)]
  ofJson? value := do
    let [id, timestamp, ref, before, after, repository, pusher, sender] ←
      fieldValues? ["id", "timestamp", "ref", "before", "after", "repository", "pusher",
        "sender"] value | none
    pure ⟨← required id, ← required timestamp, ← required ref, ← required before,
      ← required after, ← required repository, ← required pusher, ← required sender⟩

instance : JsonCodec BuildRequest where
  toJson r := .object [("id", toJson r.id), ("timestamp", toJson r.timestamp),
    ("source", toJson r.source), ("target", toJson r.target), ("revision", toJson r.revision),
    ("requester", toJson r.requester)]
  ofJson? value := do
    let [id, timestamp, source, target, revision, requester] ←
      fieldValues? ["id", "timestamp", "source", "target", "revision", "requester"] value | none
    pure ⟨← required id, ← required timestamp, ← required source, ← required target,
      ← required revision, ← required requester⟩

instance : JsonCodec BuildStatistics where
  toJson s := .object [("update_source_ms", toJson s.updateSourceMs),
    ("build_ms", toJson s.buildMs), ("benchmark_ms", toJson s.benchmarkMs)]
  ofJson? value := do
    let [updateSource, build, benchmark] ←
      fieldValues? ["update_source_ms", "build_ms", "benchmark_ms"] value | none
    pure ⟨← required updateSource, ← required build, ← required benchmark⟩

instance : JsonCodec BuildDetail where
  toJson d := objectOf [("type", some (toJson d.kind)),
    ("compression", d.compression.map toJson), ("encoding", d.encoding.map toJson),
    ("data", some (toJson d.data))]
  ofJson? value := do
    let [kind, compression, encoding, data] ←
      fieldValues? ["type", "compression", "encoding", "data"] value | none
    pure ⟨← required kind, ← omittable compression, ← omittable encoding, ← required data⟩

instance : JsonCodec BuildResponse where
  toJson r := objectOf [("id", some (toJson r.id)), ("timestamp", some (toJson r.timestamp)),
    ("state", some (toJson r.state)), ("request", some (toJson r.request)),
    ("statistics", r.statistics.map toJson), ("details", r.details.map toJson)]
  ofJson? value := do
    let [id, timestamp, state, request, statistics, details] ←
      fieldValues? ["id", "timestamp", "state", "request", "statistics", "details"] value | none
    pure ⟨← required id, ← required timestamp, ← required state, ← required request,
      ← omittable statistics, ← omittable details⟩

/-- The compact JSON text of a record. -/
def encode {α : Type} [JsonCodec α] (record : α) : String :=
  (toJson record).render

/-- The record a JSON text holds. Members the record passes over are read to their end however
deep they nest, and its own fields nest only a few levels, so no text is refused for its nesting
alone. -/
def decode? {α : Type} [JsonCodec α] (text : String) : Option α :=
  (Value.parse? text).bind ofJson?

end BenchDispatch
