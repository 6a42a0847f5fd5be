import BenchDispatch.Yaml.Token.Stream
import BenchDispatch.Yaml.Event

/-!
# YAML nodes and documents

A document's events composed into a tree. An alias stands for the node its
anchor named, and the tree shares that node rather than copying it; an alias to
an anchor not yet seen is an error. `Yaml.documents?` reads a whole text into
its documents, and fails if any part of the text is malformed.
-/

set_option autoImplicit false

namespace BenchDispatch.Yaml

/-- A YAML node: a scalar with its style and expanded tag, a sequence, or a mapping
whose entries keep their order (and duplicate keys). -/
inductive Node where
  | scalar (text : String) (style : ScalarStyle) (tag : Option String)
  | sequence (items : List Node)
  | mapping (entries : List (Node × Node))
  deriving Repr, Inhabited

/-- The anchors seen so far, the latest first. -/
abbrev Anchors := List (String × Node)

/-- Record a node under its anchor, if it has one. -/
def Anchors.record (anchors : Anchors) (properties : Properties) (node : Node) : Anchors :=
  match properties.anchor with
  | some name => (name, node) :: anchors
  | none => anchors

mutual

/-- Compose the node whose events start the list; the rest of the list comes back. -/
def Node.compose : Nat → Anchors → List Event → Option (Node × List Event × Anchors)
  | 0, _, _ => none
  | fuel + 1, anchors, events =>
    match events with
    | .alias name :: rest => (anchors.lookup name).map fun node => (node, rest, anchors)
    | .scalar properties text style :: rest =>
      let node := Node.scalar text style properties.tag
      some (node, rest, anchors.record properties node)
    | .sequenceStart properties :: rest => do
      let (items, rest, anchors) ← Node.composeItems fuel anchors rest
      let node := Node.sequence items
      some (node, rest, anchors.record properties node)
    | .mappingStart properties :: rest => do
      let (entries, rest, anchors) ← Node.composeEntries fuel anchors rest
      let node := Node.mapping entries
      some (node, rest, anchors.record properties node)
    | _ => none

/-- Compose sequence items up to the end of the sequence. -/
def Node.composeItems : Nat → Anchors → List Event → Option (List Node × List Event × Anchors)
  | 0, _, _ => none
  | fuel + 1, anchors, events =>
    match events with
    | .sequenceEnd :: rest => some ([], rest, anchors)
    | _ => do
      let (item, rest, anchors) ← Node.compose fuel anchors events
      let (items, rest, anchors) ← Node.composeItems fuel anchors rest
      some (item :: items, rest, anchors)

/-- Compose mapping entries up to the end of the mapping. -/
def Node.composeEntries : Nat → Anchors → List Event →
    Option (List (Node × Node) × List Event × Anchors)
  | 0, _, _ => none
  | fuel + 1, anchors, events =>
    match events with
    | .mappingEnd :: rest => some ([], rest, anchors)
    | _ => do
      let (key, rest, anchors) ← Node.compose fuel anchors events
      let (value, rest, anchors) ← Node.compose fuel anchors rest
      let (entries, rest, anchors) ← Node.composeEntries fuel anchors rest
      some ((key, value) :: entries, rest, anchors)

end

/-- The documents of an event stream; anchors do not reach from one document into the next. -/
def Node.documents : Nat → List Event → Option (List Node)
  | 0, _ => none
  | fuel + 1, events =>
    match events with
    | [.streamEnd] => some []
    | .documentStart :: rest => do
      let (node, rest, _) ← Node.compose rest.length [] rest
      match rest with
      | .documentEnd :: rest => do
        let more ← Node.documents fuel rest
        some (node :: more)
      | _ => none
    | _ => none

/-- The documents of a YAML text, or `none` when any part of it is malformed. -/
def documents? (text : String) : Option (List Node) := do
  let tokens ← Token.scan? text
  let events ← Event.ofTokens? tokens
  match events.toList with
  | .streamStart :: rest => Node.documents rest.length rest
  | _ => none

end BenchDispatch.Yaml
