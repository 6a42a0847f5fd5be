import BenchDispatch.Yaml.Token

/-!
# YAML events

The grammar of a YAML stream over its tokens. `Event.ofTokens?` walks the
tokens with a stack of what is expected next and emits one event per node
start, end or scalar; omitted keys and values become empty plain scalars. A
tag's handle is expanded with the document's `%TAG` directives, and an
unknown handle is an error.
-/

set_option autoImplicit false

namespace BenchDispatch.Yaml

/-- The anchor and the expanded tag written before a node. -/
structure Properties where
  anchor : Option String := none
  tag : Option String := none
  deriving DecidableEq, Repr

/-- One event of a YAML stream. -/
inductive Event where
  | streamStart
  | streamEnd
  | documentStart
  | documentEnd
  | alias (name : String)
  | scalar (properties : Properties) (text : String) (style : ScalarStyle)
  | sequenceStart (properties : Properties)
  | sequenceEnd
  | mappingStart (properties : Properties)
  | mappingEnd
  deriving DecidableEq, Repr

/-- What the grammar expects next. -/
inductive Expectation where
  | streamStart
  | implicitDocumentStart
  | documentStart
  | documentContent
  | documentEnd
  | blockNode
  | blockNodeOrIndentlessSequence
  | flowNode
  | blockSequenceFirstEntry
  | blockSequenceEntry
  | indentlessSequenceEntry
  | blockMappingFirstKey
  | blockMappingKey
  | blockMappingValue
  | flowSequenceFirstEntry
  | flowSequenceEntry
  | flowSequenceEntryMappingKey
  | flowSequenceEntryMappingValue
  | flowSequenceEntryMappingEnd
  | flowMappingFirstKey
  | flowMappingKey
  | flowMappingValue
  | flowMappingEmptyValue
  | finished
  deriving DecidableEq, Repr

/-- The tag handles every document knows. -/
def defaultTagHandles : List (String × String) :=
  [("!", "!"), ("!!", "tag:yaml.org,2002:")]

/-- The walk over the tokens: position, what is expected now, what is expected after
the nodes that are open, and the tag handles of the current document. -/
structure Grammar where
  tokens : Array Token
  position : Nat
  expect : Expectation
  after : List Expectation
  handles : List (String × String)

namespace Grammar

/-- The current token; past the end the stream is over. -/
def peek (g : Grammar) : Token := g.tokens.getD g.position .streamEnd

/-- Move to the next token. -/
def advance (g : Grammar) : Grammar := { g with position := g.position + 1 }

/-- Expect `next` now and `resume` once the node that starts now is complete. -/
def push (g : Grammar) (resume next : Expectation) : Grammar :=
  { g with after := resume :: g.after, expect := next }

/-- The node is complete: go back to what was expected after it. -/
def pop (g : Grammar) : Grammar :=
  match g.after with
  | e :: rest => { g with expect := e, after := rest }
  | [] => { g with expect := .finished }

/-- An empty plain scalar, for an omitted node. -/
def empty : Event := .scalar {} "" .plain

/-- Expand a tag: a verbatim tag (empty handle) stays, otherwise the handle must be known. -/
def expandTag (g : Grammar) : Option (String × String) → Except Unit (Option String)
  | none => pure none
  | some (handle, suffix) =>
    if handle.isEmpty then pure (some suffix)
    else match g.handles.lookup handle with
      | some prefixText => pure (some (prefixText ++ suffix))
      | none => throw ()

/-- A node: an alias, or properties followed by a scalar, a collection start, or nothing
(then an empty scalar). `block` admits block collections, `indentless` a sequence whose
`-` entries stand at the indentation of the enclosing mapping. -/
def node (g : Grammar) (block indentless : Bool) : Except Unit (Event × Grammar) := do
  match g.peek with
  | .alias name => pure (.alias name, g.advance.pop)
  | _ =>
    let (anchor, tag, g) :=
      match g.peek with
      | .anchor a =>
        match g.advance.peek with
        | .tag h s => (some a, some (h, s), g.advance.advance)
        | _ => (some a, none, g.advance)
      | .tag h s =>
        match g.advance.peek with
        | .anchor a => (some a, some (h, s), g.advance.advance)
        | _ => (none, some (h, s), g.advance)
      | _ => (none, none, g)
    let tag ← g.expandTag tag
    let properties : Properties := { anchor, tag }
    match g.peek with
    | .blockEntry =>
      if indentless then pure (.sequenceStart properties, { g with expect := .indentlessSequenceEntry })
      else if anchor.isSome || tag.isSome then pure (.scalar properties "" .plain, g.pop)
      else throw ()
    | .scalar text style => pure (.scalar properties text style, g.advance.pop)
    | .flowSequenceStart => pure (.sequenceStart properties, { g with expect := .flowSequenceFirstEntry })
    | .flowMappingStart => pure (.mappingStart properties, { g with expect := .flowMappingFirstKey })
    | .blockSequenceStart =>
      if block then pure (.sequenceStart properties, { g with expect := .blockSequenceFirstEntry })
      else if anchor.isSome || tag.isSome then pure (.scalar properties "" .plain, g.pop)
      else throw ()
    | .blockMappingStart =>
      if block then pure (.mappingStart properties, { g with expect := .blockMappingFirstKey })
      else if anchor.isSome || tag.isSome then pure (.scalar properties "" .plain, g.pop)
      else throw ()
    | _ =>
      if anchor.isSome || tag.isSome then pure (.scalar properties "" .plain, g.pop)
      else throw ()

/-- The `%YAML` and `%TAG` directives before an explicit document: at most one version,
1.1 or 1.2, and no handle declared twice. -/
def directives (g : Grammar) (version : Bool) (declared : List (String × String)) :
    Nat → Except Unit Grammar
  | 0 => throw ()
  | fuel + 1 =>
    match g.peek with
    | .versionDirective major minor =>
      if version || major != 1 || (minor != 1 && minor != 2) then throw ()
      else directives g.advance true declared fuel
    | .tagDirective handle prefixText =>
      if (declared.lookup handle).isSome then throw ()
      else directives g.advance version (declared ++ [(handle, prefixText)]) fuel
    | _ =>
      let defaults := defaultTagHandles.filter fun (h, _) => (declared.lookup h).isNone
      pure { g with handles := declared ++ defaults }

/-- Skip `...` markers that stand between documents. -/
def skipDocumentEnds (g : Grammar) : Nat → Grammar
  | 0 => g
  | fuel + 1 => if g.peek == .documentEnd then skipDocumentEnds g.advance fuel else g

/-- A token that ends a block sequence entry or mapping key or value without a node. -/
def endsBlockNode (t : Token) : Bool :=
  t == .key || t == .value || t == .blockEnd

/-- The entries of a flow sequence after the first has been checked. -/
def flowSequenceEntry (g : Grammar) (first : Bool) : Except Unit (Event × Grammar) := do
  if g.peek == .flowSequenceEnd then
    pure (.sequenceEnd, g.pop.advance)
  else
    let g ←
      if first then pure g
      else if g.peek == .flowEntry then pure g.advance
      else throw ()
    match g.peek with
    | .key => pure (.mappingStart {}, { g.advance with expect := .flowSequenceEntryMappingKey })
    | .flowSequenceEnd => pure (.sequenceEnd, g.pop.advance)
    | _ => node (g.push .flowSequenceEntry .flowNode) false false

/-- The entries of a flow mapping. -/
def flowMappingKey (g : Grammar) (first : Bool) : Except Unit (Event × Grammar) := do
  if g.peek == .flowMappingEnd then
    pure (.mappingEnd, g.pop.advance)
  else
    let g ←
      if first then pure g
      else if g.peek == .flowEntry then pure g.advance
      else throw ()
    match g.peek with
    | .key =>
      let g := g.advance
      match g.peek with
      | .value | .flowEntry | .flowMappingEnd => pure (empty, { g with expect := .flowMappingValue })
      | _ => node (g.push .flowMappingValue .flowNode) false false
    | .flowMappingEnd => pure (.mappingEnd, g.pop.advance)
    | _ => node (g.push .flowMappingEmptyValue .flowNode) false false

/-- One step of the grammar: the next event, or `none` once the stream is over. -/
def step (g : Grammar) : Except Unit (Option (Event × Grammar)) := do
  match g.expect with
  | .finished => pure none
  | .streamStart =>
    if g.peek == .streamStart then
      pure (some (.streamStart, { g.advance with expect := .implicitDocumentStart }))
    else throw ()
  | .implicitDocumentStart | .documentStart =>
    let implicit := g.expect == .implicitDocumentStart
    let g := if implicit then g else skipDocumentEnds g g.tokens.size
    match g.peek with
    | .streamEnd => pure (some (.streamEnd, { g.advance with expect := .finished }))
    | .versionDirective _ _ | .tagDirective _ _ | .documentStart =>
      let g ← directives g false [] g.tokens.size
      if g.peek == .documentStart then
        pure (some (.documentStart, (g.push .documentEnd .documentContent).advance))
      else throw ()
    | _ =>
      if implicit then
        pure (some (.documentStart, { g.push .documentEnd .blockNode with handles := defaultTagHandles }))
      else throw ()
  | .documentContent =>
    match g.peek with
    | .versionDirective _ _ | .tagDirective _ _ | .documentStart | .documentEnd | .streamEnd =>
      pure (some (empty, g.pop))
    | _ => some <$> node g true false
  | .documentEnd =>
    let g := if g.peek == .documentEnd then g.advance else g
    pure (some (.documentEnd, { g with expect := .documentStart }))
  | .blockNode => some <$> node g true false
  | .blockNodeOrIndentlessSequence => some <$> node g true true
  | .flowNode => some <$> node g false false
  | .blockSequenceFirstEntry | .blockSequenceEntry =>
    let g := if g.expect == .blockSequenceFirstEntry then g.advance else g
    match g.peek with
    | .blockEntry =>
      let g := g.advance
      match g.peek with
      | .blockEntry | .blockEnd => pure (some (empty, { g with expect := .blockSequenceEntry }))
      | _ => some <$> node (g.push .blockSequenceEntry .blockNode) true false
    | .blockEnd => pure (some (.sequenceEnd, g.pop.advance))
    | _ => throw ()
  | .indentlessSequenceEntry =>
    match g.peek with
    | .blockEntry =>
      let g := g.advance
      if g.peek == .blockEntry || endsBlockNode g.peek then
        pure (some (empty, { g with expect := .indentlessSequenceEntry }))
      else some <$> node (g.push .indentlessSequenceEntry .blockNode) true false
    | _ => pure (some (.sequenceEnd, g.pop))
  | .blockMappingFirstKey | .blockMappingKey =>
    let g := if g.expect == .blockMappingFirstKey then g.advance else g
    match g.peek with
    | .key =>
      let g := g.advance
      if endsBlockNode g.peek then pure (some (empty, { g with expect := .blockMappingValue }))
      else some <$> node (g.push .blockMappingValue .blockNodeOrIndentlessSequence) true true
    | .blockEnd => pure (some (.mappingEnd, g.pop.advance))
    | _ => throw ()
  | .blockMappingValue =>
    match g.peek with
    | .value =>
      let g := g.advance
      if endsBlockNode g.peek then pure (some (empty, { g with expect := .blockMappingKey }))
      else some <$> node (g.push .blockMappingKey .blockNodeOrIndentlessSequence) true true
    | _ => pure (some (empty, { g with expect := .blockMappingKey }))
  | .flowSequenceFirstEntry => some <$> flowSequenceEntry g.advance true
  | .flowSequenceEntry => some <$> flowSequenceEntry g false
  | .flowSequenceEntryMappingKey =>
    match g.peek with
    | .value | .flowEntry | .flowSequenceEnd =>
      pure (some (empty, { g with expect := .flowSequenceEntryMappingValue }))
    | _ => some <$> node (g.push .flowSequenceEntryMappingValue .flowNode) false false
  | .flowSequenceEntryMappingValue =>
    if g.peek == .value then
      let g := g.advance
      if g.peek == .flowEntry || g.peek == .flowSequenceEnd then
        pure (some (empty, { g with expect := .flowSequenceEntryMappingEnd }))
      else some <$> node (g.push .flowSequenceEntryMappingEnd .flowNode) false false
    else pure (some (empty, { g with expect := .flowSequenceEntryMappingEnd }))
  | .flowSequenceEntryMappingEnd => pure (some (.mappingEnd, { g with expect := .flowSequenceEntry }))
  | .flowMappingFirstKey => some <$> flowMappingKey g.advance true
  | .flowMappingKey => some <$> flowMappingKey g false
  | .flowMappingValue =>
    if g.peek == .value then
      let g := g.advance
      if g.peek == .flowEntry || g.peek == .flowMappingEnd then
        pure (some (empty, { g with expect := .flowMappingKey }))
      else some <$> node (g.push .flowMappingKey .flowNode) false false
    else pure (some (empty, { g with expect := .flowMappingKey }))
  | .flowMappingEmptyValue => pure (some (empty, { g with expect := .flowMappingKey }))

/-- Run the grammar to the end of the stream, collecting its events. -/
def run : Nat → Grammar → Array Event → Except Unit (Array Event)
  | 0, _, _ => throw ()
  | fuel + 1, g, events => do
    match ← g.step with
    | none => pure events
    | some (event, g') => run fuel g' (events.push event)

end Grammar

/-- The events of a token stream, or `none` when the tokens break the grammar. -/
def Event.ofTokens? (tokens : Array Token) : Option (Array Event) :=
  let start : Grammar :=
    { tokens, position := 0, expect := .streamStart, after := [], handles := defaultTagHandles }
  match Grammar.run (8 * tokens.size + 16) start #[] with
  | .ok events => some events
  | .error _ => none

end BenchDispatch.Yaml
