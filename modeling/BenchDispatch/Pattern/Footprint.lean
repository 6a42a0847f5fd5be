import BenchDispatch.Pattern.Hir

/-!
# The size of a pattern's automaton

A pattern is refused when the automaton built from it would take more than
10 MiB, in the forward direction (with capture states) or the reverse one.
The automaton works on UTF-8 bytes: a set of characters becomes the byte-range
sequences of its ranges, shared as a trie with common suffixes merged (forward)
or as chains with common tails merged (reverse), each through a bounded cache
keyed by a hash of the state's transitions. Every state costs 32 bytes, every
transition of a many-way state 8 bytes, every branch of a choice state 4 bytes.
The count follows the order in which states are created, so the cache hits
exactly where the builder's would.
-/

set_option autoImplicit false

namespace BenchDispatch.Pattern

/-- The most memory an automaton may take. -/
def automatonLimit : Nat := 10 * 1024 * 1024

/-- Bytes per state. -/
def stateBytes : Nat := 32

/-- Bytes per byte-range transition of a many-way state. -/
def transitionBytes : Nat := 8

/-- Bytes per branch of a choice state. -/
def branchBytes : Nat := 4

/-- Slots of the trie cache. -/
def trieCacheSlots : Nat := 10000

/-- Slots of the tail cache. -/
def tailCacheSlots : Nat := 1000

/-- A transition on the bytes `lo`–`hi` to a state. -/
abbrev Transition := Nat × Nat × Nat

/-- A node of the trie under construction: its finished transitions and the byte range of
the transition still open. -/
structure TrieNode where
  transitions : Array Transition
  pending : Option (Nat × Nat)
  deriving Inhabited

/-- The builder's running totals and caches. -/
structure Builder where
  states : Nat
  heap : Nat
  trieCache : Array (Option (Array Transition × Nat))
  tailCache : Array (Option (Transition × Nat))
  captureSlots : Nat

/-- A piece of automaton: its entry, its exit, and whether the exit is a choice state
(linking from it adds a branch). -/
structure Fragment where
  entry : Nat
  exit : Nat
  exitIsChoice : Bool

/-- A building step; it fails once the automaton is too large. -/
abbrev Build := StateT Builder (Except Unit)

namespace Build

/-- Check the total against the limit. -/
def check : Build Unit := do
  let b ← get
  if b.states * stateBytes + b.heap > automatonLimit then throw ()

/-- Add a state with `heap` bytes of transitions or branches; its number. -/
def add (heap : Nat) : Build Nat := do
  let b ← get
  set { b with states := b.states + 1, heap := b.heap + heap }
  check
  return b.states

/-- Add a branch to a choice state. -/
def branch : Build Unit := do
  modify fun b => { b with heap := b.heap + branchBytes }
  check

/-- Link a fragment's exit onward: a branch when its exit is a choice. -/
def link (f : Fragment) : Build Unit :=
  if f.exitIsChoice then branch else pure ()

/-- A state with no transitions of its own. -/
def single : Build Fragment := do
  let id ← add 0
  return ⟨id, id, false⟩

/-- The FNV-1a offset basis. -/
def fnvBasis : UInt64 := 14695981039346656037

/-- The FNV-1a prime. -/
def fnvPrime : UInt64 := 1099511628211

/-- Mix a number into an FNV-1a hash. -/
def fnvMix (h : UInt64) (n : Nat) : UInt64 := (h ^^^ n.toUInt64) * fnvPrime

/-- The trie-cache slot of a node's transitions. -/
def trieSlot (key : Array Transition) : Nat :=
  (key.foldl (fun h (lo, hi, next) => fnvMix (fnvMix (fnvMix h lo) hi) next) fnvBasis).toNat %
    trieCacheSlots

/-- The tail-cache slot of a transition. -/
def tailSlot (key : Transition) : Nat :=
  let (next, lo, hi) := key
  (fnvMix (fnvMix (fnvMix fnvBasis next) lo) hi).toNat % tailCacheSlots

/-- A finished trie node: the cached state with the same transitions, or a new one. -/
def trieState (key : Array Transition) : Build Nat := do
  let slot := trieSlot key
  match (← get).trieCache[slot]? with
  | some (some (cached, id)) => if cached == key then return id else pure ()
  | _ => pure ()
  let id ← add (transitionBytes * key.size)
  modify fun b => { b with trieCache := b.trieCache.set! slot (some (key, id)) }
  return id

/-- Close a node's open transition towards `next`. -/
def closeNode (node : TrieNode) (next : Nat) : TrieNode :=
  match node.pending with
  | some (lo, hi) => { transitions := node.transitions.push (lo, hi, next), pending := none }
  | none => node

/-- Finish the nodes deeper than `depth`, deepest first, and close the open transition at
`depth` towards them. -/
def finishFrom (target depth : Nat) : Nat → Array TrieNode → Nat → Build (Array TrieNode)
  | 0, stack, _ => pure stack
  | fuel + 1, stack, next =>
    if depth + 1 < stack.size then do
      let node := closeNode stack.back! next
      let id ← trieState node.transitions
      finishFrom target depth fuel stack.pop id
    else
      pure (stack.modify (stack.size - 1) (closeNode · next))

/-- Add one byte-range sequence to the trie: keep the common prefix, finish what lies below it. -/
def addSequence (target : Nat) (stack : Array TrieNode) (sequence : List (Nat × Nat)) :
    Build (Array TrieNode) := do
  let shared := ((sequence.zip stack.toList).takeWhile fun (r, node) => node.pending == some r).length
  let stack ← finishFrom target shared (stack.size + 1) stack target
  match sequence.drop shared with
  | [] => pure stack
  | first :: rest =>
    let stack := stack.modify (stack.size - 1) fun node => { node with pending := some first }
    pure (rest.foldl (fun s r => s.push { transitions := #[], pending := some r }) stack)

/-- The code points `lo`–`hi` as UTF-8 byte-range sequences, in the order the builder
produces them: split at the surrogates and at each encoding length, then into ranges whose
continuation bytes vary freely. -/
def utf8Sequences (lo hi : Nat) : List (List (Nat × Nat)) :=
  go 4096 [(lo, hi)] []
where
  encode (c : Nat) : List Nat :=
    if c < 0x80 then [c]
    else if c < 0x800 then [0xC0 + c / 64, 0x80 + c % 64]
    else if c < 0x10000 then [0xE0 + c / 4096, 0x80 + c / 64 % 64, 0x80 + c % 64]
    else [0xF0 + c / 262144, 0x80 + c / 4096 % 64, 0x80 + c / 64 % 64, 0x80 + c % 64]
  widthLimit (n : Nat) : Nat :=
    if n == 1 then 0x7F else if n == 2 then 0x7FF else if n == 3 then 0xFFFF else 0x10FFFF
  split (r : Nat × Nat) : Option ((Nat × Nat) × (Nat × Nat)) :=
    let (s, e) := r
    if s < 0xE000 && e > 0xD7FF then some ((s, min e 0xD7FF), (max s 0xE000, e))
    else
      match [1, 2, 3].find? (fun i => s ≤ widthLimit i && widthLimit i < e) with
      | some i => some ((s, widthLimit i), (widthLimit i + 1, e))
      | none =>
        if e ≤ 0x7F then none
        else
          [1, 2, 3].findSome? fun i =>
            let unit := Nat.pow 2 (6 * i)
            if s - s % unit != e - e % unit then
              if s % unit != 0 then some ((s, s - s % unit + unit - 1), (s - s % unit + unit, e))
              else if e % unit != unit - 1 then some ((s, e - e % unit - 1), (e - e % unit, e))
              else none
            else none
  go : Nat → List (Nat × Nat) → List (List (Nat × Nat)) → List (List (Nat × Nat))
    | 0, _, out => out.reverse
    | _, [], out => out.reverse
    | fuel + 1, r :: stack, out =>
      if r.1 > r.2 then go fuel stack out
      else match split r with
        | some (first, second) => go fuel (first :: second :: stack) out
        | none =>
          let sequence := (encode r.1).zip (encode r.2)
          go fuel stack (sequence :: out)

/-- A set of ASCII characters: one many-way state and its exit. -/
def asciiSet (ranges : Nat) : Build Fragment := do
  let exit ← add 0
  let entry ← add (transitionBytes * ranges)
  return ⟨entry, exit, false⟩

/-- The byte-range sequences of a set of characters, range by range. -/
def setSequences (s : CharSet) : List (List (Nat × Nat)) :=
  s.ranges.flatMap fun (lo, hi) => utf8Sequences lo hi

/-- A set of characters (given by its sequences), forward: a trie of byte ranges with shared
suffixes. -/
def forwardSet (sequences : List (List (Nat × Nat))) : Build Fragment := do
  let target ← add 0
  modify fun b => { b with trieCache := Array.replicate trieCacheSlots none }
  let stack ← sequences.foldlM (addSequence target) #[{ transitions := #[], pending := none }]
  let stack ← finishFrom target 0 (stack.size + 1) stack target
  let root := stack[0]!
  let entry ← trieState root.transitions
  return ⟨entry, target, false⟩

/-- A set of characters (given by its sequences), reverse: one chain per sequence from a choice
state, sharing tails. -/
def reverseSet (sequences : List (List (Nat × Nat))) : Build Fragment := do
  modify fun b => { b with tailCache := Array.replicate tailCacheSlots none }
  let choice ← add 0
  let exit ← add 0
  for sequence in sequences do
    let mut next := exit
    for (lo, hi) in sequence do
      let key : Transition := (next, lo, hi)
      let slot := tailSlot key
      match (← get).tailCache[slot]? with
      | some (some (cached, id)) =>
        if cached == key then
          next := id
          continue
      | _ => pure ()
      let id ← add 0
      modify fun b => { b with tailCache := b.tailCache.set! slot (some (key, id)) }
      next := id
    branch
  return ⟨choice, exit, false⟩

/-- Chain fragments built one after another. -/
def chain (first : Fragment) (parts : List (Build Fragment)) : Build Fragment :=
  parts.foldlM (fun (prev : Fragment) part => do
    let next ← part
    link prev
    pure ⟨prev.entry, next.exit, next.exitIsChoice⟩) first

/-- Build `n` copies in a row (the empty pattern for none). -/
def copies (part : Build Fragment) : Nat → Build Fragment
  | 0 => single
  | n + 1 => do
    let first ← part
    let mut acc := first
    for _ in [0:n] do
      let next ← part
      link acc
      acc := ⟨acc.entry, next.exit, next.exitIsChoice⟩
    return acc

/-- `sub{min,}`. -/
def atLeast (part : Build Fragment) (subMinimum : Option Nat) (min : Nat) : Build Fragment := do
  if min == 0 then
    if subMinimum.any (· > 0) then
      let choice ← add 0
      let body ← part
      branch
      link body
      return ⟨choice, choice, true⟩
    else
      let body ← part
      let _ ← add 0
      link body
      branch
      let question ← add 0
      let exit ← add 0
      branch
      branch
      branch
      return ⟨question, exit, false⟩
  else if min == 1 then
    let body ← part
    let choice ← add 0
    link body
    branch
    return ⟨body.entry, choice, true⟩
  else
    let front ← copies part (min - 1)
    let last ← part
    let choice ← add 0
    link front
    link last
    branch
    return ⟨front.entry, choice, true⟩

/-- `sub{min,max}` with `min < max`. -/
def bounded (part : Build Fragment) (min max : Nat) : Build Fragment := do
  let front ← copies part min
  let exit ← add 0
  let mut prev := front
  for _ in [min:max] do
    let _ ← add 0
    let body ← part
    link prev
    branch
    branch
    prev := body
  link prev
  return ⟨front.entry, exit, false⟩

/-- `sub?`. -/
def optional (part : Build Fragment) : Build Fragment := do
  let choice ← add 0
  let body ← part
  let exit ← add 0
  branch
  branch
  link body
  return ⟨choice, exit, false⟩

/-- A run of `n` single-byte states, one per byte of a literal. -/
def literalBytes (n : Nat) : Build Fragment := do
  if n == 0 then return (← single)
  let entry ← add 0
  let mut exit := entry
  for _ in [1:n] do
    exit ← add 0
  return ⟨entry, exit, false⟩

/-- Record the name slot of a capture group: the first one also creates the pattern's list. -/
def noteCapture (index : Nat) : Build Unit := do
  modify fun b =>
    let created := if b.captureSlots == 0 then 24 else 0
    let grown := if index ≥ b.captureSlots then 16 * (index + 1 - b.captureSlots) else 0
    { b with captureSlots := max b.captureSlots (index + 1), heap := b.heap + created + grown }

/-- A capture group: a start state, the body, an end state. -/
def captured (index : Nat) (part : Build Fragment) : Build Fragment := do
  noteCapture index
  let entry ← add 0
  let body ← part
  let exit ← add 0
  link body
  return ⟨entry, exit, false⟩

/-- Fragments built one after another, in the given order (the empty pattern for none). -/
def concatAll : List (Build Fragment) → Build Fragment
  | [] => single
  | part :: rest => do chain (← part) rest

/-- A choice between fragments: the first two are built before the choice state. -/
def alternatives : List (Build Fragment) → Build Fragment
  | [] => single
  | [part] => part
  | first :: second :: rest => do
    let a ← first
    let b ← second
    let choice ← add 0
    let exit ← add 0
    branch
    link a
    branch
    link b
    for part in rest do
      let c ← part
      branch
      link c
    return ⟨choice, exit, false⟩

mutual

/-- Build a core pattern, forward (with capture states) or reverse (without). -/
def compile (forward : Bool) : Hir → Build Fragment
  | .empty => single
  | .literal chars => literalBytes (chars.foldl (fun n c => n + utf8Width c) 0)
  | .set s =>
    if s.isAscii then asciiSet s.ranges.length
    else
      let sequences := setSequences s
      if forward then forwardSet sequences else reverseSet sequences
  | .look _ => single
  | .repetition min max _ sub =>
    match min, max with
    | 0, some 1 => optional (compile forward sub)
    | min, none => atLeast (compile forward sub) sub.minimumLength min
    | min, some max =>
      if min == max then copies (compile forward sub) min
      else bounded (compile forward sub) min max
  | .capture index sub =>
    if forward then captured index (compile forward sub) else compile forward sub
  | .concat items =>
    let parts := compileEach forward items
    concatAll (if forward then parts else parts.reverse)
  | .alternation items => alternatives (compileEach forward items)

/-- The builds of a list of core patterns, each still to be run. -/
def compileEach (forward : Bool) : List Hir → List (Build Fragment)
  | [] => []
  | item :: rest => compile forward item :: compileEach forward rest

end

mutual

/-- Whether every match must begin with a start-of-text assertion (`forward`) or end with
an end-of-text one (otherwise). -/
def anchoredAt (forward : Bool) : Hir → Bool
  | .look l => if forward then l == .start else l == .finish
  | .repetition min _ _ sub => min > 0 && anchoredAt forward sub
  | .capture _ sub => anchoredAt forward sub
  | .concat items => if forward then anchoredFront items else (anchoredBack items).1
  | .alternation items => !items.isEmpty && anchoredEvery forward items
  | _ => false

/-- The assertions at the front of a concatenation: items up to the first that can take
a byte. -/
def anchoredFront : List Hir → Bool
  | [] => false
  | item :: rest => anchoredAt true item || (item.maximumLength == some 0 && anchoredFront rest)

/-- The assertions at the back of a concatenation, and whether every item is empty-width. -/
def anchoredBack : List Hir → Bool × Bool
  | [] => (false, true)
  | item :: rest =>
    let (found, empty) := anchoredBack rest
    if empty then (found || anchoredAt false item, item.maximumLength == some 0)
    else (found, false)

/-- Whether every branch is anchored. -/
def anchoredEvery (forward : Bool) : List Hir → Bool
  | [] => true
  | item :: rest => anchoredAt forward item && anchoredEvery forward rest

end

/-- The whole automaton in one direction: the unanchored prefix (none when every match is
anchored), the pattern as capture group 0 (forward only), and the accepting state. -/
def automaton (forward : Bool) (h : Hir) : Build Unit := do
  let front ← if anchoredAt forward h then single else atLeast (asciiSet 1) (some 1) 0
  modify fun b => { b with heap := b.heap + 4 }
  let body ← if forward then captured 0 (compile true h) else compile false h
  let _ ← add 0
  link body
  link front

/-- An empty builder. -/
def start : Builder :=
  { states := 0, heap := 0, trieCache := #[], tailCache := #[], captureSlots := 0 }

end Build

/-- Whether the automata of a core pattern, forward and reverse, both fit the limit. -/
def Hir.fitsLimit (h : Hir) : Bool :=
  match (Build.automaton true h).run Build.start with
  | .error _ => false
  | .ok _ =>
    match (Build.automaton false h).run Build.start with
    | .error _ => false
    | .ok _ => true

end BenchDispatch.Pattern
