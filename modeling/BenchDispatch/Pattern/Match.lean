import BenchDispatch.Pattern.Hir
import BenchDispatch.Pattern.NamedClass

/-!
# Matching

`Hir.ends text h i` is the list of positions where a match of `h` that starts at
position `i` of `text` can end: a literal or set moves one step per character,
a look stays put when its test holds, a concatenation chains its parts, an
alternation joins its branches, and a repetition iterates its body the required
number of times and then up to its bound. Positions are character indices, so
every list is finite and a repetition needs at most one more round per position.
A pattern matches a text when a match starts somewhere.
-/

set_option autoImplicit false

namespace BenchDispatch.Pattern

/-- Drop repeated positions, keeping the first of each. -/
def dedupPositions (ps : List Nat) : List Nat :=
  ps.foldl (fun acc p => if acc.contains p then acc else acc ++ [p]) []

/-- Whether the character at `i` exists and is a word character (Unicode or ASCII). -/
def wordAt (text : Array Char) (unicode : Bool) (i : Nat) : Bool :=
  match text[i]? with
  | some c => if unicode then unicodeWordChars.contains c else asciiWordChars.contains c
  | none => false

/-- Whether a word character stands right before position `i`. -/
def wordBefore (text : Array Char) (unicode : Bool) (i : Nat) : Bool :=
  i > 0 && wordAt text unicode (i - 1)

/-- Whether a look holds at position `i`. -/
def Look.holds (text : Array Char) (i : Nat) : Look → Bool
  | .start => i == 0
  | .finish => i == text.size
  | .startLF => i == 0 || text[i - 1]? == some '\n'
  | .endLF => i == text.size || text[i]? == some '\n'
  | .startCRLF =>
    i == 0 || text[i - 1]? == some '\n' || (text[i - 1]? == some '\r' && text[i]? != some '\n')
  | .endCRLF =>
    i == text.size || text[i]? == some '\r' ||
      (text[i]? == some '\n' && (i == 0 || text[i - 1]? != some '\r'))
  | .wordAscii => wordBefore text false i != wordAt text false i
  | .wordAsciiNegate => wordBefore text false i == wordAt text false i
  | .wordUnicode => wordBefore text true i != wordAt text true i
  | .wordUnicodeNegate => wordBefore text true i == wordAt text true i
  | .wordStartAscii => !wordBefore text false i && wordAt text false i
  | .wordEndAscii => wordBefore text false i && !wordAt text false i
  | .wordStartUnicode => !wordBefore text true i && wordAt text true i
  | .wordEndUnicode => wordBefore text true i && !wordAt text true i
  | .wordStartHalfAscii => !wordBefore text false i
  | .wordEndHalfAscii => !wordAt text false i
  | .wordStartHalfUnicode => !wordBefore text true i
  | .wordEndHalfUnicode => !wordAt text true i

/-- Whether the characters `cs` stand in the text from position `i`. -/
def literalAt (text : Array Char) (cs : List Char) (i : Nat) : Bool :=
  (text.extract i (i + cs.length)).toList == cs

/-- One more round of a body from each of the positions. -/
def stepAll (step : Nat → List Nat) (positions : List Nat) : List Nat :=
  dedupPositions (positions.flatMap step)

/-- The positions after exactly `k` rounds of a body. -/
def iterateSteps (step : Nat → List Nat) : Nat → List Nat → List Nat
  | 0, ps => ps
  | k + 1, ps => iterateSteps step k (stepAll step ps)

/-- The positions reachable in at most `rounds` further rounds, added to `reached`. -/
def closeSteps (step : Nat → List Nat) : Nat → List Nat → List Nat → List Nat
  | 0, reached, _ => reached
  | rounds + 1, reached, frontier =>
    let fresh := (stepAll step frontier).filter fun p => !reached.contains p
    if fresh.isEmpty then reached else closeSteps step rounds (reached ++ fresh) fresh

/-- The end positions of `min` to `max` rounds of a body (no bound when `max` is `none`,
where `size + 1` further rounds reach every position there is). -/
def repeatEnds (step : Nat → List Nat) (min : Nat) (max : Option Nat) (size i : Nat) : List Nat :=
  let base := iterateSteps step min [i]
  let rounds := match max with
    | some m => m - min
    | none => size + 1
  closeSteps step rounds base base

mutual

/-- The positions where a match of the pattern starting at position `i` can end. -/
def Hir.ends (text : Array Char) : Hir → Nat → List Nat
  | .empty, i => [i]
  | .literal cs, i => if literalAt text cs i then [i + cs.length] else []
  | .set s, i =>
    match text[i]? with
    | some c => if s.contains c then [i + 1] else []
    | none => []
  | .look l, i => if l.holds text i then [i] else []
  | .repetition min max _ sub, i => repeatEnds (fun j => sub.ends text j) min max text.size i
  | .capture _ sub, i => sub.ends text i
  | .concat items, i => Hir.endsAll text items i
  | .alternation items, i => Hir.endsAny text items i

/-- The end positions of a concatenation. -/
def Hir.endsAll (text : Array Char) : List Hir → Nat → List Nat
  | [], i => [i]
  | item :: rest, i => dedupPositions ((item.ends text i).flatMap fun j => Hir.endsAll text rest j)

/-- The end positions of an alternation. -/
def Hir.endsAny (text : Array Char) : List Hir → Nat → List Nat
  | [], _ => []
  | item :: rest, i => dedupPositions (item.ends text i ++ Hir.endsAny text rest i)

end

/-- Whether the pattern matches somewhere in the text. -/
def Hir.matches (h : Hir) (target : String) : Bool :=
  let text := target.toList.toArray
  (List.range (text.size + 1)).any fun i => !(h.ends text i).isEmpty

end BenchDispatch.Pattern
