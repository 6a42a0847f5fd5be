import BenchDispatch.Pattern.Parse
import BenchDispatch.Pattern.Hir.OfAst
import BenchDispatch.Pattern.Match
import BenchDispatch.Pattern.Footprint

/-!
# Compiled patterns

A compiled pattern keeps its text and its core form. `Compiled.ofText?` reads
the text, applies its flags, and refuses a pattern whose automaton would be too
large; `Compiled.isMatch` searches the whole target for a match.
-/

set_option autoImplicit false

namespace BenchDispatch.Pattern

/-- A pattern that compiled: its text and its core form. -/
structure Compiled where
  text : String
  core : Hir
  deriving Repr

/-- Compile a pattern text, or `none` when it is not a valid pattern. -/
def Compiled.ofText? (text : String) : Option Compiled := do
  let ast ← Ast.parse? text
  let core ← Hir.ofAst? ast
  if core.fitsLimit then some { text, core } else none

/-- Whether the pattern matches somewhere in the target. -/
def Compiled.isMatch (p : Compiled) (target : String) : Bool :=
  p.core.matches target

end BenchDispatch.Pattern
