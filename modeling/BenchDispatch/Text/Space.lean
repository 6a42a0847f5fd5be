/-!
# White space

The characters with the Unicode `White_Space` property. Configuration names and timestamps are
trimmed of exactly these, so a no-break space counts as blank while a zero-width space does not.
-/

set_option autoImplicit false

namespace BenchDispatch.Text

/-- A character with the Unicode `White_Space` property. -/
def isWhiteSpace (c : Char) : Bool :=
  let n := c.toNat
  (0x09 ≤ n && n ≤ 0x0D) || n == 0x20 || n == 0x85 || n == 0xA0 || n == 0x1680
    || (0x2000 ≤ n && n ≤ 0x200A) || n == 0x2028 || n == 0x2029 || n == 0x202F
    || n == 0x205F || n == 0x3000

/-- The text after its leading white space. -/
def dropWhiteSpace (cs : List Char) : List Char :=
  cs.dropWhile isWhiteSpace

/-- A text with white space removed at both ends. -/
def trimWhiteSpace (s : String) : List Char :=
  ((dropWhiteSpace s.toList).reverse.dropWhile isWhiteSpace).reverse

end BenchDispatch.Text
