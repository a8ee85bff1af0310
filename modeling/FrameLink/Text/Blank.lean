/-
  White space around a written value.

  A value read from the surroundings may carry white space on
  either side.  White space is every character of the Unicode
  property `White_Space`, and trimming removes it from both
  ends and from nowhere else.

  Key definitions include:
    * `Text.isBlank`
    * `Text.trim`
-/

------------------------------------------------------------
-- White Space
------------------------------------------------------------

namespace FrameLink

namespace Text

/- The characters of the Unicode property `White_Space`. -/
def isBlank (c : Char) : Bool :=
  let n := c.toNat
  (9 ≤ n && n ≤ 13) || n == 0x20 || n == 0x85 ||
    n == 0xA0 || n == 0x1680 ||
    (0x2000 ≤ n && n ≤ 0x200A) ||
    n == 0x2028 || n == 0x2029 || n == 0x202F ||
    n == 0x205F || n == 0x3000

/- Drop leading white space. -/
def trimLeft (cs : List Char) : List Char :=
  cs.dropWhile isBlank

/- Drop trailing white space. -/
def trimRight (cs : List Char) : List Char :=
  (cs.reverse.dropWhile isBlank).reverse

/- Drop the white space at both ends. -/
def trim (cs : List Char) : List Char :=
  trimRight (trimLeft cs)

end Text

end FrameLink
