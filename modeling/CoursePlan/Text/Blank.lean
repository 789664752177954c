/-!
# Blanks

White space as Unicode has it (`isBlank`), which separates the pieces of a requisite text, and the
smaller ASCII set (`isAsciiBlank`) that may stand inside a course code.  `trim` cuts blanks off both
ends of a text and nothing else.
-/

namespace CoursePlan.Text

/-- The characters with the Unicode property `White_Space`. -/
def isBlank (c : Char) : Bool :=
  let n := c.toNat
  (0x9 ≤ n && n ≤ 0xd) || n == 0x20 || n == 0x85 || n == 0xa0 || n == 0x1680 ||
    (0x2000 ≤ n && n ≤ 0x200a) || n == 0x2028 || n == 0x2029 || n == 0x202f || n == 0x205f ||
    n == 0x3000

/-- The ASCII white space: the space and the five controls from tab to carriage return. -/
def isAsciiBlank (c : Char) : Bool :=
  let n := c.toNat
  (0x9 ≤ n && n ≤ 0xd) || n == 0x20

/-- Drop the blanks that a text starts with. -/
def trimStart (cs : List Char) : List Char :=
  cs.dropWhile isBlank

/-- Drop the blanks that a text ends with. -/
def trimEnd (cs : List Char) : List Char :=
  (cs.reverse.dropWhile isBlank).reverse

/-- Drop the blanks at both ends. -/
def trim (cs : List Char) : List Char :=
  trimEnd (trimStart cs)

/-- Whether a text shows nothing: it is empty or all blanks. -/
def isBlankText (cs : List Char) : Bool :=
  cs.all isBlank

end CoursePlan.Text
