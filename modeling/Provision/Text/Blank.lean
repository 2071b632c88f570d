/-!
# Blank text

Recipe names, commands and log patterns must say something: a text that holds only white space
counts as absent. White space is the Unicode property, so an ideographic space is as blank as a
tab.
-/

namespace Provision.Text

/-- The characters with the Unicode property White_Space. -/
def isSpace (c : Char) : Bool :=
  let n := c.toNat
  (9 ≤ n && n ≤ 13) || n == 0x20 || n == 0x85 || n == 0xA0 || n == 0x1680 ||
    (0x2000 ≤ n && n ≤ 0x200A) || n == 0x2028 || n == 0x2029 || n == 0x202F ||
    n == 0x205F || n == 0x3000

/-- A text is blank when nothing but white space is in it; the empty text is blank. -/
def isBlank (s : String) : Bool :=
  s.toList.all isSpace

end Provision.Text
