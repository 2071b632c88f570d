/-!
# Letters without case

Names, platforms and file extensions are compared without regard to the case of ASCII letters;
every other character, accented letters included, has to agree exactly. `sameLetters_iff` reduces
the comparison to equality of the lowered texts, so it is an equivalence relation.
-/

namespace Provision.Text

/-- The characters of a text with its ASCII capitals lowered. -/
def lowered (s : String) : List Char :=
  s.toList.map Char.toLower

/-- Equality up to the case of ASCII letters. -/
def sameLetters (a b : String) : Bool :=
  lowered a == lowered b

/-- Two texts have the same letters if they agree once their capitals are lowered. -/
theorem sameLetters_iff {a b : String} : sameLetters a b = true ↔ lowered a = lowered b := by
  simp [sameLetters]

end Provision.Text
