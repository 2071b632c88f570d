/-!
# Sets of characters

A set of characters is kept as ranges of code points. Tables write such a set as hexadecimal
numbers and pairs of them with a hyphen, with blanks in between; `Ranges.ofText` reads that form.
The surrogates are no characters, so no set holds them.
-/

namespace Provision.Unicode

/-- A set of characters: ranges of code points, ends included, in rising order and with a gap
between neighbours. -/
structure Ranges where
  pairs : List (Nat × Nat)
  deriving Repr, BEq, Inhabited

namespace Ranges

/-- Adds a range in front of ranges that begin no earlier, and joins what touches. -/
def attach (lo hi : Nat) : List (Nat × Nat) → List (Nat × Nat)
  | [] => [(lo, hi)]
  | (a, b) :: rest => if a ≤ hi + 1 then attach lo (max hi b) rest else (lo, hi) :: (a, b) :: rest

/-- Joins the ranges of a list that is sorted by their starts. -/
def join : List (Nat × Nat) → List (Nat × Nat)
  | [] => []
  | (lo, hi) :: rest => attach lo hi (join rest)

/-- The part of a range below the surrogates and the part above them. -/
def cutSurrogates (p : Nat × Nat) : List (Nat × Nat) :=
  let low := if p.1 < 0xD800 then [(p.1, min p.2 0xD7FF)] else []
  let high := if 0xDFFF < p.2 then [(max p.1 0xE000, min p.2 0x10FFFF)] else []
  low ++ high

/-- The set of the characters in some ranges. -/
def ofPairs (ps : List (Nat × Nat)) : Ranges :=
  ⟨join ((ps.flatMap cutSurrogates).mergeSort (fun p q => p.1 ≤ q.1))⟩

/-- The characters from one code point to another. -/
def span (lo hi : Nat) : Ranges := ofPairs [(lo, hi)]

/-- One character. -/
def single (c : Char) : Ranges := ⟨[(c.toNat, c.toNat)]⟩

/-- No characters. -/
def empty : Ranges := ⟨[]⟩

/-- All characters. -/
def all : Ranges := ⟨[(0, 0xD7FF), (0xE000, 0x10FFFF)]⟩

/-- Whether the character with a code point is in the set. -/
def contains (r : Ranges) (n : Nat) : Bool :=
  r.pairs.any fun p => p.1 ≤ n && n ≤ p.2

/-- Whether a character is in the set. -/
def mem (r : Ranges) (c : Char) : Bool := r.contains c.toNat

/-- The characters of two sets together. -/
def union (r s : Ranges) : Ranges := ofPairs (r.pairs ++ s.pairs)

/-- The characters of some sets together. -/
def unions (rs : List Ranges) : Ranges := ofPairs (rs.flatMap Ranges.pairs)

/-- The gaps between ranges, from a code point on. -/
def gaps (start : Nat) : List (Nat × Nat) → List (Nat × Nat)
  | [] => if start ≤ 0x10FFFF then [(start, 0x10FFFF)] else []
  | (lo, hi) :: rest =>
    if start < lo then (start, lo - 1) :: gaps (hi + 1) rest else gaps (hi + 1) rest

/-- The characters that are not in the set. -/
def complement (r : Ranges) : Ranges := ofPairs (gaps 0 r.pairs)

/-- The characters that are in both of two sets. -/
def inter (r s : Ranges) : Ranges := (r.complement.union s.complement).complement

/-- The characters of a set that are not in another one. -/
def diff (r s : Ranges) : Ranges := r.inter s.complement

/-- The characters that are in one of two sets only. -/
def symmDiff (r s : Ranges) : Ranges := (r.diff s).union (s.diff r)

/-- Whether the set holds ASCII characters only. -/
def isAscii (r : Ranges) : Bool := r.pairs.all fun p => p.2 ≤ 0x7F

/-- The value of a hexadecimal number in capitals. -/
def hexValue (cs : List Char) : Nat :=
  cs.foldl (fun n c =>
    n * 16 + (if c.isDigit then c.toNat - '0'.toNat else c.toNat - 'A'.toNat + 10)) 0

/-- The range that a word of a table writes. -/
def pairOf (word : List Char) : Nat × Nat :=
  match word.span (· != '-') with
  | (lo, []) => (hexValue lo, hexValue lo)
  | (lo, _ :: hi) => (hexValue lo, hexValue hi)

/-- The set that a table writes. -/
def ofText (s : String) : Ranges :=
  ⟨((s.toList.splitOnP Char.isWhitespace).filter (!·.isEmpty)).map pairOf⟩

end Ranges

/-- The set in the row of a table that has a name. -/
def rowNamed? (table : List (List String × String)) (name : String) : Option Ranges :=
  (table.find? (fun row => row.1.contains name)).map fun row => Ranges.ofText row.2

/-- The set in the row of a table that has a name; a name without a row has no characters. -/
def rowNamed (table : List (List String × String)) (name : String) : Ranges :=
  (rowNamed? table name).getD Ranges.empty

end Provision.Unicode
