/-!
# Punycode

A label with characters outside ASCII is written with ASCII letters, digits and hyphens: first its
ASCII characters, then, after a hyphen, the others in the order of their code points, each as the
distance to the one before in a number system whose digits get thresholds that adapt
(`Punycode.encode`). `Punycode.decode?` reads it back.
-/

namespace Provision.Url.Punycode

/-- The character of a digit below 36. -/
def digitChar (d : Nat) : Char :=
  if d < 26 then Char.ofNat ('a'.toNat + d) else Char.ofNat ('0'.toNat + (d - 26))

/-- The digit of a character. -/
def digit? (c : Char) : Option Nat :=
  if 'a' ≤ c && c ≤ 'z' then some (c.toNat - 'a'.toNat)
  else if 'A' ≤ c && c ≤ 'Z' then some (c.toNat - 'A'.toNat)
  else if c.isDigit then some (c.toNat - '0'.toNat + 26)
  else none

/-- The threshold of the digit at a position, which counts in steps of 36. -/
def threshold (position bias : Nat) : Nat :=
  if position ≤ bias then 1 else if bias + 26 ≤ position then 26 else position - bias

/-- Divides a distance until it is small, and counts how often; `bound` limits the rounds. -/
def shrink : Nat → Nat → Nat → Nat
  | 0, d, k => k + 36 * d / (d + 38)
  | bound + 1, d, k => if 455 < d then shrink bound (d / 35) (k + 36) else k + 36 * d / (d + 38)

/-- The bias after a distance to the character that makes `count`. -/
def adapt (distance count : Nat) (first : Bool) : Nat :=
  let d := if first then distance / 700 else distance / 2
  shrink 16 (d + d / count) 0

/-- The digits of a distance; `bound` limits their number. -/
def digits (bias : Nat) : Nat → Nat → Nat → List Char
  | 0, _, _ => []
  | bound + 1, position, q =>
    let t := threshold position bias
    if q < t then [digitChar q]
    else
      digitChar (t + (q - t) % (36 - t)) ::
        digits bias bound (position + 36) ((q - t) / (36 - t))

/-- What encoding has done so far: the digits, the distance that is growing, the bias, and the
number of characters written. -/
structure Progress where
  written : List Char
  distance : Nat
  bias : Nat
  count : Nat

/-- Passes over a character of the label while those of a code point are written. -/
def pass (basic point : Nat) (p : Progress) (c : Char) : Progress :=
  if c.toNat < point then { p with distance := p.distance + 1 }
  else if c.toNat = point then
    ⟨p.written ++ digits p.bias 16 36 p.distance, 0,
      adapt p.distance (p.count + 1) (p.count = basic), p.count + 1⟩
  else p

/-- Writes the code points of a list, which is in rising order. -/
def encodePoints (label : List Char) (basic : Nat) :
    List Nat → Nat → Progress → Progress
  | [], _, p => p
  | point :: rest, next, p =>
    let p := { p with distance := p.distance + (point - next) * (p.count + 1) }
    let p := label.foldl (pass basic point) p
    encodePoints label basic rest (point + 1) { p with distance := p.distance + 1 }

/-- A label in ASCII. -/
def encode (label : List Char) : List Char :=
  let plain := label.filter (·.toNat < 0x80)
  let points := ((label.map Char.toNat).filter (0x80 ≤ ·)).mergeSort.eraseDups
  plain ++ (if plain.isEmpty then [] else ['-']) ++
    (encodePoints label plain.length points 0x80 ⟨[], 0, 72, plain.length⟩).written

/-- Reads a distance: the number reached and the rest. -/
def distance? (bias : Nat) : Nat → Nat → Nat → List Char → Option (Nat × List Char)
  | _, _, _, [] => none
  | position, weight, i, c :: cs => do
    let d ← digit? c
    let t := threshold position bias
    let i := i + d * weight
    if d < t then return (i, cs) else distance? bias (position + 36) (weight * (36 - t)) i cs

/-- Reads distances and puts their characters in; `bound` is more than the length of the text. -/
def decodeFrom (bound : Nat) (label : List Char) (next i bias : Nat) (cs : List Char) :
    Option (List Char) :=
  match bound, cs with
  | _, [] => some label
  | 0, _ => none
  | n + 1, cs => do
    let (j, cs) ← distance? bias 36 1 i cs
    let count := label.length + 1
    let point := next + j / count
    if !(Nat.isValidChar point : Bool) then none
    let at' := j % count
    decodeFrom n (label.take at' ++ Char.ofNat point :: label.drop at') point (at' + 1)
      (adapt (j - i) count (i = 0)) cs

/-- The label that a text stands for. -/
def decode? (cs : List Char) : Option (List Char) :=
  let rest := cs.reverse.takeWhile (· != '-')
  let plain := (cs.reverse.drop (rest.length + 1)).reverse
  decodeFrom (cs.length + 1) plain 0x80 0 72 rest.reverse

end Provision.Url.Punycode
