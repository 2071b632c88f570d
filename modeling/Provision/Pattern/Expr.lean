import Provision.Unicode.Category
import Provision.Unicode.Property

/-!
# What a pattern matches

A pattern denotes an expression over sets of characters. To match it against a text, every set of
places in the text is a number whose bit `i` stands for the place after `i` characters, and
`Expr.ends` takes the places where a match may begin to those where it may end. It is defined by
recursion on the expression: sequences compose, choices unite, and a repetition iterates until
nothing changes.

`Expr.cost` estimates the size of the machine that would run the expression, which limits the
patterns that are accepted.
-/

namespace Provision.Pattern

open Provision.Unicode

/-- A condition on a place between two characters. -/
inductive Look where
  | textStart | textEnd
  | lineStart | lineEnd
  | lineStartCrlf | lineEndCrlf
  | boundary (unicode : Bool) | notBoundary (unicode : Bool)
  | wordStart (unicode : Bool) | wordEnd (unicode : Bool)
  | wordStartHalf (unicode : Bool) | wordEndHalf (unicode : Bool)
  deriving Repr, BEq

/-- An expression over sets of characters. -/
inductive Expr where
  | empty
  | chars (set : Ranges)
  | look (l : Look)
  | seq (first second : Expr)
  | choice (first second : Expr)
  | repeated (body : Expr) (least : Nat) (most : Option Nat)
  | capture (body : Expr)
  deriving Repr, Inhabited

/-! ## Classes of letters -/

/-- The characters of words: letters, marks, decimal digits, connectors and joiners. -/
def wordChars : Ranges :=
  Ranges.unions [rowNamed properties "alphabetic", (category? "m").getD .empty,
    leafCategory "nd", leafCategory "pc", rowNamed properties "joincontrol"]

/-- The ASCII characters of words. -/
def asciiWordChars : Ranges :=
  Ranges.ofPairs [(0x30, 0x39), (0x41, 0x5A), (0x5F, 0x5F), (0x61, 0x7A)]

/-! ## Matching -/

/-- Whether a condition holds between the character before a place and those after it. -/
def Look.holds (l : Look) (before : Option Char) (after : Option Char) : Bool :=
  let inWord (unicode : Bool) (c : Option Char) : Bool :=
    c.any (if unicode then wordChars else asciiWordChars).mem
  match l with
  | .textStart => before.isNone
  | .textEnd => after.isNone
  | .lineStart => before.isNone || before == some '\n'
  | .lineEnd => after.isNone || after == some '\n'
  | .lineStartCrlf =>
    before.isNone || before == some '\n' || (before == some '\r' && after != some '\n')
  | .lineEndCrlf =>
    after.isNone || after == some '\r' || (after == some '\n' && before != some '\r')
  | .boundary u => inWord u before != inWord u after
  | .notBoundary u => inWord u before == inWord u after
  | .wordStart u => !inWord u before && inWord u after
  | .wordEnd u => inWord u before && !inWord u after
  | .wordStartHalf u => !inWord u before
  | .wordEndHalf u => !inWord u after

/-- The places before a character of a set, as bits from `bit` on. -/
def placesBefore (set : Ranges) (bit : Nat) : List Char → Nat
  | [] => 0
  | c :: cs => (if set.mem c then bit else 0) ||| placesBefore set (2 * bit) cs

/-- The places where a condition holds, as bits from `bit` on. -/
def placesWhere (l : Look) (bit : Nat) (before : Option Char) : List Char → Nat
  | [] => if l.holds before none then bit else 0
  | c :: cs =>
    (if l.holds before (some c) then bit else 0) ||| placesWhere l (2 * bit) (some c) cs

/-- Applies a function a number of times, or until nothing changes any more. -/
def iterate (f : Nat → Nat) : Nat → Nat → Nat
  | 0, s => s
  | n + 1, s => let t := f s; if t = s then s else iterate f n t

/-- The places that any number of applications up to `n` reach, the given places included. -/
def reach (f : Nat → Nat) : Nat → Nat → Nat
  | 0, s => s
  | n + 1, s => let t := s ||| f s; if t = s then s else reach f n t

/-- The places where a match may end that begins at one of the given places. -/
def Expr.ends (text : List Char) : Expr → Nat → Nat
  | empty, s => s
  | chars set, s => 2 * (s &&& placesBefore set 1 text)
  | look l, s => s &&& placesWhere l 1 none text
  | seq a b, s => b.ends text (a.ends text s)
  | choice a b, s => a.ends text s ||| b.ends text s
  | repeated body least most, s =>
    let start := iterate (body.ends text) least s
    match most with
    | none => reach (body.ends text) (text.length + 1) start
    | some m => reach (body.ends text) (m - least) start
  | capture body, s => body.ends text s

/-- Whether the expression matches some part of a text. -/
def Expr.occursIn (e : Expr) (text : List Char) : Bool :=
  e.ends text (Nat.pow 2 (text.length + 1) - 1) != 0

/-- Whether the expression matches a text as a whole. -/
def Expr.matchesAll (e : Expr) (text : List Char) : Bool :=
  (e.ends text 1).testBit text.length

/-! ## Cost -/

/-- Whether the expression matches nothing but the empty text. -/
def Expr.isWidthless : Expr → Bool
  | empty => true
  | chars _ => false
  | look _ => true
  | seq a b => a.isWidthless && b.isWidthless
  | choice a b => a.isWidthless && b.isWidthless
  | repeated body _ most => body.isWidthless || most == some 0
  | capture body => body.isWidthless

/-- The bytes that one state of a machine takes. -/
def stateCost : Nat := 32

/-- The cost of a set of characters: a state for each byte of a single character, one state for
ASCII characters, and otherwise some more for each range. -/
def setCost (r : Ranges) : Nat :=
  match r.pairs with
  | [(a, b)] =>
    if a = b then
      stateCost * (if a < 0x80 then 1 else if a < 0x800 then 2 else if a < 0x10000 then 3 else 4)
    else if b < 0x80 then stateCost else 10 * stateCost
  | ps => if r.isAscii then stateCost + 8 * ps.length else 10 * stateCost + 26 * ps.length

/-- The bytes that a machine for the expression takes. A repetition takes a copy of its body for
each time it may be run; what matches the empty text only is not run twice. -/
def Expr.cost : Expr → Nat
  | empty => stateCost
  | chars set => setCost set
  | look _ => stateCost
  | seq a b => a.cost + b.cost
  | choice a b => a.cost + b.cost + stateCost + 8
  | repeated body least most =>
    let (least, most) :=
      if body.isWidthless then (min least 1, some (min (most.getD 1) 1)) else (least, most)
    match most with
    | none => max least 1 * body.cost + stateCost + 8
    | some m => least * body.cost + (m - least) * (body.cost + stateCost + 8)
  | capture body => body.cost + 2 * stateCost

/-- The largest cost that is accepted. -/
def maxCost : Nat := 10 * Nat.pow 2 20

end Provision.Pattern
