import Provision.Glob.Basic
import Provision.Text.Utf8

/-!
# Rules of globs

Not every row of tokens makes sense. Two boundaries may not stand next to each other, nor two tokens
for any number of characters, and this also counts between a choice or a repetition and what stands
around it. The bounds of a repetition have to be in order, and the text that a glob is sure to match
may not be too long.
-/

namespace Provision.Glob

open Token

/-- The first and the last token of a row. -/
def ends? : List Token → Option (Token × Token)
  | [] => none
  | t :: ts => some (t, (t :: ts).getLast?.getD t)

/-- Whether a row is a single token that satisfies a condition. -/
def isOnly (p : Token → Bool) : List Token → Bool
  | [t] => p t
  | _ => false

/-- Whether a token is a slash. -/
def isSlash : Token → Bool
  | .slash => true
  | _ => false

/-- Whether a token is a tree. -/
def isTree : Token → Bool
  | .tree _ => true
  | _ => false

/-- Whether a token starts at the root. -/
def isRooted : Token → Bool
  | .slash => true
  | .tree rooted => rooted
  | _ => false

/-- Whether a row begins with a token that satisfies a condition. -/
def startsIn (p : Token → Bool) (ts : List Token) : Bool := ts.head?.any p

/-- Whether a row ends with a token that satisfies a condition. -/
def stopsIn (p : Token → Bool) (ts : List Token) : Bool := ts.getLast?.any p

/-- Whether the row of a group fits between what stands on its left and on its right. -/
def fitsBetween (left right : Option Token) (ts : List Token) : Bool :=
  let boundaryLeft := left.any (finishes isBoundary)
  let boundaryRight := right.any (begins isBoundary)
  let manyLeft := left.any (finishes isMany)
  let manyRight := right.any (begins isMany)
  !((startsIn isSlash ts && boundaryLeft) || (stopsIn isSlash ts && boundaryRight) ||
    isOnly isTree ts || (startsIn isTree ts && boundaryLeft) ||
    (stopsIn isTree ts && boundaryRight) || (startsIn isMany ts && manyLeft) ||
    (stopsIn isMany ts && manyRight))

/-- Whether a row may be repeated. -/
def mayRepeat (left : Option Token) (least : Nat) (ts : List Token) : Bool :=
  !((startsIn isRooted ts && left.isNone && least == 0) ||
    (startsIn isBoundary ts && stopsIn isBoundary ts) ||
    (startsIn isMany ts && stopsIn isMany ts))

/-- Whether the bounds of a repetition are in order. -/
def boundsInOrder (least : Nat) (most : Option Nat) : Bool :=
  most.all fun m => least ≤ m && m != 0

mutual

/-- Whether the groups in a row keep the rules between their neighbours; where a row has no
neighbour, that of the group around it counts. -/
def rowFits (outerLeft outerRight before : Option Token) : List Token → Bool
  | [] => true
  | t :: rest =>
    tokenFits (before <|> outerLeft) (rest.head? <|> outerRight) t &&
      rowFits outerLeft outerRight (some t) rest

/-- Whether a group keeps the rules between its neighbours. -/
def tokenFits (left right : Option Token) : Token → Bool
  | .choice branches => branchesFit left right branches
  | .repeated body least _ =>
    fitsBetween left right body && mayRepeat left least body && rowFits left right none body
  | _ => true

/-- Whether the branches of a choice keep the rules. -/
def branchesFit (left right : Option Token) : List (List Token) → Bool
  | [] => true
  | b :: bs =>
    fitsBetween left right b && !(startsIn isRooted b && left.isNone) &&
      rowFits left right none b && branchesFit left right bs

end

mutual

/-- Whether no two boundaries are neighbours in a row, and all bounds are in order. -/
def rowInOrder (before : Option Token) : List Token → Bool
  | [] => true
  | t :: rest =>
    !(before.any isBoundary && t.isBoundary) && tokenInOrder t && rowInOrder (some t) rest

/-- Whether everything inside a token is in order. -/
def tokenInOrder : Token → Bool
  | .choice branches => branchesInOrder branches
  | .repeated body least most => boundsInOrder least most && rowInOrder none body
  | _ => true

/-- Whether all branches are in order. -/
def branchesInOrder : List (List Token) → Bool
  | [] => true
  | b :: bs => rowInOrder none b && branchesInOrder bs

end

/-- The bytes of text from which on a glob is refused. -/
def maxInvariant : Nat := 0x10000

/-- Whether the case of a character matters. -/
def hasCase (c : Char) : Bool := c.isAlpha || 0x80 ≤ c.toNat

mutual

/-- The number of bytes that a token matches, if it matches one text only. -/
def invariantSize? : Token → Option Nat
  | .literal text ignoreCase =>
    if ignoreCase && text.any hasCase then none
    else some (Text.bytesOf (String.ofList text)).length
  | .slash => some 1
  | .oneOf false [s] => if s.first = s.last then some s.first.utf8Size else none
  | .repeated body least most =>
    if most = some least then (invariantRow? body).map (· * least) else none
  | _ => none

/-- The number of bytes that a row matches, if it matches one text only. -/
def invariantRow? : List Token → Option Nat
  | [] => some 0
  | t :: ts =>
    match invariantSize? t, invariantRow? ts with
    | some a, some b => some (a + b)
    | _, _ => none

end

mutual

/-- Whether no token of a row is sure to match a text that is too long. -/
def rowIsSmall : List Token → Bool
  | [] => true
  | t :: ts => tokenIsSmall t && rowIsSmall ts

/-- Whether neither a token nor one inside it is sure to match a text that is too long. -/
def tokenIsSmall : Token → Bool
  | .choice branches => branchesAreSmall branches
  | .repeated body least most =>
    (invariantSize? (.repeated body least most)).all (· < maxInvariant) && rowIsSmall body
  | t => (invariantSize? t).all (· < maxInvariant)

/-- Whether no branch has a token that is sure to match a text that is too long. -/
def branchesAreSmall : List (List Token) → Bool
  | [] => true
  | b :: bs => rowIsSmall b && branchesAreSmall bs

end

/-- Whether a row of tokens keeps all rules. -/
def isSound (ts : List Token) : Bool :=
  rowInOrder none ts && rowFits none none none ts && rowIsSmall ts

end Provision.Glob
