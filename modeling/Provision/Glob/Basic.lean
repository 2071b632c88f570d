/-!
# Globs

A glob is a pattern for paths: a row of tokens, some of which stand for characters within one name
and some for whole names. A path is matched as a whole.
-/

namespace Provision.Glob

/-- A member of a class: the characters from the first to the last. -/
structure Span where
  first : Char
  last : Char
  deriving Repr, BEq, DecidableEq

/-- A token of a glob: a text, a slash, one or any number of characters of a name, any number of
names, a class of characters, a choice of globs, or a glob that is repeated. A `tree` is rooted if
a slash stands before it. -/
inductive Token where
  | literal (text : List Char) (ignoreCase : Bool)
  | slash
  | one
  | many
  | tree (rooted : Bool)
  | oneOf (negated : Bool) (spans : List Span)
  | choice (branches : List (List Token))
  | repeated (body : List Token) (least : Nat) (most : Option Nat)
  deriving Inhabited

namespace Token

/-- Whether a token separates names. -/
def isBoundary : Token → Bool
  | slash => true
  | tree _ => true
  | _ => false

/-- Whether a token stands for any number of characters. -/
def isMany : Token → Bool
  | many => true
  | _ => false

mutual

/-- Whether a token, or one that it begins with, satisfies a condition. -/
def begins (p : Token → Bool) : Token → Bool
  | choice branches => p (choice branches) || branchesBegin p branches
  | repeated body least most => p (repeated body least most) || rowBegins p body
  | t => p t

/-- Whether the first token of a row, or one that it begins with, satisfies a condition. -/
def rowBegins (p : Token → Bool) : List Token → Bool
  | [] => false
  | t :: _ => begins p t

/-- Whether one of some branches begins with a token that satisfies a condition. -/
def branchesBegin (p : Token → Bool) : List (List Token) → Bool
  | [] => false
  | b :: bs => rowBegins p b || branchesBegin p bs

end

mutual

/-- Whether a token, or one that it ends with, satisfies a condition. -/
def finishes (p : Token → Bool) : Token → Bool
  | choice branches => p (choice branches) || branchesFinish p branches
  | repeated body least most => p (repeated body least most) || rowFinishes p body
  | t => p t

/-- Whether the last token of a row, or one that it ends with, satisfies a condition. -/
def rowFinishes (p : Token → Bool) : List Token → Bool
  | [] => false
  | t :: ts => if ts.isEmpty then finishes p t else rowFinishes p ts

/-- Whether one of some branches ends with a token that satisfies a condition. -/
def branchesFinish (p : Token → Bool) : List (List Token) → Bool
  | [] => false
  | b :: bs => rowFinishes p b || branchesFinish p bs

end

end Token

end Provision.Glob
