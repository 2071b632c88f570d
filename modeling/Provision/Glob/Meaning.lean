import Provision.Glob.Reader
import Provision.Glob.Rules
import Provision.Pattern.Compile

/-!
# What a glob matches

A glob is a pattern over the characters of a path. Where a tree stands decides which slashes it
takes: between two names it takes at least one, at an end of the glob it need not, and alone it
matches everything. In a group the place of the outermost group counts, too. A class never matches
a slash, except by negation of a set without one.

`Glob.ofText` reads a glob, and `Glob.isMatch` matches it against a whole path.
-/

namespace Provision

/-- A glob that can be matched. -/
structure Glob where
  tokens : List Glob.Token
  expr : Pattern.Expr

namespace Glob

open Pattern (Ast)

/-- Where a token stands in its row. -/
inductive Position where
  | first | middle | last | only
  deriving DecidableEq

/-- The place of a token, from whether something stands before and after it. -/
def Position.of (before after : Bool) : Position :=
  match before, after with
  | false, true => first
  | true, true => middle
  | true, false => last
  | false, false => only

/-- A character. -/
def character (c : Char) : Ast := .literal ⟨c, false⟩

/-- A slash. -/
def slashAst : Ast := character '/'

/-- A slash that may be missing. -/
def optionalSlash : Ast := .repeated slashAst 0 (some 1)

/-- Any character but a slash. -/
def notSlash : Ast := .bracket true (.union [.char ⟨'/', false⟩])

/-- Any text on one line. -/
def anyText : Ast := .repeated .dot 0 none

/-- A tree between two names. -/
def innerTree : Ast := .group [] (.alternation [slashAst, .concat [slashAst, anyText, slashAst]])

/-- A tree at its place; `outer` is the place of the outermost group around it. -/
def treeAst (outer : Option Position) (rooted : Bool) : Position → Ast
  | .first =>
    if outer = some .middle || outer = some .last then innerTree
    else if rooted then .concat [slashAst, anyText, optionalSlash]
    else .group [] (.alternation [optionalSlash, .concat [anyText, slashAst]])
  | .middle => innerTree
  | .last =>
    if outer = some .first || outer = some .middle then innerTree
    else .group [] (.alternation [optionalSlash, .concat [slashAst, anyText]])
  | .only => anyText

/-- A member of a class. -/
def Span.item (s : Span) : Pattern.ClassItem :=
  if s.first = s.last then .char ⟨s.first, false⟩ else .range ⟨s.first, false⟩ ⟨s.last, false⟩

/-- A class: its members that are no slash, or what is not among these. A class with a member that
is no range matches nothing. -/
def classAst (negated : Bool) (spans : List Span) : Ast :=
  if spans.all fun s => s.first ≤ s.last then
    .bracket negated (.combine .intersection (.union (spans.map Span.item))
      (.union [.nested true (.union [.char ⟨'/', false⟩])]))
  else .bracket true (.union [.range ⟨'\x00', false⟩ ⟨Char.ofNat 0x10FFFF, false⟩])

mutual

/-- The parts of a row of tokens; `before` says that a token stands before it. -/
def rowAst (outer : Option Position) (before : Bool) : List Token → List Ast
  | [] => []
  | t :: rest =>
    tokenAst outer (Position.of before (!rest.isEmpty)) t ++ rowAst outer true rest

/-- The parts of a token at its place. -/
def tokenAst (outer : Option Position) (place : Position) : Token → List Ast
  | .literal text ignoreCase => .flags [(.ignoreCase, ignoreCase)] :: text.map character
  | .slash => [slashAst]
  | .one => [notSlash]
  | .many => [.repeated notSlash 0 none]
  | .tree rooted => [treeAst outer rooted place]
  | .oneOf negated spans => [classAst negated spans]
  | .choice branches =>
    [.group [] (Ast.ofBranches (branchAsts (outer <|> some place) branches))]
  | .repeated body least most =>
    [.group [] (.repeated (.group [] (Ast.ofParts (rowAst (outer <|> some place) false body)))
      least most)]

/-- The branches of a choice. -/
def branchAsts (outer : Option Position) : List (List Token) → List Ast
  | [] => []
  | b :: bs => .group [] (Ast.ofParts (rowAst outer false b)) :: branchAsts outer bs

end

/-- The pattern of a row of tokens. -/
def ast (ts : List Token) : Ast := Ast.ofParts (rowAst none false ts)

/-- Why a text is no glob. -/
abbrev Problem := String

/-- Reads a glob, or says why the text is none. -/
def ofText (text : String) : Except Problem Glob := do
  match tokens? text.toList with
  | none => throw "the pattern does not have the form of a glob"
  | some ts =>
    if !isSound ts then throw "the parts of the pattern do not fit together"
    let pattern := ast ts
    if Pattern.maxDepth < pattern.depth then throw "the pattern nests too deeply"
    return ⟨ts, ← pattern.compile⟩

/-- Whether a glob matches a path. -/
def isMatch (g : Glob) (path : String) : Bool := g.expr.matchesAll path.toList

end Glob

end Provision
