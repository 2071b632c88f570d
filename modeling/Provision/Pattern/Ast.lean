/-!
# The form of a pattern

A pattern as it is written: literals, classes, assertions, groups, repetitions, alternatives, and
changes of flags, which count from where they stand to the end of the group around them.
`Ast.depth` measures how deep a pattern nests.
-/

namespace Provision.Pattern

/-- A flag that a pattern may switch on and off. -/
inductive Flag where
  | ignoreCase | multiLine | dotAll | swapGreed | unicode | crlf | spaced
  deriving BEq, DecidableEq, Repr

/-- The flags that one group changes, each with its new value. -/
abbrev FlagChanges := List (Flag × Bool)

/-- A character as it is written; `byte` if two hexadecimal digits wrote it, which may mean a byte
rather than a character. -/
structure Literal where
  char : Char
  byte : Bool
  deriving Repr

/-- The classes that a single letter names. -/
inductive LetterClass where
  | digit | space | word
  deriving Repr

/-- The classes that a name between colons names. -/
inductive NamedClass where
  | alnum | alpha | ascii | blank | cntrl | digit | graph | lower | print | punct | space | upper
  | word | xdigit
  deriving Repr

/-- How a property of characters is asked for. -/
inductive Query where
  | name (text : String)
  | value (property value : String)
  deriving Repr

/-- An operation of two sets of characters. -/
inductive SetOp where
  | intersection | difference | symmetricDifference
  deriving Repr

mutual

/-- A member of a bracketed class. -/
inductive ClassItem where
  | char (l : Literal)
  | range (first last : Literal)
  | named (c : NamedClass) (negated : Bool)
  | letter (c : LetterClass) (negated : Bool)
  | property (q : Query) (negated : Bool)
  | nested (negated : Bool) (set : ClassSet)

/-- The content of a bracketed class. -/
inductive ClassSet where
  | union (items : List ClassItem)
  | combine (op : SetOp) (left right : ClassSet)

end

/-- An assertion about the place between two characters. -/
inductive Anchor where
  | lineStart | lineEnd | textStart | textEnd
  | wordBoundary | notWordBoundary | wordStart | wordEnd | wordStartHalf | wordEndHalf
  deriving Repr

/-- A pattern as it is written. -/
inductive Ast where
  | empty
  | flags (changes : FlagChanges)
  | literal (l : Literal)
  | dot
  | anchor (a : Anchor)
  | letter (c : LetterClass) (negated : Bool)
  | property (q : Query) (negated : Bool)
  | bracket (negated : Bool) (set : ClassSet)
  | repeated (body : Ast) (least : Nat) (most : Option Nat)
  | capture (body : Ast)
  | group (changes : FlagChanges) (body : Ast)
  | alternation (branches : List Ast)
  | concat (parts : List Ast)

/-! ## Depth -/

mutual

/-- The depth of a member of a class. -/
def ClassItem.depth : ClassItem → Nat
  | .nested _ set => set.depth + 1
  | _ => 0

/-- The depth of a class's content. A union of several members is a level of its own. -/
def ClassSet.depth : ClassSet → Nat
  | .union [] => 0
  | .union [item] => item.depth
  | .union (a :: b :: items) => max (max a.depth b.depth) (itemsDepth items) + 1
  | .combine _ left right => max left.depth right.depth + 1

/-- The greatest depth of some members. -/
def itemsDepth : List ClassItem → Nat
  | [] => 0
  | item :: items => max item.depth (itemsDepth items)

end

mutual

/-- How many classes, repetitions, groups, alternations and sequences lie within each other. -/
def Ast.depth : Ast → Nat
  | .bracket _ set => set.depth + 1
  | .repeated body _ _ => body.depth + 1
  | .capture body => body.depth + 1
  | .group _ body => body.depth + 1
  | .alternation branches => astsDepth branches + 1
  | .concat parts => astsDepth parts + 1
  | _ => 0

/-- The greatest depth of some parts. -/
def astsDepth : List Ast → Nat
  | [] => 0
  | a :: as => max a.depth (astsDepth as)

end

/-- A sequence of parts; one part stands for itself. -/
def Ast.ofParts : List Ast → Ast
  | [] => .empty
  | [part] => part
  | parts => .concat parts

/-- A choice of branches; one branch stands for itself. -/
def Ast.ofBranches : List Ast → Ast
  | [branch] => branch
  | branches => .alternation branches

end Provision.Pattern
