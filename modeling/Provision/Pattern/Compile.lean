import Provision.Pattern.Expr
import Provision.Pattern.Reader
import Provision.Unicode.Script
import Provision.Unicode.Age
import Provision.Unicode.CaseFolding

/-!
# From the form of a pattern to its meaning

`Ast.compile` resolves the classes and properties of a pattern under the flags that hold at each
place. Without the flag `u` a class is a set of bytes, and a pattern that could match a byte that
is no character by itself is refused, as are properties.
-/

namespace Provision.Pattern

open Provision.Unicode

/-- The flags that hold at a place. -/
structure Flags where
  ignoreCase : Bool
  multiLine : Bool
  dotAll : Bool
  unicode : Bool
  crlf : Bool

namespace Flags

/-- The flags that a pattern begins with. -/
def initial : Flags := ⟨false, false, false, true, false⟩

/-- The flags after one change. -/
def set (f : Flags) : Flag × Bool → Flags
  | (.ignoreCase, on) => { f with ignoreCase := on }
  | (.multiLine, on) => { f with multiLine := on }
  | (.dotAll, on) => { f with dotAll := on }
  | (.unicode, on) => { f with unicode := on }
  | (.crlf, on) => { f with crlf := on }
  | (.swapGreed, _) => f
  | (.spaced, _) => f

/-- The flags after some changes. -/
def change (f : Flags) (changes : FlagChanges) : Flags := changes.foldl set f

/-- What is not in a set of characters or bytes. -/
def complement (f : Flags) (r : Ranges) : Ranges :=
  if f.unicode then r.complement else r.complement.inter (Ranges.span 0 0xFF)

/-- The other case of ASCII letters. -/
def asciiClosure (r : Ranges) : Ranges :=
  let letters (first : Nat) := r.inter (Ranges.span first (first + 25))
  let shift (by' : Int) (r : Ranges) : Ranges :=
    Ranges.ofPairs (r.pairs.map fun p => ((p.1 + by').toNat, (p.2 + by').toNat))
  r.union ((shift 32 (letters 0x41)).union (shift (-32) (letters 0x61)))

/-- A set together with the other case of its members, if case is ignored. -/
def fold (f : Flags) (r : Ranges) : Ranges :=
  if !f.ignoreCase then r else if f.unicode then foldClosure r else asciiClosure r

end Flags

/-! ## Properties -/

/-- The name of a property or a value without case, spaces, hyphens, underscores and a leading
"is"; the one name that this would make ambiguous keeps its beginning. -/
def plainName (name : String) : String :=
  let cs := name.toList
  let starts := (cs.take 2).map Char.toLower == ['i', 's']
  let kept := ((if starts then cs.drop 2 else cs).filter fun c =>
    c != ' ' && c != '_' && c != '-' && c.toNat < 0x80).map Char.toLower
  if starts && kept == ['c'] then "isc" else String.ofList kept

/-- The characters that a property names: a property itself, a category or a script. -/
def namedProperty? (name : String) : Option Ranges :=
  let name := plainName name
  let own := if name == "cf" || name == "sc" || name == "lc" then none else property? name
  (own <|> category? name) <|> script? name

/-- The characters with a value of a property. -/
def valuedProperty? (property value : String) : Option Ranges :=
  let value := plainName value
  match plainName property with
  | "gc" | "generalcategory" => category? value
  | "sc" | "script" => script? value
  | "scx" | "scriptextensions" => extendedScript? value
  | "age" => assignedBy? value
  | _ => none

/-- The characters a property asks for, if it is known. -/
def Query.ranges? : Query → Option Ranges
  | .name p => namedProperty? p
  | .value p v => valuedProperty? p v

/-- The characters a property asks for. -/
def Query.ranges (q : Query) : Except Problem Ranges :=
  match q.ranges? with
  | some r => .ok r
  | none => .error "an unknown property"

/-! ## Classes -/

/-- The ASCII characters of a named class. -/
def NamedClass.ranges (c : NamedClass) : Ranges :=
  Ranges.ofPairs <| match c with
  | .alnum => [(0x30, 0x39), (0x41, 0x5A), (0x61, 0x7A)]
  | .alpha => [(0x41, 0x5A), (0x61, 0x7A)]
  | .ascii => [(0, 0x7F)]
  | .blank => [(0x09, 0x09), (0x20, 0x20)]
  | .cntrl => [(0, 0x1F), (0x7F, 0x7F)]
  | .digit => [(0x30, 0x39)]
  | .graph => [(0x21, 0x7E)]
  | .lower => [(0x61, 0x7A)]
  | .print => [(0x20, 0x7E)]
  | .punct => [(0x21, 0x2F), (0x3A, 0x40), (0x5B, 0x60), (0x7B, 0x7E)]
  | .space => [(0x09, 0x0D), (0x20, 0x20)]
  | .upper => [(0x41, 0x5A)]
  | .word => [(0x30, 0x39), (0x41, 0x5A), (0x5F, 0x5F), (0x61, 0x7A)]
  | .xdigit => [(0x30, 0x39), (0x41, 0x46), (0x61, 0x66)]

/-- A set that may be used under the flags: without `u` it has to be of ASCII characters. -/
def checked (f : Flags) (r : Ranges) : Except Problem Ranges :=
  if f.unicode || r.isAscii then .ok r else .error "the pattern may match a part of a character"

/-- The characters of a class that a letter names. -/
def LetterClass.ranges (f : Flags) (c : LetterClass) (negated : Bool) : Except Problem Ranges :=
  let r := if f.unicode then
    match c with
    | .digit => leafCategory "nd"
    | .space => rowNamed properties "whitespace"
    | .word => wordChars
  else match c with
    | .digit => NamedClass.digit.ranges
    | .space => NamedClass.space.ranges
    | .word => asciiWordChars
  checked f (if negated then f.complement r else r)

/-- The characters with a property, under the flags. -/
def propertyRanges (f : Flags) (q : Query) (negated : Bool) : Except Problem Ranges := do
  if !f.unicode then throw "a property without Unicode"
  let r := f.fold (← q.ranges)
  return if negated then f.complement r else r

/-- The number of a character in a class: a byte if there are only bytes, and then one that is not
ASCII has to be written as a byte. -/
def literalNumber (f : Flags) (l : Literal) : Except Problem Nat :=
  if f.unicode || l.char.toNat < 0x80 then .ok l.char.toNat
  else if l.byte then .error "the pattern may match a part of a character"
  else .error "a character without Unicode"

/-- The result of an operation of two sets. -/
def SetOp.apply (op : SetOp) (r s : Ranges) : Ranges :=
  match op with
  | .intersection => r.inter s
  | .difference => r.diff s
  | .symmetricDifference => r.symmDiff s

mutual

/-- The characters of a member of a class. -/
def ClassItem.ranges (f : Flags) : ClassItem → Except Problem Ranges
  | .char l => do
    let n ← literalNumber f l
    return Ranges.ofPairs [(n, n)]
  | .range first last => do
    let lo ← literalNumber f first
    let hi ← literalNumber f last
    return Ranges.ofPairs [(lo, hi)]
  | .named c negated =>
    return (let r := f.fold c.ranges; if negated then f.complement r else r)
  | .letter c negated => c.ranges f negated
  | .property q negated => propertyRanges f q negated
  | .nested negated set => do
    let r := f.fold (← set.ranges f)
    checked f (if negated then f.complement r else r)

/-- The characters of a class's content. -/
def ClassSet.ranges (f : Flags) : ClassSet → Except Problem Ranges
  | .union items => return Ranges.unions (← itemRanges f items)
  | .combine op left right => do
    let l ← left.ranges f
    let r ← right.ranges f
    return op.apply (f.fold l) (f.fold r)

/-- The characters of each member. -/
def itemRanges (f : Flags) : List ClassItem → Except Problem (List Ranges)
  | [] => return []
  | item :: items => do
    let r ← item.ranges f
    return r :: (← itemRanges f items)

end

/-! ## Patterns -/

/-- A character under the flags. -/
def Literal.compile (f : Flags) (l : Literal) : Except Problem Expr := do
  if !f.unicode && l.byte && 0x80 ≤ l.char.toNat then
    throw "the pattern may match a part of a character"
  return .chars (f.fold (Ranges.single l.char))

/-- The characters a dot stands for. -/
def dot (f : Flags) : Except Problem Expr := do
  if !f.unicode then throw "the pattern may match a part of a character"
  let excluded := if f.dotAll then [] else if f.crlf then [(0x0A, 0x0A), (0x0D, 0x0D)]
    else [(0x0A, 0x0A)]
  return .chars (Ranges.ofPairs excluded).complement

/-- The condition of an assertion under the flags. -/
def Anchor.look (f : Flags) : Anchor → Look
  | .lineStart => if !f.multiLine then .textStart else if f.crlf then .lineStartCrlf else .lineStart
  | .lineEnd => if !f.multiLine then .textEnd else if f.crlf then .lineEndCrlf else .lineEnd
  | .textStart => .textStart
  | .textEnd => .textEnd
  | .wordBoundary => .boundary f.unicode
  | .notWordBoundary => .notBoundary f.unicode
  | .wordStart => .wordStart f.unicode
  | .wordEnd => .wordEnd f.unicode
  | .wordStartHalf => .wordStartHalf f.unicode
  | .wordEndHalf => .wordEndHalf f.unicode

/-- A step of compiling, in which the flags may change. -/
abbrev Compile := StateT Flags (Except Problem)

mutual

/-- The meaning of a pattern under the flags that hold where it begins. A group gives the flags
their old values back. -/
def Ast.expr : Ast → Compile Expr
  | .empty => return .empty
  | .flags changes => do
    modify (·.change changes)
    return .empty
  | .literal l => do l.compile (← get)
  | .dot => do dot (← get)
  | .anchor a => return .look (a.look (← get))
  | .letter c negated => return .chars (← c.ranges (← get) negated)
  | .property q negated => return .chars (← propertyRanges (← get) q negated)
  | .bracket negated set => do
    let f ← get
    let r := f.fold (← set.ranges f)
    return .chars (← checked f (if negated then f.complement r else r))
  | .repeated body least most => return .repeated (← body.expr) least most
  | .capture body => do
    let f ← get
    let e ← body.expr
    set f
    return .capture e
  | .group changes body => do
    let f ← get
    set (f.change changes)
    let e ← body.expr
    set f
    return e
  | .alternation branches => choiceExpr branches
  | .concat parts => seqExpr parts

/-- The meaning of a sequence. -/
def seqExpr : List Ast → Compile Expr
  | [] => return .empty
  | [a] => a.expr
  | a :: as => do
    let e ← a.expr
    return .seq e (← seqExpr as)

/-- The meaning of a choice. -/
def choiceExpr : List Ast → Compile Expr
  | [] => return .empty
  | [a] => a.expr
  | a :: as => do
    let e ← a.expr
    return .choice e (← choiceExpr as)

end

/-- The meaning of a pattern, if it is not too large. -/
def Ast.compile (a : Ast) : Except Problem Expr := do
  let (e, _) ← a.expr.run Flags.initial
  if maxCost < e.cost then throw "the pattern is too large"
  return e

end Provision.Pattern

namespace Provision

/-- A pattern: its text and its meaning. -/
structure Pattern where
  source : String
  expr : Pattern.Expr
  deriving Inhabited

namespace Pattern

/-- Reads a pattern, or says why the text is none. -/
def ofText (source : String) : Except Problem Pattern := do
  let ast ← Ast.ofText source
  return ⟨source, ← ast.compile⟩

/-- Whether the pattern matches some part of a text. -/
def occursIn (p : Pattern) (text : String) : Bool := p.expr.occursIn text.toList

end Pattern

end Provision
