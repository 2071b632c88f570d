import Provision.Pattern.Ast
import Provision.Text.Blank
import Provision.Json.Reader
import Provision.Unicode.Category
import Provision.Unicode.Property

/-!
# Reading patterns

`Ast.ofText` reads a pattern. The syntax is the common one without look-around and without
references to earlier groups. With the flag `x`, white space and comments between the parts are
skipped, inside classes, too.

The functions that read classes, groups and sequences call each other. Their first argument bounds
the calls; every call but a fixed number consumes a character.
-/

namespace Provision.Pattern

/-- Why a text is no pattern. -/
abbrev Problem := String

/-- The state of reading a pattern: the text left, whether white space is skipped, and the names of
the groups so far. -/
structure Reader where
  rest : List Char
  spaced : Bool
  names : List String

/-- A step of reading a pattern. -/
abbrev Read := StateT Reader (Except Problem)

namespace Read

/-- The next character. -/
def peek : Read (Option Char) := return (← get).rest.head?

/-- Skips a character. -/
def skip : Read Unit := modify fun r => { r with rest := r.rest.drop 1 }

/-- A text without the white space and the comments it begins with. -/
def dropSpace (bound : Nat) (cs : List Char) : List Char :=
  match bound, cs with
  | n + 1, c :: rest =>
    if Text.isSpace c then dropSpace n rest
    else if c == '#' then dropSpace n (rest.dropWhile (· != '\n'))
    else c :: rest
  | _, cs => cs

/-- Skips white space and comments if the flag for that is set. -/
def space : Read Unit :=
  modify fun r => if r.spaced then { r with rest := dropSpace r.rest.length r.rest } else r

/-- Skips a character and the space after it, and returns the next character. -/
def advance : Read (Option Char) := do
  skip
  space
  peek

/-- The next character, which has to be there. -/
def need (p : Problem) (c : Option Char) : Read Char :=
  match c with
  | some c => return c
  | none => throw p

/-- The character after the next one, with the space between them skipped. -/
def second : Read (Option Char) :=
  return match (← get) with
    | ⟨_ :: rest, spaced, _⟩ => (if spaced then dropSpace rest.length rest else rest).head?
    | _ => none

/-- Skips a text if it comes next. -/
def skipText (s : String) : Read Bool := do
  let r ← get
  let n := s.toList.length
  if r.rest.take n == s.toList then
    set { r with rest := r.rest.drop n }
    return true
  else return false

/-! ## Escapes -/

/-- What an escape, or a single character, stands for. -/
inductive Primitive where
  | literal (l : Literal)
  | dot
  | anchor (a : Anchor)
  | letter (c : LetterClass) (negated : Bool)
  | property (q : Query) (negated : Bool)

/-- The characters that mean something in patterns, all of which may be escaped. -/
def isMeta (c : Char) : Bool := "\\.+*?()|[]\x7b\x7d^$#&-~".toList.contains c

/-- The characters without meaning that may be escaped, too. -/
def isEscapable (c : Char) : Bool :=
  isMeta c || (c.toNat < 0x80 && !c.isAlphanum && c != '<' && c != '>')

/-- The character of a code point. -/
def charOf (n : Nat) : Read Char :=
  if h : n.isValidChar then return Char.ofNatAux n h else throw "a number of no character"

/-- A number of hexadecimal digits, each followed by what may be skipped. -/
def hexDigits (count : Nat) (value : Nat) (c : Option Char) : Read Nat :=
  match count with
  | 0 => return value
  | n + 1 => do
    let c ← need "an escape ends early" c
    let some d := Provision.Json.hexDigit? c | throw "no hexadecimal digit"
    let next ← advance
    hexDigits n (value * 16 + d) next

/-- Hexadecimal digits up to the closing brace. -/
def braceDigits (bound : Nat) (digits value : Nat) (c : Option Char) : Read Nat :=
  match bound with
  | 0 => throw "an escape ends early"
  | n + 1 => do
    let c ← need "an escape ends early" c
    if c == '\x7d' then
      discard advance
      if digits == 0 then throw "an escape lacks its digits"
      return value
    let some d := Provision.Json.hexDigit? c | throw "no hexadecimal digit"
    -- Beyond the last code point the value no longer matters.
    braceDigits n (digits + 1) (min (value * 16 + d) 0x1000000) (← advance)

/-- A character written by its number; the cursor is at the letter that says how. -/
def hexEscape (letter : Char) : Read Primitive := do
  let count := if letter == 'x' then 2 else if letter == 'u' then 4 else 8
  let c ← need "an escape ends early" (← advance)
  if c == '\x7b' then
    let n ← braceDigits ((← get).rest.length + 1) 0 0 (← advance)
    return .literal ⟨← charOf n, false⟩
  else
    let n ← hexDigits count 0 (some c)
    return .literal ⟨← charOf n, letter == 'x'⟩

/-- The text up to the closing brace, without the skipped space. -/
def braceText (bound : Nat) (read : List Char) (c : Option Char) : Read (List Char) :=
  match bound with
  | 0 => throw "a property does not end"
  | n + 1 => do
    let c ← need "a property does not end" c
    if c == '\x7d' then
      skip
      return read.reverse
    braceText n (c :: read) (← advance)

/-- Cuts a text at the first occurrence of another one. -/
def cutAt (mark : List Char) : List Char → Option (List Char × List Char)
  | [] => none
  | c :: cs =>
    if (c :: cs).take mark.length == mark then some ([], (c :: cs).drop mark.length)
    else (cutAt mark cs).map fun (a, b) => (c :: a, b)

/-- What a property in braces asks for. -/
def queryOf (text : List Char) : Query :=
  match cutAt ['!', '='] text with
  | some (p, v) => .value (String.ofList p) (String.ofList v)
  | none =>
    match cutAt [':'] text with
    | some (p, v) => .value (String.ofList p) (String.ofList v)
    | none =>
      match cutAt ['='] text with
      | some (p, v) => .value (String.ofList p) (String.ofList v)
      | none => .name (String.ofList text)

/-- A class of characters with a property; the cursor is at the letter `p`. -/
def propertyEscape (negated : Bool) : Read Primitive := do
  let c ← need "a property is missing" (← advance)
  if c == '\x7b' then
    let text ← braceText ((← get).rest.length + 1) [] (← advance)
    return .property (queryOf text) negated
  else if c == '\\' then throw "a property is missing"
  else
    discard advance
    return .property (.name (String.singleton c)) negated

/-- The letters and hyphens of a kind of word boundary. -/
def boundaryName (bound : Nat) (read : List Char) (c : Option Char) :
    Read (List Char × Option Char) :=
  match bound with
  | 0 => return (read.reverse, c)
  | n + 1 => do
    match c with
    | some x =>
      if x.isAlpha || x == '-' then boundaryName n (x :: read) (← advance)
      else return (read.reverse, c)
    | none => return (read.reverse, c)

/-- The kind of a word boundary in braces, if what is in the braces begins like one; otherwise the
braces are left for a repetition. -/
def boundaryKind : Read Anchor := do
  let before := (← get).rest
  let c ← need "a word boundary does not end" (← advance)
  if !(c.isAlpha || c == '-') then
    modify fun r => { r with rest := before }
    return .wordBoundary
  let (name, c) ← boundaryName ((← get).rest.length + 1) [] (some c)
  if c != some '\x7d' then throw "a word boundary does not end"
  skip
  match String.ofList name with
  | "start" => return .wordStart
  | "end" => return .wordEnd
  | "start-half" => return .wordStartHalf
  | "end-half" => return .wordEndHalf
  | _ => throw "an unknown word boundary"

/-- An escape; the cursor is at its backslash. -/
def escape : Read Primitive := do
  skip
  let c ← need "an escape ends early" (← peek)
  let literal (c : Char) : Read Primitive := return .literal ⟨c, false⟩
  if c.isDigit then throw "no references to groups"
  match c with
  | 'x' | 'u' | 'U' => hexEscape c
  | 'p' => propertyEscape false
  | 'P' => propertyEscape true
  | _ =>
    skip
    match c with
    | 'd' => return .letter .digit false
    | 'D' => return .letter .digit true
    | 's' => return .letter .space false
    | 'S' => return .letter .space true
    | 'w' => return .letter .word false
    | 'W' => return .letter .word true
    | 'a' => literal '\x07'
    | 'f' => literal '\x0c'
    | 't' => literal '\t'
    | 'n' => literal '\n'
    | 'r' => literal '\r'
    | 'v' => literal '\x0b'
    | 'A' => return .anchor .textStart
    | 'z' => return .anchor .textEnd
    | 'b' =>
      if (← peek) == some '\x7b' then return .anchor (← boundaryKind)
      else return .anchor .wordBoundary
    | 'B' => return .anchor .notWordBoundary
    | '<' => return .anchor .wordStart
    | '>' => return .anchor .wordEnd
    | c => if isEscapable c then literal c else throw "an unknown escape"

/-! ## Classes -/

/-- A member of a class or one end of a range. -/
def classPrimitive : Read Primitive := do
  match ← peek with
  | some '\\' => escape
  | some c => skip; return .literal ⟨c, false⟩
  | none => throw "a class does not end"

/-- A primitive as a member of a class. -/
def memberOf : Primitive → Read ClassItem
  | .literal l => return .char l
  | .letter c negated => return .letter c negated
  | .property q negated => return .property q negated
  | _ => throw "an assertion in a class"

/-- A primitive as one end of a range. -/
def rangeEnd : Primitive → Read Literal
  | .literal l => return l
  | _ => throw "a class is no end of a range"

/-- A member of a class: a range, or a single primitive. A hyphen before the closing bracket or
before another hyphen makes no range. -/
def classRange : Read ClassItem := do
  let first ← classPrimitive
  space
  let c ← need "a class does not end" (← peek)
  let after ← second
  if c != '-' || after == some ']' || after == some '-' then return ← memberOf first
  discard (need "a class does not end" (← advance))
  let last ← classPrimitive
  let lo ← rangeEnd first
  let hi ← rangeEnd last
  if hi.char < lo.char then throw "a range runs backwards"
  return .range lo hi

/-- The named classes. -/
def namedClass? (name : String) : Option NamedClass :=
  match name with
  | "alnum" => some .alnum
  | "alpha" => some .alpha
  | "ascii" => some .ascii
  | "blank" => some .blank
  | "cntrl" => some .cntrl
  | "digit" => some .digit
  | "graph" => some .graph
  | "lower" => some .lower
  | "print" => some .print
  | "punct" => some .punct
  | "space" => some .space
  | "upper" => some .upper
  | "word" => some .word
  | "xdigit" => some .xdigit
  | _ => none

/-- A named class, if one comes next. -/
def namedItem : Read (Option ClassItem) := do
  let r ← get
  match r.rest with
  | '[' :: ':' :: rest =>
    let (negated, rest) := match rest with
      | '^' :: rest => (true, rest)
      | rest => (false, rest)
    let name := rest.takeWhile (· != ':')
    match rest.dropWhile (· != ':'), namedClass? (String.ofList name) with
    | ':' :: ']' :: rest, some c =>
      set { r with rest := rest }
      return some (.named c negated)
    | _, _ => return none
  | _ => return none

/-- The hyphens that a class may begin with. -/
def hyphens (bound : Nat) (read : List ClassItem) : Read (List ClassItem) :=
  match bound with
  | 0 => return read
  | n + 1 => do
    if (← peek) == some '-' then
      discard (need "a class does not end" (← advance))
      hyphens n (.char ⟨'-', false⟩ :: read)
    else return read

/-- The members read so far, as the right side of the operation before them. -/
def closeOp (pending : Option (SetOp × ClassSet)) (items : List ClassItem) : ClassSet :=
  match pending with
  | some (op, left) => .combine op left (.union items.reverse)
  | none => .union items.reverse

mutual

/-- A class; the cursor is at its opening bracket. -/
def classFrom (bound : Nat) : Read (Bool × ClassSet) :=
  match bound with
  | 0 => throw "a class does not end"
  | n + 1 => do
    let c ← need "a class does not end" (← advance)
    let negated := c == '^'
    if negated then discard (need "a class does not end" (← advance))
    let items ← hyphens (← get).rest.length []
    if items.isEmpty && (← peek) == some ']' then
      discard (need "a class does not end" (← advance))
      return (negated, ← classItems n none [.char ⟨']', false⟩])
    else return (negated, ← classItems n none items)

/-- The members of a class up to its closing bracket. -/
def classItems (bound : Nat) (pending : Option (SetOp × ClassSet)) (items : List ClassItem) :
    Read ClassSet :=
  match bound with
  | 0 => throw "a class does not end"
  | n + 1 => do
    space
    let c ← need "a class does not end" (← peek)
    let follower := ((← get).rest.drop 1).head?
    if c == '[' then
      match ← namedItem with
      | some item => classItems n pending (item :: items)
      | none => do
        let (negated, set) ← classFrom n
        classItems n pending (.nested negated set :: items)
    else if c == ']' then
      skip
      return closeOp pending items
    else if c == '&' && follower == some '&' then
      skip; skip
      classItems n (some (.intersection, closeOp pending items)) []
    else if c == '-' && follower == some '-' then
      skip; skip
      classItems n (some (.difference, closeOp pending items)) []
    else if c == '~' && follower == some '~' then
      skip; skip
      classItems n (some (.symmetricDifference, closeOp pending items)) []
    else do
      let item ← classRange
      classItems n pending (item :: items)

end

/-! ## Repetitions, groups and sequences -/

/-- The part that a repetition repeats. -/
def repeatable : List Ast → Read (Ast × List Ast)
  | .empty :: _ | .flags _ :: _ | [] => throw "a repetition repeats nothing"
  | a :: rest => return (a, rest)

/-- Digits, each followed by what may be skipped. -/
def digits (bound : Nat) (read : List Char) : Read (List Char) :=
  match bound with
  | 0 => return read.reverse
  | n + 1 => do
    match ← peek with
    | some c =>
      if c.isDigit then
        discard advance
        digits n (c :: read)
      else return read.reverse
    | none => return read.reverse

/-- Skips white space, whatever the flags say. -/
def blanks : Read Unit :=
  modify fun r => { r with rest := r.rest.dropWhile Text.isSpace }

/-- A number of repetitions, if there is one; it has to fit 32 bits. -/
def count? : Read (Option Nat) := do
  blanks
  let ds ← digits (← get).rest.length []
  blanks
  space
  if ds.isEmpty then return none
  let n := Provision.Json.digitsValue ds
  if Nat.pow 2 32 ≤ n then throw "a repetition count is too large"
  return some n

/-- The bounds of a repetition in braces; the cursor is at the opening brace. -/
def bounds : Read (Nat × Option Nat) := do
  discard (need "a repetition does not end" (← advance))
  let least ← count?
  let c ← need "a repetition does not end" (← peek)
  let some least := least | throw "a repetition lacks its count"
  let most ←
    if c == ',' then
      let c ← need "a repetition does not end" (← advance)
      if c == '\x7d' then pure none
      else
        match ← count? with
        | some most => pure (some most)
        | none => throw "a repetition lacks its count"
    else pure (some least)
  if (← peek) != some '\x7d' then throw "a repetition does not end"
  if most.any (· < least) then throw "a repetition runs backwards"
  discard advance
  return (least, most)

/-- Skips the question mark that makes a repetition reluctant: it changes which match is found, not
whether there is one. -/
def reluctance : Read Unit := do
  if (← peek) == some '?' then skip

/-- The flag of a letter. -/
def flagOf (c : Char) : Read Flag :=
  match c with
  | 'i' => return .ignoreCase
  | 'm' => return .multiLine
  | 's' => return .dotAll
  | 'U' => return .swapGreed
  | 'u' => return .unicode
  | 'R' => return .crlf
  | 'x' => return .spaced
  | _ => throw "an unknown flag"

/-- The flags of a group up to the colon or the closing parenthesis. -/
def flagsFrom (bound : Nat) (negated fresh : Bool) (read : FlagChanges) : Read FlagChanges :=
  match bound with
  | 0 => throw "the flags do not end"
  | n + 1 => do
    let c ← need "the flags do not end" (← peek)
    if c == ':' || c == ')' then
      if fresh then throw "a negation without flags"
      return read.reverse
    else if c == '-' then
      if negated then throw "a second negation"
      skip
      flagsFrom n true true read
    else do
      let f ← flagOf c
      if read.any (fun change => change.1 == f) then throw "a flag is given twice"
      skip
      flagsFrom n negated false ((f, !negated) :: read)

/-- Whether a character may stand in the name of a group. -/
def isNameChar (first : Bool) (c : Char) : Bool :=
  let alphabetic := (Unicode.rowNamed Unicode.properties "alphabetic").mem c
  if first then c == '_' || alphabetic
  else c == '_' || c == '.' || c == '[' || c == ']' || alphabetic ||
    ((Unicode.category? "n").getD .empty).mem c

/-- The name of a group up to the closing angle bracket. -/
def groupName : Read Unit := do
  let r ← get
  let name := r.rest.takeWhile (· != '>')
  let valid := match name with
    | [] => false
    | c :: cs => isNameChar true c && cs.all (isNameChar false)
  if !valid || name.length == r.rest.length then throw "a group has a strange name"
  let text := String.ofList name
  if r.names.contains text then throw "two groups have one name"
  set { r with rest := r.rest.drop (name.length + 1), names := text :: r.names }

/-- How a group begins. -/
inductive Opening where
  | capture
  | plain (changes : FlagChanges)
  | flags (changes : FlagChanges)

/-- The opening of a group; the cursor is at its parenthesis. -/
def opening : Read Opening := do
  skip
  space
  let rest := (← get).rest
  let looks := ["?=", "?!", "?<=", "?<!"].any fun s => rest.take s.length == s.toList
  if looks then throw "no assertions about the text around"
  if (← skipText "?P<") || (← skipText "?<") then
    groupName
    return .capture
  else if ← skipText "?" then
    let changes ← flagsFrom ((← get).rest.length + 1) false false []
    let closed := (← peek) == some ')'
    skip
    if closed then
      if changes.isEmpty then throw "a repetition repeats nothing"
      return .flags changes
    else return .plain changes
  else return .capture

/-- Whether flags that are changed say to skip white space. -/
def spacedBy (changes : FlagChanges) (before : Bool) : Bool :=
  ((changes.find? (fun c => c.1 == Flag.spaced)).map (·.2)).getD before

mutual

/-- A sequence of parts, the newest first in `parts`, and the branches before it; it ends before a
closing parenthesis or with the text. -/
def sequenceFrom (bound : Nat) (parts branches : List Ast) : Read Ast :=
  match bound with
  | 0 => throw "the pattern does not end"
  | n + 1 => do
    space
    let close : Ast := .ofBranches ((Ast.ofParts parts.reverse :: branches).reverse)
    match ← peek with
    | none => return close
    | some ')' => return close
    | some '|' =>
      skip
      sequenceFrom n [] (Ast.ofParts parts.reverse :: branches)
    | some '(' => do
      let part ← groupFrom n
      sequenceFrom n (part :: parts) branches
    | some '[' => do
      let (negated, set) ← classFrom (2 * (← get).rest.length + 2)
      sequenceFrom n (.bracket negated set :: parts) branches
    | some '?' => do
      let (body, parts) ← repeatable parts
      skip
      reluctance
      sequenceFrom n (.repeated body 0 (some 1) :: parts) branches
    | some '*' => do
      let (body, parts) ← repeatable parts
      skip
      reluctance
      sequenceFrom n (.repeated body 0 none :: parts) branches
    | some '+' => do
      let (body, parts) ← repeatable parts
      skip
      reluctance
      sequenceFrom n (.repeated body 1 none :: parts) branches
    | some '\x7b' => do
      let (body, parts) ← repeatable parts
      let (least, most) ← bounds
      reluctance
      sequenceFrom n (.repeated body least most :: parts) branches
    | some '\\' => do
      let part ← match ← escape with
        | .literal l => pure (Ast.literal l)
        | .dot => pure .dot
        | .anchor a => pure (.anchor a)
        | .letter c negated => pure (.letter c negated)
        | .property q negated => pure (.property q negated)
      sequenceFrom n (part :: parts) branches
    | some c => do
      skip
      let part : Ast := match c with
        | '.' => .dot
        | '^' => .anchor .lineStart
        | '$' => .anchor .lineEnd
        | c => .literal ⟨c, false⟩
      sequenceFrom n (part :: parts) branches

/-- A group or a change of flags; the cursor is at the opening parenthesis. -/
def groupFrom (bound : Nat) : Read Ast :=
  match bound with
  | 0 => throw "the pattern does not end"
  | n + 1 => do
    let before := (← get).spaced
    match ← opening with
    | .flags changes =>
      modify fun r => { r with spaced := spacedBy changes before }
      return .flags changes
    | .capture => do
      let body ← sequenceFrom n [] []
      close before
      return .capture body
    | .plain changes => do
      modify fun r => { r with spaced := spacedBy changes before }
      let body ← sequenceFrom n [] []
      close before
      return .group changes body
where
  /-- The end of a group, where the flag for white space gets its old value back. -/
  close (before : Bool) : Read Unit := do
    if (← peek) != some ')' then throw "a group does not end"
    skip
    modify fun r => { r with spaced := before }

end

end Read

/-- The deepest nesting a pattern may have. -/
def maxDepth : Nat := 250

/-- The form of a pattern. -/
def Ast.ofText (text : String) : Except Problem Ast := do
  let cs := text.toList
  let (ast, r) ← (Read.sequenceFrom (2 * cs.length + 2) [] []).run ⟨cs, false, []⟩
  if !r.rest.isEmpty then throw "a group ends that was not opened"
  if maxDepth < ast.depth then throw "the pattern nests too deep"
  return ast

end Provision.Pattern
