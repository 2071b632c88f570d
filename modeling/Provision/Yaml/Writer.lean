import Provision.Yaml.Plain

/-!
# Writing YAML

A `Tree` is a text, a list or a map of trees, and `Tree.written` is the YAML text of it. Collections
are written as blocks: the entries of a map and the items of a list stand on lines of their own, and
a list in a map is not indented further than its key. A text is written plainly where it can be, and
otherwise in single quotes, as a literal block if it has several lines, or, if it holds characters
that have to be escaped, in double quotes. Lines may be as long as they like.
-/

namespace Provision.Yaml

/-- A text, a list or a map. -/
inductive Tree where
  | text (s : String)
  | list (items : List Tree)
  | map (entries : List (String × Tree))
  deriving Inhabited, BEq

/-! ## What a text allows -/

/-- The characters that are written without an escape. -/
def isPrintable (c : Char) : Bool :=
  let n := c.toNat
  n == 0x0A || (0x20 ≤ n && n ≤ 0x7E) || (0xA0 ≤ n && n ≤ 0xFFFD && n != 0xFEFF) || 0x10000 ≤ n

/-- Whether nothing, a blank, a break or a zero character comes next. -/
def endsWord : List Char → Bool
  | [] => true
  | c :: _ => isBlank c || isBreak c || c == '\x00'

/-- The indicators that no plain scalar begins with. -/
def isIndicator (c : Char) : Bool :=
  "#,[]\x7b\x7d&*!|>'\"%@`".toList.contains c

/-- Whether a text begins with what has a meaning of its own in a block. -/
def beginsMarked (cs : List Char) : Bool :=
  match cs with
  | [] => false
  | c :: rest =>
    cs.take 3 == "---".toList || cs.take 3 == "...".toList || isIndicator c ||
      ((c == '?' || c == ':' || c == '-') && endsWord rest)

/-- Whether a colon that ends a word, or a comment sign that begins one, stands in a text;
`before` is the character before it. -/
def isMarkedWithin (before : Char) : List Char → Bool
  | [] => false
  | c :: rest =>
    (c == ':' && endsWord rest) || (c == '#' && endsWord [before]) || isMarkedWithin c rest

/-- Whether a text has a character that satisfies `p` and the next one `q`. -/
def hasPair (p q : Char → Bool) : List Char → Bool
  | c :: d :: rest => (p c && q d) || hasPair p q (d :: rest)
  | _ => false

/-- Whether a space stands before a break, or a character has to be escaped: then only double
quotes keep the text. -/
def needsEscapes (cs : List Char) : Bool :=
  cs.any (fun c => !isPrintable c) || hasPair (· == ' ') isBreak cs

/-- Whether a text can be written plainly in a block. -/
def allowsPlain (cs : List Char) : Bool :=
  !(beginsMarked cs || (cs.head?.any fun c => isMarkedWithin c (cs.drop 1)) || cs.any isBreak ||
    cs.head? == some ' ' || cs.getLast? == some ' ' || needsEscapes cs)

/-- Whether a text can be written in single quotes. -/
def allowsSingleQuotes (cs : List Char) : Bool :=
  !(hasPair isBreak (· == ' ') cs || needsEscapes cs)

/-- Whether a text can be written as a literal block. -/
def allowsLiteral (cs : List Char) : Bool :=
  !(cs.isEmpty || cs.getLast? == some ' ' || needsEscapes cs)

/-- How a text is written. -/
def styleOf (s : String) : Style :=
  let cs := s.toList
  if cs.contains '\n' then if allowsLiteral cs then .literal else .doubleQuoted
  else if readsAsText s && allowsPlain cs then .plain
  else if allowsSingleQuotes cs then .singleQuoted
  else .doubleQuoted

/-! ## Scalars -/

/-- Spaces up to a column. -/
def spaces (column : Nat) : List Char := List.replicate column ' '

/-- The characters of a text in single quotes; a line after a break begins at a column. -/
def singleQuotedBody (column : Nat) (broken : Bool) : List Char → List Char
  | [] => if broken then spaces column else []
  | c :: cs =>
    if isBreak c then c :: singleQuotedBody column true cs
    else (if broken then spaces column else []) ++ (if c == '\'' then ['\'', '\''] else [c]) ++
      singleQuotedBody column false cs

/-- A number as hexadecimal digits, in upper case; there are `width` of them. -/
def hexDigits : Nat → Nat → List Char
  | 0, _ => []
  | width + 1, n =>
    let d := n % 16
    hexDigits width (n / 16) ++
      [if d < 10 then Char.ofNat ('0'.toNat + d) else Char.ofNat ('A'.toNat + (d - 10))]

/-- How a character is escaped. -/
def escaped (c : Char) : List Char :=
  match c with
  | '\x00' => ['\\', '0']
  | '\x07' => ['\\', 'a']
  | '\x08' => ['\\', 'b']
  | '\t' => ['\\', 't']
  | '\n' => ['\\', 'n']
  | '\x0b' => ['\\', 'v']
  | '\x0c' => ['\\', 'f']
  | '\r' => ['\\', 'r']
  | '\x1b' => ['\\', 'e']
  | '"' => ['\\', '"']
  | '\\' => ['\\', '\\']
  | '\u0085' => ['\\', 'N']
  | '\u2028' => ['\\', 'L']
  | '\u2029' => ['\\', 'P']
  | c =>
    let n := c.toNat
    if n ≤ 0xFF then '\\' :: 'x' :: hexDigits 2 n
    else if n ≤ 0xFFFF then '\\' :: 'u' :: hexDigits 4 n
    else '\\' :: 'U' :: hexDigits 8 n

/-- The characters of a text in double quotes. -/
def doubleQuotedBody (cs : List Char) : List Char :=
  cs.flatMap fun c =>
    if !isPrintable c || isBreak c || c == '"' || c == '\\' then escaped c else [c]

/-- The signs after the bar of a literal block: the indentation, where the text does not show it,
and what becomes of the breaks at its end. -/
def literalHints (cs : List Char) : List Char :=
  let indentation :=
    match cs with
    | c :: _ => if c == ' ' || isBreak c then ['2'] else []
    | [] => []
  let chomping :=
    match cs.reverse with
    | [] => ['-']
    | c :: rest =>
      if !isBreak c then ['-']
      else match rest with
        | [] => ['+']
        | d :: _ => if isBreak d then ['+'] else []
  indentation ++ chomping

/-- The lines of a literal block, each of them at a column. -/
def literalBody (column : Nat) (broken : Bool) : List Char → List Char
  | [] => []
  | c :: cs =>
    if isBreak c then c :: literalBody column true cs
    else (if broken then spaces column else []) ++ c :: literalBody column false cs

/-- A text in the given style; its further lines begin at a column. -/
def scalar (column : Nat) (style : Style) (s : String) : List Char :=
  let cs := s.toList
  match style with
  | .plain => cs
  | .singleQuoted => '\'' :: singleQuotedBody column false cs ++ ['\'']
  | .doubleQuoted => '"' :: doubleQuotedBody cs ++ ['"']
  | _ => '|' :: literalHints cs ++ '\n' :: literalBody column true cs

/-- A text with a break at its end, unless one is there. -/
def closedLine (cs : List Char) : List Char :=
  if cs.getLast?.any isBreak then cs else cs ++ ['\n']

/-- Whether a text is short and simple enough to stand before its colon on one line. -/
def isSimpleKey (s : String) : Bool := s.utf8ByteSize ≤ 128 && !s.toList.any isBreak

/-! ## Collections -/

/-- Where a node stands: after the colon of a key on the same line, or after another indicator,
which a block may follow on the same line. -/
inductive Position where
  | afterKey | afterIndicator
  deriving DecidableEq

/-- A key with its colon, at a column. -/
def writtenKey (column : Nat) (key : String) : List Char :=
  if isSimpleKey key then scalar (column + 2) (styleOf key) key ++ [':']
  else '?' :: ' ' :: closedLine (scalar (column + 2) (styleOf key) key) ++
    spaces column ++ [':']

/-- Where the value of a key stands. -/
def Position.ofKey (key : String) : Position :=
  if isSimpleKey key then .afterKey else .afterIndicator

/-- The lines of a block, where it stands: on lines of their own after a key, or from the same line
on after another indicator, which then takes the place of the first indentation. -/
def placed (position : Position) (column : Nat) (lines : List Char) : List Char :=
  match position with
  | .afterKey => '\n' :: lines
  | .afterIndicator => ' ' :: lines.drop column

mutual

/-- What is written after an indicator in a collection whose lines begin at a column. -/
def Tree.writtenIn (column : Nat) (position : Position) : Tree → List Char
  | .text s => ' ' :: closedLine (scalar (column + 2) (styleOf s) s)
  | .list items =>
    let inner := if position = .afterKey then column else column + 2
    if items.isEmpty then " []\n".toList else placed position inner (writtenItems inner items)
  | .map entries =>
    if entries.isEmpty then " \x7b\x7d\n".toList
    else placed position (column + 2) (writtenEntries (column + 2) entries)

/-- The items of a list at a column. -/
def writtenItems (column : Nat) : List Tree → List Char
  | [] => []
  | t :: ts => spaces column ++ '-' :: t.writtenIn column .afterIndicator ++ writtenItems column ts

/-- The entries of a map at a column. -/
def writtenEntries (column : Nat) : List (String × Tree) → List Char
  | [] => []
  | (key, t) :: entries =>
    spaces column ++ writtenKey column key ++ t.writtenIn column (.ofKey key) ++
      writtenEntries column entries

end

/-- The YAML text of a tree. -/
def Tree.written : Tree → String
  | .text s => String.ofList (closedLine (scalar 2 (styleOf s) s))
  | .list items => if items.isEmpty then "[]\n" else String.ofList (writtenItems 0 items)
  | .map entries =>
    if entries.isEmpty then "\x7b\x7d\n" else String.ofList (writtenEntries 0 entries)

end Provision.Yaml
