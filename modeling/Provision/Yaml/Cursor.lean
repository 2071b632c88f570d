/-!
# Walking over a YAML text

A cursor is what is left of a text and the place where that begins. Line breaks are the carriage
return, the line feed, both together, and the three Unicode breaks; a break that a scalar keeps is
written as a line feed, except for the line and paragraph separators, which stay.
-/

namespace Provision.Yaml

/-- Why a text is not YAML. -/
abbrev Problem := String

/-- A place in a text, counted in characters. -/
structure Place where
  index : Nat
  line : Nat
  column : Nat
  deriving Repr, Inhabited

/-- What is left of a text, and where it begins. -/
structure Cursor where
  rest : List Char
  place : Place
  deriving Inhabited

/-- A line break. -/
def isBreak (c : Char) : Bool :=
  c == '\n' || c == '\r' || c == '\u0085' || c == '\u2028' || c == '\u2029'

/-- A space or a tab. -/
def isBlank (c : Char) : Bool := c == ' ' || c == '\t'

/-- A letter, digit, underscore or hyphen. -/
def isWordChar (c : Char) : Bool := c.isAlphanum || c == '_' || c == '-'

/-- Whether nothing, a blank or a break comes next. -/
def atGap : List Char → Bool
  | [] => true
  | c :: _ => isBlank c || isBreak c

/-- Whether a document marker of three such characters comes next. -/
def atMarker (c : Char) : List Char → Bool
  | x :: y :: z :: rest => x == c && y == c && z == c && atGap rest
  | _ => false

/-- The characters a YAML text may hold: no control characters but the tab and the breaks, and
neither of the two code points that are no characters at the end of the first plane. -/
def isReadable (c : Char) : Bool :=
  let n := c.toNat
  n == 0x09 || n == 0x0A || n == 0x0D || (0x20 ≤ n && n ≤ 0x7E) || n == 0x85 ||
    (0xA0 ≤ n && n ≤ 0xFFFD) || 0x10000 ≤ n

namespace Cursor

/-- The start of a text. -/
def start (text : List Char) : Cursor := ⟨text, ⟨0, 0, 0⟩⟩

/-- The cursor after one character that is no break. -/
def next (c : Cursor) : Cursor :=
  ⟨c.rest.drop 1, ⟨c.place.index + 1, c.place.line, c.place.column + 1⟩⟩

/-- The cursor after `n` characters that are no breaks. -/
def forward (n : Nat) (c : Cursor) : Cursor :=
  ⟨c.rest.drop n, ⟨c.place.index + n, c.place.line, c.place.column + n⟩⟩

/-- The cursor after a line break, if one comes next, and what a scalar keeps of it. -/
def lineBreak (c : Cursor) : List Char × Cursor :=
  let after (n : Nat) : Cursor := ⟨c.rest.drop n, ⟨c.place.index + n, c.place.line + 1, 0⟩⟩
  match c.rest with
  | '\r' :: '\n' :: _ => (['\n'], after 2)
  | '\u2028' :: _ => (['\u2028'], after 1)
  | '\u2029' :: _ => (['\u2029'], after 1)
  | x :: _ => if isBreak x then (['\n'], after 1) else ([], c)
  | [] => ([], c)

/-- The cursor after the characters that satisfy `p`, none of them a break. -/
def skipWhile (p : Char → Bool) (c : Cursor) : Cursor :=
  c.forward (c.rest.takeWhile p).length

/-- The cursor after a byte order mark at the start of a line. The mark takes up a column. -/
def skipByteOrderMark (c : Cursor) : Cursor :=
  if c.place.column == 0 && c.rest.head? == some '\uFEFF' then c.next else c

/-- The cursor at the end of the line. -/
def skipLine (c : Cursor) : Cursor := c.skipWhile (fun x => !isBreak x)

/-- Whether the cursor is at the start of a line that begins with a document marker. -/
def atDocumentMarker (c : Cursor) : Bool :=
  c.place.column == 0 && (atMarker '-' c.rest || atMarker '.' c.rest)

end Cursor

end Provision.Yaml
