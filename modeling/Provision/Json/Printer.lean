import Provision.Json.Value

/-!
# Writing JSON texts

`Value.compact` writes a value on one line without spaces. `Value.pretty` gives every item and
member a line of its own, indented by two spaces a level; an empty array or object stays closed.
Both escape the quote, the backslash and the control characters below the space, and write every
other character as it is.
-/

namespace Provision.Json

/-- A hexadecimal digit, in lower case. -/
def hexChar (n : Nat) : Char :=
  if n < 10 then Char.ofNat ('0'.toNat + n) else Char.ofNat ('a'.toNat + (n - 10))

/-- How a character is written inside a string. -/
def escapeChar (c : Char) : List Char :=
  match c with
  | '"' => ['\\', '"']
  | '\\' => ['\\', '\\']
  | '\x08' => ['\\', 'b']
  | '\x0c' => ['\\', 'f']
  | '\n' => ['\\', 'n']
  | '\r' => ['\\', 'r']
  | '\t' => ['\\', 't']
  | c =>
    if c.toNat < 0x20 then
      ['\\', 'u', '0', '0', hexChar (c.toNat / 16), hexChar (c.toNat % 16)]
    else [c]

/-- A string with its quotes. -/
def quoted (s : String) : String :=
  String.ofList ('"' :: s.toList.flatMap escapeChar ++ ['"'])

/-- A number. -/
def Number.text : Number → String
  | .integer value => toString value
  | .decimal mantissa exponent => toString mantissa ++ "e" ++ toString exponent

/-- Texts with a separator between them. -/
def separated (sep : String) : List String → String
  | [] => ""
  | [s] => s
  | s :: t :: rest => s ++ sep ++ separated sep (t :: rest)

mutual

/-- A value on one line. -/
def Value.compact : Value → String
  | .null => "null"
  | .bool b => if b then "true" else "false"
  | .number n => n.text
  | .string s => quoted s
  | .array xs => "[" ++ separated "," (compactItems xs) ++ "]"
  | .object ms => "\x7b" ++ separated "," (compactMembers ms) ++ "\x7d"

/-- The items of an array, one text each. -/
def compactItems : List Value → List String
  | [] => []
  | v :: vs => v.compact :: compactItems vs

/-- The members of an object, one text each. -/
def compactMembers : List (String × Value) → List String
  | [] => []
  | (name, v) :: ms => (quoted name ++ ":" ++ v.compact) :: compactMembers ms

end

/-- A line break and the indentation of a level. -/
def breakAt (level : Nat) : String :=
  String.ofList ('\n' :: List.replicate (2 * level) ' ')

mutual

/-- A value with one item or member a line; `level` is the depth of the line it begins on. -/
def Value.prettyAt (level : Nat) : Value → String
  | .array [] => "[]"
  | .array (x :: xs) =>
    let item := breakAt (level + 1)
    "[" ++ item ++ separated ("," ++ item) (prettyItems (level + 1) (x :: xs)) ++
      breakAt level ++ "]"
  | .object [] => "\x7b\x7d"
  | .object (m :: ms) =>
    let item := breakAt (level + 1)
    "\x7b" ++ item ++ separated ("," ++ item) (prettyMembers (level + 1) (m :: ms)) ++
      breakAt level ++ "\x7d"
  | .null => "null"
  | .bool b => if b then "true" else "false"
  | .number n => n.text
  | .string s => quoted s

/-- The items of an array, one text each. -/
def prettyItems (level : Nat) : List Value → List String
  | [] => []
  | v :: vs => v.prettyAt level :: prettyItems level vs

/-- The members of an object, one text each. -/
def prettyMembers (level : Nat) : List (String × Value) → List String
  | [] => []
  | (name, v) :: ms => (quoted name ++ ": " ++ v.prettyAt level) :: prettyMembers level ms

end

/-- A value over several lines. -/
def Value.pretty (v : Value) : String := v.prettyAt 0

end Provision.Json
