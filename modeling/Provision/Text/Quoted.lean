import Provision.Unicode.Category
import Provision.Unicode.Property

/-!
# Quoted text

A text that is shown among others is put in quotes, so that its ends can be seen. What would not be
seen, or would change the look of its neighbour, is shown by its number; the quote and the
backslash are marked by a backslash.
-/

namespace Provision.Text

open Unicode (leafCategory category? property?)

/-- A hexadecimal number in lower case, without leading zeros. -/
def hexText (n : Nat) : List Char := Nat.toDigits 16 n

/-- Whether a character is in a set, if there is such a set. -/
def isIn (set : Option Unicode.Ranges) (c : Char) : Bool := set.any (·.mem c)

/-- Whether a character can be seen and stands for itself: it is a space, or neither a separator nor
unassigned nor a control, and it does not extend the character before it. -/
def isVisible (c : Char) : Bool :=
  if c.toNat < 0x7F then 0x20 ≤ c.toNat
  else !(isIn (category? "c") c || isIn (category? "z") c || isIn (property? "grext") c)

/-- How a character is shown in quotes. -/
def quotedChar (c : Char) : List Char :=
  match c with
  | '\x00' => ['\\', '0']
  | '\t' => ['\\', 't']
  | '\n' => ['\\', 'n']
  | '\r' => ['\\', 'r']
  | '"' => ['\\', '"']
  | '\\' => ['\\', '\\']
  | c => if isVisible c then [c] else '\\' :: 'u' :: '\x7b' :: hexText c.toNat ++ ['\x7d']

/-- A text in quotes. -/
def quoted (s : String) : String :=
  String.ofList ('"' :: s.toList.flatMap quotedChar ++ ['"'])

/-- A list of texts, each in quotes. -/
def quotedList (texts : List String) : String :=
  "[" ++ String.intercalate ", " (texts.map quoted) ++ "]"

end Provision.Text
