import Provision.Action
import Provision.Text.Quoted

/-!
# Messages as lines

A message becomes a line of a log: the level, on request the part it comes from, the text, and the
named values. A text may come from anywhere, so the characters in it that steer a terminal are
shown by their number.
-/

namespace Provision.Log

/-- How a character of a message is shown. -/
def shownChar (c : Char) : List Char :=
  if [0x07, 0x08, 0x0C, 0x1B, 0x7F].contains c.toNat then
    '\\' :: 'x' :: (if c.toNat < 0x10 then ['0'] else []) ++ Text.hexText c.toNat
  else if 0x80 ≤ c.toNat && c.toNat ≤ 0x9F then
    '\\' :: 'u' :: '\x7b' :: Text.hexText c.toNat ++ ['\x7d']
  else [c]

/-- The text of a message as it is shown. -/
def shown (text : String) : String := String.ofList (text.toList.flatMap shownChar)

/-- A message as a line; `withPart` shows where it comes from. -/
def line (withPart : Bool) (m : Message) : String :=
  m.level.name ++ " " ++ (if withPart then m.part.name ++ ": " else "") ++ shown m.text ++
    String.join (m.fields.map fun f => " " ++ f.1 ++ "=" ++ f.2)

end Provision.Log
