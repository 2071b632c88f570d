import Provision.Yaml.Record
import Provision.Json.Reader

/-!
# What a plain scalar may be taken for

A text that is written without quotes may be read as something else than a text: as null, a truth
value or a number. `readsAsText` says that it is not; a writer quotes all other texts.
-/

namespace Provision.Yaml

/-- The words for truth values. -/
def isTruthValue (text : String) : Bool :=
  ["true", "True", "TRUE", "false", "False", "FALSE"].contains text

/-- Whether a text writes an integer of at most 128 bits. -/
def isInteger (text : String) : Bool :=
  match text.toList with
  | '+' :: cs => (magnitude? cs).any (· < Nat.pow 2 128)
  | '-' :: cs => (magnitude? cs).any (· ≤ Nat.pow 2 127)
  | cs => (magnitude? cs).any (· < Nat.pow 2 128)

/-- The words for infinity, which may have a sign. -/
def isInfinity (cs : List Char) : Bool :=
  [".inf", ".Inf", ".INF"].any (·.toList == cs)

/-- Whether a text without its sign writes a finite decimal fraction. There are digits before or
after the point. -/
def isFraction (cs : List Char) : Bool :=
  let whole := cs.takeWhile Char.isDigit
  let (fraction, rest) := match cs.dropWhile Char.isDigit with
    | '.' :: rest => (rest.takeWhile Char.isDigit, rest.dropWhile Char.isDigit)
    | rest => ([], rest)
  if whole.isEmpty && fraction.isEmpty then false
  else match Json.exponent? rest with
    | some (power, []) =>
      let mantissa : Int := Json.digitsValue (whole ++ fraction)
      (Json.decimal? mantissa (power.getD 0 - fraction.length)).isSome
    | _ => false

/-- Whether a text writes a decimal fraction, an infinity or no number at all. -/
def isDecimal (text : String) : Bool :=
  match text.toList with
  | '+' :: cs => isInfinity cs || isFraction cs
  | '-' :: cs => isInfinity cs || isFraction cs
  | cs => isInfinity cs || [".nan", ".NaN", ".NAN"].contains text || isFraction cs

/-- Whether a text is a number with zeros in front, which is none. -/
def isPaddedNumber (text : String) : Bool :=
  match text.toList with
  | '+' :: cs => isOctalLike cs
  | '-' :: cs => isOctalLike cs
  | cs => isOctalLike cs

/-- Whether a text stays a text when it is written without quotes. -/
def readsAsText (text : String) : Bool :=
  !(text == "" || isNull text || isTruthValue text || isInteger text || isDecimal text ||
    isPaddedNumber text)

end Provision.Yaml
