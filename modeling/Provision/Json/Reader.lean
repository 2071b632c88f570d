import Provision.Json.Value

/-!
# Reading JSON texts

`Value.ofText?` reads the one value a text holds. The grammar is the standard one: four kinds of
white space, no trailing commas, escapes for control characters, surrogates only in pairs,
and nothing after the value. Two limits are added: a number has to fit a 64-bit float, and arrays
and objects nest less than 128 deep.

Each function takes a bound on its own work as the first argument. Every step consumes a
character, so the length of the text is enough, and `Value.ofText?` supplies it.
-/

namespace Provision.Json

/-- The white space of JSON. -/
def isGap (c : Char) : Bool :=
  c == ' ' || c == '\n' || c == '\t' || c == '\r'

/-- The text without the white space it begins with. -/
def skipGap (cs : List Char) : List Char :=
  cs.dropWhile isGap

/-- The value of a hexadecimal digit. -/
def hexDigit? (c : Char) : Option Nat :=
  if '0' ≤ c && c ≤ '9' then some (c.toNat - '0'.toNat)
  else if 'a' ≤ c && c ≤ 'f' then some (c.toNat - 'a'.toNat + 10)
  else if 'A' ≤ c && c ≤ 'F' then some (c.toNat - 'A'.toNat + 10)
  else none

/-- Four hexadecimal digits and what follows them. -/
def unit? : List Char → Option (Nat × List Char)
  | a :: b :: c :: d :: rest => do
    let w ← hexDigit? a
    let x ← hexDigit? b
    let y ← hexDigit? c
    let z ← hexDigit? d
    return (((w * 16 + x) * 16 + y) * 16 + z, rest)
  | _ => none

/-- The character of an escape after `\u`: one unit, or a high and a low surrogate. -/
def escapedUnit? (cs : List Char) : Option (Char × List Char) := do
  let (high, rest) ← unit? cs
  if 0xD800 ≤ high && high ≤ 0xDBFF then
    match rest with
    | '\\' :: 'u' :: rest => do
      let (low, rest) ← unit? rest
      if 0xDC00 ≤ low && low ≤ 0xDFFF then
        some (Char.ofNat (0x10000 + (high - 0xD800) * 0x400 + (low - 0xDC00)), rest)
      else none
    | _ => none
  else if 0xDC00 ≤ high && high ≤ 0xDFFF then none
  else some (Char.ofNat high, rest)

/-- The character of an escape with one letter. -/
def escapedLetter? (c : Char) : Option Char :=
  match c with
  | '"' => some '"'
  | '\\' => some '\\'
  | '/' => some '/'
  | 'b' => some '\x08'
  | 'f' => some '\x0c'
  | 'n' => some '\n'
  | 'r' => some '\r'
  | 't' => some '\t'
  | _ => none

/-- The rest of a string after its opening quote; `read` holds the characters so far, the newest
first. -/
def stringFrom (bound : Nat) (read : List Char) (cs : List Char) :
    Option (String × List Char) :=
  match bound, cs with
  | 0, _ => none
  | _, [] => none
  | _ + 1, '"' :: rest => some (String.ofList read.reverse, rest)
  | n + 1, '\\' :: 'u' :: rest =>
    match escapedUnit? rest with
    | some (c, rest) => stringFrom n (c :: read) rest
    | none => none
  | n + 1, '\\' :: e :: rest =>
    match escapedLetter? e with
    | some c => stringFrom n (c :: read) rest
    | none => none
  | n + 1, c :: rest => if c.toNat < 0x20 then none else stringFrom n (c :: read) rest

/-- The number that a list of decimal digits writes. -/
def digitsValue (ds : List Char) : Nat :=
  ds.foldl (fun n d => n * 10 + (d.toNat - '0'.toNat)) 0

/-- The exponent part of a number, if there is one. -/
def exponent? : List Char → Option (Option Int × List Char)
  | c :: cs =>
    if c == 'e' || c == 'E' then
      let (negative, cs) := match cs with
        | '-' :: cs => (true, cs)
        | '+' :: cs => (false, cs)
        | cs => (false, cs)
      let digits := cs.takeWhile Char.isDigit
      if digits.isEmpty then none
      else
        -- An exponent this large is decided by its sign alone.
        let size := if digits.length ≤ 9 then digitsValue digits else 1000000000
        some (some (if negative then -size else size), cs.dropWhile Char.isDigit)
    else some (none, c :: cs)
  | [] => some (none, [])

/-- A decimal that fits a 64-bit float. One far below the least float is zero, and one far above
the largest is refused, before any power of ten is computed. -/
def decimal? (mantissa exponent : Int) : Option Number :=
  let top := (toString mantissa.natAbs).length + exponent
  if mantissa = 0 || top < -400 then some (.decimal 0 0)
  else if 400 < top then none
  else
    let number := Number.decimal mantissa exponent
    if number.isFinite then some number else none

/-- A number without its sign. -/
def magnitude? (negative : Bool) (cs : List Char) : Option (Number × List Char) := do
  let whole := cs.takeWhile Char.isDigit
  let rest := cs.dropWhile Char.isDigit
  guard (!whole.isEmpty)
  guard (whole.head? != some '0' || whole.length == 1)
  let (fraction, rest) ← match rest with
    | '.' :: rest =>
      let digits := rest.takeWhile Char.isDigit
      if digits.isEmpty then none else some (digits, rest.dropWhile Char.isDigit)
    | rest => some ([], rest)
  let (power, rest) ← exponent? rest
  let size : Int := digitsValue (whole ++ fraction)
  let mantissa := if negative then -size else size
  if fraction.isEmpty && power.isNone && !(negative && size == 0) &&
      -(Int.pow 2 63) ≤ mantissa && mantissa < Int.pow 2 64 then
    return (.integer mantissa, rest)
  else
    let number ← decimal? mantissa (power.getD 0 - fraction.length)
    return (number, rest)

mutual

/-- Reads one value; `depth` is how many more arrays and objects may be opened. -/
def valueFrom (bound depth : Nat) (cs : List Char) : Option (Value × List Char) :=
  match bound with
  | 0 => none
  | n + 1 =>
    match skipGap cs with
    | 'n' :: 'u' :: 'l' :: 'l' :: rest => some (.null, rest)
    | 't' :: 'r' :: 'u' :: 'e' :: rest => some (.bool true, rest)
    | 'f' :: 'a' :: 'l' :: 's' :: 'e' :: rest => some (.bool false, rest)
    | '"' :: rest => (stringFrom (rest.length + 1) [] rest).map fun (s, rest) => (.string s, rest)
    | '-' :: rest => (magnitude? true rest).map fun (x, rest) => (.number x, rest)
    | '[' :: rest =>
      match depth with
      | 0 => none
      | d + 1 =>
        match skipGap rest with
        | ']' :: rest => some (.array [], rest)
        | rest => (itemsFrom n d [] rest).map fun (xs, rest) => (.array xs, rest)
    | '\x7b' :: rest =>
      match depth with
      | 0 => none
      | d + 1 =>
        match skipGap rest with
        | '\x7d' :: rest => some (.object [], rest)
        | rest => (membersFrom n d [] rest).map fun (ms, rest) => (.object ms, rest)
    | rest => (magnitude? false rest).map fun (x, rest) => (.number x, rest)

/-- Reads the items of an array up to its closing bracket. -/
def itemsFrom (bound depth : Nat) (read : List Value) (cs : List Char) :
    Option (List Value × List Char) :=
  match bound with
  | 0 => none
  | n + 1 =>
    match valueFrom n depth cs with
    | none => none
    | some (v, rest) =>
      match skipGap rest with
      | ',' :: rest => itemsFrom n depth (v :: read) rest
      | ']' :: rest => some ((v :: read).reverse, rest)
      | _ => none

/-- Reads the members of an object up to its closing brace. -/
def membersFrom (bound depth : Nat) (read : List (String × Value)) (cs : List Char) :
    Option (List (String × Value) × List Char) :=
  match bound with
  | 0 => none
  | n + 1 =>
    match skipGap cs with
    | '"' :: rest =>
      match stringFrom (rest.length + 1) [] rest with
      | none => none
      | some (name, rest) =>
        match skipGap rest with
        | ':' :: rest =>
          match valueFrom n depth rest with
          | none => none
          | some (v, rest) =>
            match skipGap rest with
            | ',' :: rest => membersFrom n depth ((name, v) :: read) rest
            | '\x7d' :: rest => some (((name, v) :: read).reverse, rest)
            | _ => none
        | _ => none
    | _ => none

end

/-- The value that a text holds, with nothing but white space around it. -/
def Value.ofText? (text : String) : Option Value :=
  let cs := text.toList
  match valueFrom (2 * cs.length + 2) 127 cs with
  | some (v, rest) => if (skipGap rest).isEmpty then some v else none
  | none => none

end Provision.Json
