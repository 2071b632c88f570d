import Provision.Shell.Word

/-!
# Sums of the shell

The text between the double parentheses of a sum is an expression over whole numbers of 64 bits.
It is read with the usual ranks of its signs and then computed; a name stands for the number that
its variable holds, and an assignment changes it.
-/

namespace Provision.Shell

/-- An expression. -/
inductive Sum where
  | number (n : Int)
  | name (x : String)
  | unary (sign : String) (e : Sum)
  | binary (sign : String) (left right : Sum)
  | choice (condition yes no : Sum)
  | assign (x : String) (sign : String) (e : Sum)
  deriving Inhabited

/-- Why a sum has no value. -/
inductive SumFault where
  | noOperand | leftOver | noColon | divisionByZero
  | notNumber (text : String)

/-- What the shell says about a sum without a value. -/
def SumFault.message (f : SumFault) (source : String) : String :=
  match f with
  | noOperand => "arithmetic expression: expecting primary: \"" ++ source ++ "\""
  | leftOver => "arithmetic expression: expecting EOF: \"" ++ source ++ "\""
  | noColon => "arithmetic expression: expecting ':': \"" ++ source ++ "\""
  | divisionByZero => "arithmetic expression: division by zero: \"" ++ source ++ "\""
  | notNumber text => "Illegal number: " ++ text

/-- The value of a digit of a number with a base of at most sixteen. -/
def digit? (base : Nat) (c : Char) : Option Nat :=
  let n :=
    if c.isDigit then c.toNat - '0'.toNat
    else if 'a' ≤ c && c ≤ 'f' then c.toNat - 'a'.toNat + 10
    else if 'A' ≤ c && c ≤ 'F' then c.toNat - 'A'.toNat + 10
    else 16
  if n < base then some n else none

/-- The digits at the beginning of a text as a number, and what follows them. -/
def digitsFrom (base value : Nat) : List Char → Nat × List Char
  | [] => (value, [])
  | c :: cs =>
    match digit? base c with
    | some d => digitsFrom base (value * base + d) cs
    | none => (value, c :: cs)

/-- A number at the beginning of a text: with a base of sixteen after `0x`, of eight after `0`. -/
def numeral (cs : List Char) : Nat × List Char :=
  match cs with
  | '0' :: 'x' :: rest => digitsFrom 16 0 rest
  | '0' :: 'X' :: rest => digitsFrom 16 0 rest
  | '0' :: rest => digitsFrom 8 0 rest
  | cs => digitsFrom 10 0 cs

/-- The number that a whole text writes, with blanks around it and a sign in front. -/
def wholeNumber? (text : String) : Option Int :=
  let blank (c : Char) : Bool := c == ' ' || c == '\t' || c == '\n'
  let cs := ((text.toList.dropWhile blank).reverse.dropWhile blank).reverse
  let (negative, cs) := match cs with
    | '-' :: rest => (true, rest)
    | '+' :: rest => (false, rest)
    | _ => (false, cs)
  match cs.head?.any Char.isDigit, numeral cs with
  | true, (n, []) => some (if negative then -(n : Int) else n)
  | _, _ => none

/-- A number kept to 64 bits. -/
def wrapped (n : Int) : Int := n.bmod (Nat.pow 2 64)

/-- The signs between two operands by their rank, lower ranks first; of signs that begin alike the
longer one comes first. -/
def ranks : List (List String) :=
  [["||"], ["&&"], ["|"], ["^"], ["&"], ["==", "!="], ["<=", ">=", "<", ">"], ["<<", ">>"],
    ["+", "-"], ["*", "/", "%"]]

/-- The signs that a shorter sign may be the beginning of. -/
def longerSigns : List String :=
  ["||", "&&", "==", "!=", "<=", ">=", "<<=", ">>=", "<<", ">>", "+=", "-=", "*=", "/=", "%=",
    "&=", "|=", "^="]

/-- The signs that assign. -/
def assigning : List String :=
  ["<<=", ">>=", "+=", "-=", "*=", "/=", "%=", "&=", "|=", "^=", "="]

/-- A text without the blanks at its beginning. -/
def afterBlanks (cs : List Char) : List Char :=
  cs.dropWhile fun c => c == ' ' || c == '\t' || c == '\n'

/-- The sign at the beginning of a text: the longest one. -/
def leadingSign? (cs : List Char) : Option (String × List Char) :=
  let start (signs : List String) : Option (String × List Char) :=
    signs.findSome? fun s => (Text.afterStart s.toList cs).map fun rest => (s, rest)
  start (longerSigns.filter (·.length = 3)) <|> start (longerSigns.filter (·.length = 2)) <|>
    match cs with
    | c :: rest => some (String.singleton c, rest)
    | [] => none

/-- What is read from a sum, and the text after it. -/
abbrev SumReading := Except SumFault (Sum × List Char)

mutual

/-- An expression that may assign. -/
def assignmentFrom (bound : Nat) (cs : List Char) : SumReading :=
  match bound with
  | 0 => .error .noOperand
  | n + 1 => do
    let cs := afterBlanks cs
    let name := cs.takeWhile isNameChar
    let assigned := match leadingSign? (afterBlanks (cs.drop name.length)) with
      | some (s, rest) =>
        if isName (String.ofList name) && assigning.contains s then some (s, rest) else none
      | none => none
    match assigned with
    | some (s, rest) =>
      let (e, rest) ← assignmentFrom n rest
      return (.assign (String.ofList name) (String.ofList s.toList.dropLast) e, rest)
    | none =>
      let (c, rest) ← rankFrom n ranks cs
      match afterBlanks rest with
      | '?' :: rest =>
        let (yes, rest) ← assignmentFrom n rest
        match afterBlanks rest with
        | ':' :: rest =>
          let (no, rest) ← assignmentFrom n rest
          return (.choice c yes no, rest)
        | _ => throw .noColon
      | rest => return (c, rest)

/-- Operands joined by signs of some ranks. -/
def rankFrom (bound : Nat) (levels : List (List String)) (cs : List Char) : SumReading :=
  match bound with
  | 0 => .error .noOperand
  | n + 1 =>
    match levels with
    | [] => operandFrom n cs
    | signs :: higher => do
      let (left, rest) ← rankFrom n higher cs
      rankRest n signs higher left rest

/-- What follows the first operand of a rank. -/
def rankRest (bound : Nat) (signs : List String) (higher : List (List String)) (left : Sum)
    (cs : List Char) : SumReading :=
  match bound with
  | 0 => .error .noOperand
  | n + 1 =>
    match leadingSign? (afterBlanks cs) with
    | some (s, rest) =>
      if signs.contains s then do
        let (right, rest) ← rankFrom n higher rest
        rankRest n signs higher (.binary s left right) rest
      else .ok (left, cs)
    | none => .ok (left, cs)

/-- One operand. -/
def operandFrom (bound : Nat) (cs : List Char) : SumReading :=
  match bound with
  | 0 => .error .noOperand
  | n + 1 => do
    match afterBlanks cs with
    | [] => throw .noOperand
    | '(' :: rest =>
      let (e, rest) ← assignmentFrom n rest
      match afterBlanks rest with
      | ')' :: rest => return (e, rest)
      | _ => throw .leftOver
    | c :: rest =>
      if "-+!~".toList.contains c then
        let (e, rest) ← operandFrom n rest
        return (.unary (String.singleton c) e, rest)
      else if c.isDigit then
        let (value, rest) := numeral (c :: rest)
        return (.number value, rest)
      else
        let name := (c :: rest).takeWhile isNameChar
        if name.isEmpty then throw .noOperand
        else return (.name (String.ofList name), (c :: rest).drop name.length)

end

/-- Reads a sum. -/
def Sum.read (source : List Char) : Except SumFault Sum := do
  let (e, rest) ← assignmentFrom (32 * (source.length + 2)) source
  if (afterBlanks rest).isEmpty then return e else throw .leftOver

/-- One or zero for a truth value. -/
def truth (b : Bool) : Int := if b then 1 else 0

/-- Two numbers joined by a sign. -/
def joinedBy (sign : String) (a b : Int) : Except SumFault Int :=
  let word (n : Int) : BitVec 64 := BitVec.ofInt 64 n
  match sign with
  | "+" => .ok (wrapped (a + b))
  | "-" => .ok (wrapped (a - b))
  | "*" => .ok (wrapped (a * b))
  | "/" => if b = 0 then .error .divisionByZero else .ok (wrapped (a.tdiv b))
  | "%" => if b = 0 then .error .divisionByZero else .ok (wrapped (a.tmod b))
  | "<" => .ok (truth (a < b))
  | "<=" => .ok (truth (a ≤ b))
  | ">" => .ok (truth (b < a))
  | ">=" => .ok (truth (b ≤ a))
  | "==" => .ok (truth (a = b))
  | "!=" => .ok (truth (a ≠ b))
  | "&" => .ok (word a &&& word b).toInt
  | "|" => .ok (word a ||| word b).toInt
  | "^" => .ok (word a ^^^ word b).toInt
  | "<<" => .ok (word a <<< (b.toNat % 64)).toInt
  | ">>" => .ok ((word a).sshiftRight (b.toNat % 64)).toInt
  | _ => .ok b

/-- The number that a variable holds. One that is empty or has no value counts as zero. -/
def heldNumber (lookup : String → Option String) (assigned : List (String × Int)) (x : String) :
    Except SumFault Int :=
  match assigned.find? (fun v => v.1 = x) with
  | some (_, n) => .ok n
  | none =>
    match (lookup x).getD "" with
    | "" => .ok 0
    | text => match wholeNumber? text with
      | some n => .ok (wrapped n)
      | none => .error (.notNumber text)

/-- The value of an expression, and the variables that it assigns to, the newest first. -/
def Sum.value (lookup : String → Option String) (assigned : List (String × Int)) :
    Sum → Except SumFault (Int × List (String × Int))
  | number n => .ok (wrapped n, assigned)
  | name x => do return (← heldNumber lookup assigned x, assigned)
  | unary sign e => do
    let (n, assigned) ← e.value lookup assigned
    let n := match sign with
      | "-" => wrapped (-n)
      | "!" => truth (n = 0)
      | "~" => -n - 1
      | _ => n
    return (n, assigned)
  | binary sign left right => do
    let (a, assigned) ← left.value lookup assigned
    if sign = "&&" && a = 0 then return (0, assigned)
    if sign = "||" && a ≠ 0 then return (1, assigned)
    let (b, assigned) ← right.value lookup assigned
    if sign = "&&" || sign = "||" then return (truth (b ≠ 0), assigned)
    return (← joinedBy sign a b, assigned)
  | choice condition yes no => do
    let (c, assigned) ← condition.value lookup assigned
    if c ≠ 0 then yes.value lookup assigned else no.value lookup assigned
  | assign x sign e => do
    let (n, assigned) ← e.value lookup assigned
    if sign = "" then return (n, (x, n) :: assigned)
    let n ← joinedBy sign (← heldNumber lookup assigned x) n
    return (n, (x, n) :: assigned)

end Provision.Shell
