import Provision.Shell.Sum
import Provision.Text.Utf8

/-!
# Escapes and formats

`echo` and `printf` resolve escapes, which may stand for single bytes, and `printf` fills a format
with arguments, again and again while arguments are left. Both work on bytes, and so do the widths
of a format.
-/

namespace Provision.Shell

/-- The byte of an escape of one letter. -/
def escapeLetter? (c : Char) : Option UInt8 :=
  match c with
  | 'a' => some 7
  | 'b' => some 8
  | 't' => some 9
  | 'n' => some 10
  | 'v' => some 11
  | 'f' => some 12
  | 'r' => some 13
  | 'e' => some 27
  | '\\' => some 92
  | _ => none

/-- The value of up to `count` octal digits, and what follows them. -/
def octal (count value : Nat) (cs : List Char) : Nat × List Char :=
  match count, cs with
  | n + 1, c :: rest =>
    match digit? 8 c with
    | some d => octal n (value * 8 + d) rest
    | none => (value, cs)
  | _, _ => (value, cs)

/-- The bytes of a text with its escapes resolved, and whether one of them ends all output.
`zeroed` says that octal digits may follow a zero that does not count. -/
def unescape (bound : Nat) (zeroed : Bool) (cs : List Char) : List UInt8 × Bool :=
  match bound with
  | 0 => ([], false)
  | n + 1 =>
    let more (bytes : List UInt8) (cs : List Char) : List UInt8 × Bool :=
      let (rest, stop) := unescape n zeroed cs
      (bytes ++ rest, stop)
    match cs with
    | [] => ([], false)
    | '\\' :: c :: rest =>
      if c = 'c' && zeroed then ([], true)
      else match escapeLetter? c with
        | some b => more [b] rest
        | none =>
          if (digit? 8 c).isSome then
            let (value, rest) := if c = '0' && zeroed then octal 3 0 rest
              else octal 3 0 (c :: rest)
            more [UInt8.ofNat value] rest
          else more (Text.bytesOf (String.ofList ['\\', c])) rest
    | c :: rest => more (Text.bytesOf (String.singleton c)) rest

/-- The bytes of a text with its escapes resolved, and whether one of them ends all output. -/
def escaped (zeroed : Bool) (text : String) : List UInt8 × Bool :=
  unescape (text.length + 1) zeroed text.toList

/-- How a value is written: from the left, with zeros in front, with a sign, in a width, and with
so many digits or bytes. -/
structure FieldStyle where
  left : Bool
  zeros : Bool
  signed : Bool
  marked : Bool
  width : Nat
  precision : Option Nat

/-- Bytes filled up to the width of a style. -/
def FieldStyle.filled (s : FieldStyle) (bytes : List UInt8) : List UInt8 :=
  let fill := List.replicate (s.width - bytes.length) (32 : UInt8)
  if s.left then bytes ++ fill else fill ++ bytes

/-- A number in a style. Zeros go between its sign and its digits. -/
def FieldStyle.number (s : FieldStyle) (negative : Bool) (lead digits : List Char) :
    List UInt8 :=
  let digits := List.replicate ((s.precision.getD 1) - digits.length) '0' ++ digits
  let sign := if negative then ['-'] else if s.signed then ['+'] else []
  let missing := s.width - (sign.length + lead.length + digits.length)
  let zeros := if s.zeros && !s.left && s.precision.isNone then List.replicate missing '0' else []
  s.filled (Text.bytesOf (String.ofList (sign ++ lead ++ zeros ++ digits)))

/-- The state of a format at work. The newest bytes and complaints come first. -/
structure Printing where
  bytes : List UInt8
  arguments : List String
  used : Bool
  complaints : List String
  status : Nat
  stopped : Bool

namespace Printing

/-- Writes bytes. -/
def put (p : Printing) (bytes : List UInt8) : Printing :=
  { p with bytes := bytes.reverse ++ p.bytes }

/-- Takes the next argument, if there is one. -/
def next (p : Printing) : Option String × Printing :=
  (p.arguments.head?, { p with arguments := p.arguments.drop 1, used := true })

/-- Says something about an argument that is no number. -/
def object (p : Printing) (message : String) : Printing :=
  { p with complaints := message :: p.complaints, status := 1 }

/-- The next argument as a number. A quote stands for the number of the character after it. -/
def nextNumber (p : Printing) : Int × Printing :=
  match p.next with
  | (none, p) => (0, p)
  | (some text, p) =>
    match text.toList with
    | '\'' :: c :: _ => (c.toNat, p)
    | '"' :: c :: _ => (c.toNat, p)
    | cs =>
      let cs := afterBlanks cs
      let (negative, digits) := match cs with
        | '-' :: rest => (true, rest)
        | '+' :: rest => (false, rest)
        | _ => (false, cs)
      if digits.head?.any Char.isDigit then
        let (n, rest) := numeral digits
        let value : Int := if negative then -(n : Int) else n
        if rest.isEmpty then (value, p)
        else (value, p.object (text ++ ": not completely converted"))
      else (0, p.object (text ++ ": expected numeric value"))

end Printing

/-- The characters of some bytes that are plain ones. -/
def plainChars (bytes : List UInt8) : List Char := bytes.map fun b => Char.ofNat b.toNat

/-- The flags at the beginning of a directive, and what follows them. -/
def flagsFrom (s : FieldStyle) : List UInt8 → FieldStyle × List UInt8
  | b :: bs =>
    if b = 45 then flagsFrom { s with left := true } bs
    else if b = 48 then flagsFrom { s with zeros := true } bs
    else if b = 43 then flagsFrom { s with signed := true } bs
    else if b = 35 then flagsFrom { s with marked := true } bs
    else if b = 32 then flagsFrom s bs
    else (s, b :: bs)
  | [] => (s, [])

/-- A number in a directive, which may be an argument, and what follows it. -/
def sizeFrom (p : Printing) (bs : List UInt8) : Option Nat × List UInt8 × Printing :=
  if bs.head? = some 42 then
    let (n, p) := p.nextNumber
    (some n.toNat, bs.drop 1, p)
  else
    let digits := bs.takeWhile fun b => 48 ≤ b && b ≤ 57
    ((String.ofList (plainChars digits)).toNat?, bs.drop digits.length, p)

/-- The width and precision of a directive, and what follows them. -/
def styleFrom (p : Printing) (bs : List UInt8) : FieldStyle × List UInt8 × Printing :=
  let (style, bs) := flagsFrom ⟨false, false, false, false, 0, none⟩ bs
  let (width, bs, p) := sizeFrom p bs
  let style := { style with width := width.getD 0 }
  if bs.head? = some 46 then
    let (precision, bs, p) := sizeFrom p (bs.drop 1)
    ({ style with precision := some (precision.getD 0) }, bs, p)
  else (style, bs, p)

/-- A number as a conversion writes it: one below zero counts from the end of 64 bits where there
is no sign. -/
def convertedNumber (kind : Char) (style : FieldStyle) (n : Int) : List UInt8 :=
  let word := (n % Int.pow 2 64).toNat
  let unsigned := { style with signed := false }
  match kind with
  | 'u' => unsigned.number false [] (Nat.toDigits 10 word)
  | 'o' => unsigned.number false (if style.marked then ['0'] else []) (Nat.toDigits 8 word)
  | 'x' => unsigned.number false (if style.marked then ['0', 'x'] else []) (Nat.toDigits 16 word)
  | 'X' =>
    unsigned.number false (if style.marked then ['0', 'X'] else [])
      ((Nat.toDigits 16 word).map Char.toUpper)
  | _ => style.number (n < 0) [] (Nat.toDigits 10 n.natAbs)

/-- One round of a format over arguments; `bound` is more than the length of the format. -/
def formatRound (bound : Nat) (bs : List UInt8) (p : Printing) : Printing :=
  match bound, bs with
  | n + 1, b :: rest =>
    if p.stopped then p
    else if b != 37 then formatRound n rest (p.put [b])
    else if rest.head? = some 37 then formatRound n (rest.drop 1) (p.put [37])
    else
      let (style, rest, p) := styleFrom p rest
      match rest with
      | [] => { p with stopped := true }
      | kind :: rest =>
        let kind := Char.ofNat kind.toNat
        if "diouxX".toList.contains kind then
          let (value, p) := p.nextNumber
          formatRound n rest (p.put (convertedNumber kind style value))
        else if kind = 's' then
          let (arg, p) := p.next
          let bytes := Text.bytesOf (arg.getD "")
          let bytes := match style.precision with
            | some size => bytes.take size
            | none => bytes
          formatRound n rest (p.put (style.filled bytes))
        else if kind = 'c' then
          let (arg, p) := p.next
          formatRound n rest (p.put (style.filled ((Text.bytesOf (arg.getD "")).take 1)))
        else if kind = 'b' then
          let (arg, p) := p.next
          let (bytes, stop) := escaped true (arg.getD "")
          formatRound n rest { p.put (style.filled bytes) with stopped := stop }
        else
          { p with
            stopped := true
            status := 2
            complaints := ("%" ++ String.singleton kind ++ ": invalid directive") :: p.complaints }
  | _, _ => p

/-- A format over arguments, again and again while arguments are left. -/
def formatRounds (rounds : Nat) (format : List UInt8) (p : Printing) : Printing :=
  let p := formatRound (format.length + 1) format { p with used := false }
  match rounds with
  | 0 => p
  | n + 1 => if p.used && !p.stopped && !p.arguments.isEmpty then formatRounds n format p else p

/-- What a format makes of arguments: the bytes, the complaints, and the status. -/
def formatted (format : String) (args : List String) : List UInt8 × List String × Nat :=
  let p := formatRounds args.length (escaped false format).1 ⟨[], args, false, [], 0, false⟩
  (p.bytes.reverse, p.complaints.reverse, p.status)

end Provision.Shell
