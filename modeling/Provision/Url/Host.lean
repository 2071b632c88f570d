import Provision.Url.Percent
import Provision.Text.Pieces
import Provision.Url.Punycode
import Provision.Unicode.Category
import Provision.Unicode.CaseFolding

/-!
# Hosts of addresses

The host of an address is a domain name, an IPv4 address, which may be written in several ways, or
an IPv6 address in brackets. It is kept in its one normal form: names in lower case and in ASCII,
four decimal numbers, or eight hexadecimal ones with the longest run of zeros left out. Schemes
that are not special have hosts of any form.
-/

namespace Provision.Url

/-- Why a text is no address. -/
inductive Problem where
  | noBase | emptyHost | badName | badPort | badIpv4 | badIpv6 | badHostCharacter
  deriving Repr, DecidableEq

/-- The text of a problem. -/
def Problem.message : Problem → String
  | noBase => "relative URL without a base"
  | emptyHost => "empty host"
  | badName => "invalid international domain name"
  | badPort => "invalid port number"
  | badIpv4 => "invalid IPv4 address"
  | badIpv6 => "invalid IPv6 address"
  | badHostCharacter => "invalid domain character"

/-! ## Numbers between dots -/

/-- The digits of a number and their base, from how it is written: hexadecimal, octal or decimal. -/
def written? (cs : List Char) : Nat × List Char :=
  match cs with
  | '0' :: 'x' :: ds => (16, ds)
  | '0' :: 'X' :: ds => (16, ds)
  | '0' :: d :: ds => (8, d :: ds)
  | ds => (10, ds)

/-- The number that digits in a base write. -/
def numberIn (base : Nat) (cs : List Char) : Option Nat :=
  cs.foldlM (fun n c => do
    let d ← hexValue? c
    if d < base then some (n * base + d) else none) 0

/-- A number of an IPv4 address. -/
def ipv4Number? (cs : List Char) : Option Nat :=
  if cs.isEmpty then none
  else
    let (base, ds) := written? cs
    numberIn base ds

/-- The parts of a name between dots, without an empty one at its end. -/
def labels (cs : List Char) : List (List Char) :=
  let parts := Text.splitAt '.' cs
  if 1 < parts.length && parts.getLast? = some [] then parts.dropLast else parts

/-- Whether a name has to be an IPv4 address, because it ends in a number. -/
def endsInNumber (cs : List Char) : Bool :=
  match (labels cs).getLast? with
  | some last => (!last.isEmpty && last.all Char.isDigit) || (ipv4Number? last).isSome
  | none => false

/-- An IPv4 address; its last number fills the places that are left. -/
def ipv4? (cs : List Char) : Option Nat := do
  let parts := labels cs
  if 4 < parts.length then none
  let numbers ← parts.mapM ipv4Number?
  let last ← numbers.getLast?
  let front := numbers.dropLast
  if front.any (255 < ·) || Nat.pow 256 (4 - front.length) ≤ last then none
  let shifted := front.zipIdx.map fun (n, i) => n * Nat.pow 256 (3 - i)
  return shifted.foldl (· + ·) 0 + last

/-- The text of an IPv4 address. -/
def ipv4Text (n : Nat) : List Char :=
  (String.intercalate "." ([3, 2, 1, 0].map fun i => toString (n / Nat.pow 256 i % 256))).toList

/-! ## IPv6 addresses -/

/-- A hexadecimal number of an IPv6 address. -/
def piece? (cs : List Char) : Option Nat :=
  if cs.isEmpty || 4 < cs.length then none else numberIn 16 cs

/-- The four decimal numbers at the end of an IPv6 address, as two of its numbers. -/
def embedded? (cs : List Char) : Option (List Nat) := do
  let parts := Text.splitAt '.' cs
  if parts.length ≠ 4 then none
  let numbers ← parts.mapM fun p =>
    if p.isEmpty || 3 < p.length || (1 < p.length && p.head? = some '0') then none
    else (numberIn 10 p).bind fun n => if n ≤ 255 then some n else none
  match numbers with
  | [a, b, c, d] => return [a * 256 + b, c * 256 + d]
  | _ => none

/-- The numbers between colons; only the last may be written with dots. -/
def pieces? : List (List Char) → Option (List Nat)
  | [] => some []
  | [p] => if p.contains '.' then embedded? p else (piece? p).map ([·])
  | p :: q :: rest => do return (← piece? p) :: (← pieces? (q :: rest))

/-- The numbers of a part of an IPv6 address, which may be empty. -/
def partPieces? (cs : List Char) : Option (List Nat) :=
  if cs.isEmpty then some [] else pieces? (Text.splitAt ':' cs)

/-- A text cut at its first two colons. -/
def cutAtGap : List Char → Option (List Char × List Char)
  | ':' :: ':' :: cs => some ([], cs)
  | c :: cs => (cutAtGap cs).map fun (before, after) => (c :: before, after)
  | [] => none

/-- The eight numbers of an IPv6 address. Two colons stand for at least one zero. -/
def ipv6? (cs : List Char) : Option (List Nat) := do
  match cutAtGap cs with
  | none =>
    let ps ← partPieces? cs
    if ps.length = 8 then return ps else none
  | some (before, after) =>
    if before.contains '.' then none
    let ps ← partPieces? before
    let qs ← partPieces? after
    if 7 < ps.length + qs.length then none
    return ps ++ List.replicate (8 - ps.length - qs.length) 0 ++ qs

/-- The length of the run of zeros at the beginning. -/
def zeros (ps : List Nat) : Nat := (ps.takeWhile (· = 0)).length

/-- Where the longest run of zeros begins, and its length; of runs of one length the first. -/
def longestZeros (index : Nat) : List Nat → Nat × Nat
  | [] => (index, 0)
  | p :: ps =>
    let here := (index, zeros (p :: ps))
    let later := longestZeros (index + 1) ps
    if here.2 < later.2 then later else here

/-- A number in hexadecimal digits, in lower case. -/
def lowerHex (n : Nat) : String := String.ofList (Nat.toDigits 16 n)

/-- Numbers with colons between them. -/
def colonText (ps : List Nat) : String := String.intercalate ":" (ps.map lowerHex)

/-- The text of an IPv6 address, with its brackets. -/
def ipv6Text (ps : List Nat) : List Char :=
  let (start, length) := longestZeros 0 ps
  let inner := if length < 2 then colonText ps
    else colonText (ps.take start) ++ "::" ++ colonText (ps.drop (start + length))
  ("[" ++ inner ++ "]").toList

/-! ## Names -/

/-- The characters that no name holds. -/
def isForbidden (c : Char) : Bool :=
  c.toNat ≤ 0x20 || c.toNat = 0x7F || "%#/:<>?@[\\]^|".toList.contains c

/-- The characters that a name may not hold outside ASCII. -/
def isUnusable (c : Char) : Bool :=
  ["cn", "cc", "co", "zs", "zl", "zp"].any fun k => (Unicode.category? k).any (·.mem c)

/-- A character in a name: letters are lowered, wide forms and dots become plain ones, and what
cannot be seen is left out. -/
def mapped (c : Char) : List Char :=
  let n := c.toNat
  if n < 0x80 then [c.toLower]
  else if n = 0x3002 || n = 0xFF0E || n = 0xFF61 then ['.']
  else if 0xFF01 ≤ n && n ≤ 0xFF5E then [(Char.ofNat (n - 0xFEE0)).toLower]
  else if n = 0xAD || n = 0x200B || n = 0x2060 || n = 0xFEFF || (0xFE00 ≤ n && n ≤ 0xFE0F) then
    []
  else if n = 0x3C2 then [c]
  else [Char.ofNat (Unicode.fold n)]

/-- The signs that silence the vowel of the letter before them. -/
def viramas : List Nat :=
  [0x94D, 0x9CD, 0xA4D, 0xACD, 0xB4D, 0xBCD, 0xC4D, 0xCCD, 0xD3B, 0xD3C, 0xD4D, 0xDCA, 0xE3A,
    0xEBA, 0xF84, 0x1039, 0x103A, 0x1714, 0x1715, 0x1734, 0x17D2, 0x1A60, 0x1B44, 0x1BAA, 0x1BAB,
    0x1BF2, 0x1BF3, 0x2D7F, 0xA806, 0xA82C, 0xA8C4, 0xA953, 0xA9C0, 0xAAF6, 0xABED]

/-- Whether invisible joiners stand only after a virama, where they matter; `before` is the
character before these. -/
def joinersFit (before : Option Char) : List Char → Bool
  | [] => true
  | c :: cs =>
    (!(c.toNat = 0x200C || c.toNat = 0x200D) || before.any fun b => viramas.contains b.toNat) &&
      joinersFit (some c) cs

/-- Whether a label outside ASCII has only usable characters, does not begin with a mark, and has
joiners only where they matter. -/
def isUsable (label : List Char) : Bool :=
  !label.any isUnusable && joinersFit none label &&
    !label.head?.any fun c => (Unicode.category? "m").any (·.mem c)

/-- Whether a label that claims to be in Punycode is. -/
def isPunycode (label : List Char) : Bool :=
  match Punycode.decode? label with
  | some cs => cs.any (0x80 ≤ ·.toNat) && isUsable cs && Punycode.encode cs == label
  | none => false

/-- A label of a name in ASCII. -/
def asciiLabel? (label : List Char) : Option (List Char) :=
  if label.all (·.toNat < 0x80) then
    match Text.afterStart "xn--".toList label with
    | some rest => if isPunycode rest then some label else none
    | none => some label
  else if !isUsable label then none
  else some ("xn--".toList ++ Punycode.encode label)

/-- A name in its normal form. -/
def domain? (cs : List Char) : Option (List Char) := do
  let name := cs.flatMap mapped
  let ls ← (Text.splitAt '.' name).mapM asciiLabel?
  let name := Text.joinWith '.' ls
  if name.any isForbidden then none else some name

/-! ## Hosts -/

/-- An address in brackets, in its normal form. -/
def bracketed (cs : List Char) : Except Problem (List Char) :=
  match cs.getLast? with
  | some ']' =>
    match ipv6? ((cs.drop 1).dropLast) with
    | some ps => .ok (ipv6Text ps)
    | none => .error .badIpv6
  | _ => .error .badIpv6

/-- A host of a special scheme in its normal form. -/
def specialHost (cs : List Char) : Except Problem (List Char) :=
  if cs.head? = some '[' then bracketed cs
  else match (Text.ofBytes? (decode cs)).bind fun s => domain? s.toList with
    | none => .error .badName
    | some name =>
      if name.isEmpty then .error .emptyHost
      else if endsInNumber name then
        match ipv4? name with
        | some n => .ok (ipv4Text n)
        | none => .error .badIpv4
      else .ok name

/-- The characters that no host of another scheme holds. -/
def isForbiddenElsewhere (c : Char) : Bool := "\x00\t\n\r #/:<>?@[\\]^|".toList.contains c

/-- A host of another scheme. -/
def otherHost (cs : List Char) : Except Problem (List Char) :=
  if cs.head? = some '[' then bracketed cs
  else if cs.any isForbiddenElsewhere then .error .badHostCharacter
  else .ok (encode isControl cs)

end Provision.Url
