/-!
# Reading bytes as text

File contents are bytes. A file that is read as text must be well formed UTF-8; a response from
the network is read leniently instead, with the replacement character for each maximal part that
is no character.
-/

namespace Provision.Text

/-- The bytes that write a text. -/
def bytesOf (s : String) : List UInt8 :=
  s.toUTF8.toList

/-- What the first bytes are: a character of so many bytes, or so many bytes that begin none. -/
inductive Lead where
  | char (c : Char) (width : Nat)
  | broken (width : Nat)

/-- Whether a byte continues a character. -/
def isContinuation (b : UInt8) : Bool := 0x80 ≤ b && b ≤ 0xBF

/-- The character of a code point that is known to be a scalar value. -/
def scalar (n : Nat) : Char := Char.ofNat n

/-- Reads what `b` and the bytes after it begin with. The second byte of a longer form is bounded
so that overlong forms, surrogates and numbers above the last code point are left out. -/
def lead (b : UInt8) (rest : List UInt8) : Lead :=
  let low (x : UInt8) := x.toNat % 64
  if b < 0x80 then .char (scalar b.toNat) 1
  else if 0xC2 ≤ b && b ≤ 0xDF then
    match rest with
    | x :: _ =>
      if isContinuation x then .char (scalar ((b.toNat - 0xC0) * 64 + low x)) 2 else .broken 1
    | [] => .broken 1
  else if 0xE0 ≤ b && b ≤ 0xEF then
    let lo : UInt8 := if b = 0xE0 then 0xA0 else 0x80
    let hi : UInt8 := if b = 0xED then 0x9F else 0xBF
    match rest with
    | x :: more =>
      if lo ≤ x && x ≤ hi then
        match more with
        | y :: _ =>
          if isContinuation y then
            .char (scalar ((b.toNat - 0xE0) * 4096 + low x * 64 + low y)) 3
          else .broken 2
        | [] => .broken 2
      else .broken 1
    | [] => .broken 1
  else if 0xF0 ≤ b && b ≤ 0xF4 then
    let lo : UInt8 := if b = 0xF0 then 0x90 else 0x80
    let hi : UInt8 := if b = 0xF4 then 0x8F else 0xBF
    match rest with
    | x :: more =>
      if lo ≤ x && x ≤ hi then
        match more with
        | y :: more =>
          if isContinuation y then
            match more with
            | z :: _ =>
              if isContinuation z then
                .char (scalar ((b.toNat - 0xF0) * 262144 + low x * 4096 + low y * 64 + low z)) 4
              else .broken 3
            | [] => .broken 3
          else .broken 2
        | [] => .broken 2
      else .broken 1
    | [] => .broken 1
  else .broken 1

/-- The characters that well formed bytes write; `skip` counts the bytes of a character that has
been read already. -/
def strictFrom (skip : Nat) : List UInt8 → Option (List Char)
  | [] => some []
  | b :: bs =>
    match skip with
    | n + 1 => strictFrom n bs
    | 0 =>
      match lead b bs with
      | .char c width => (strictFrom (width - 1) bs).map (c :: ·)
      | .broken _ => none

/-- The characters of any bytes, with U+FFFD for each part that is no character. -/
def lenientFrom (skip : Nat) : List UInt8 → List Char
  | [] => []
  | b :: bs =>
    match skip with
    | n + 1 => lenientFrom n bs
    | 0 =>
      match lead b bs with
      | .char c width => c :: lenientFrom (width - 1) bs
      | .broken width => '\uFFFD' :: lenientFrom (width - 1) bs

/-- The text that bytes write, if they are well formed. -/
def ofBytes? (bytes : List UInt8) : Option String :=
  (strictFrom 0 bytes).map String.ofList

/-- The text that bytes write, read leniently. -/
def ofBytesLenient (bytes : List UInt8) : String :=
  String.ofList (lenientFrom 0 bytes)

end Provision.Text
