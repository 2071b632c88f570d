/-!
# JSON values

A value as a JSON text writes it. Numbers are kept exactly as they are written, as an integer or
as a decimal fraction, because a count may be compared with zero but an account number has to be
an integer. Members of an object keep the order in which they were written.
-/

namespace Provision.Json

/-- A number: an integer, or a mantissa and a power of ten when a point or an exponent was used.
An integer that is too large for 64 bits counts as a decimal, too. -/
inductive Number where
  | integer (value : Int)
  | decimal (mantissa exponent : Int)
  deriving Repr, BEq, DecidableEq, Inhabited

/-- A JSON value. -/
inductive Value where
  | null
  | bool (value : Bool)
  | number (value : Number)
  | string (value : String)
  | array (items : List Value)
  | object (members : List (String × Value))
  deriving Repr, Inhabited

namespace Number

/-- Whether the number, rounded to a 64-bit float, is above zero. A positive decimal is unless it
is at most half the least float, which is 2 to the power -1074. -/
def isPositive : Number → Bool
  | integer value => 0 < value
  | decimal mantissa exponent =>
    0 < mantissa &&
      (if 0 ≤ exponent then true
       else Nat.pow 10 exponent.natAbs < mantissa.natAbs * Nat.pow 2 1075)

/-- The midpoint between the largest 64-bit float and the next power of two: from there on numbers
do not round to a finite float. -/
def float64Bound : Nat := Nat.pow 2 1024 - Nat.pow 2 970

/-- Whether the number rounds to a finite 64-bit float. -/
def isFinite : Number → Bool
  | integer value => value.natAbs < float64Bound
  | decimal mantissa exponent =>
    if 0 ≤ exponent then mantissa.natAbs * Nat.pow 10 exponent.natAbs < float64Bound
    else mantissa.natAbs < float64Bound * Nat.pow 10 exponent.natAbs

/-- The number as an unsigned 64-bit integer, if it was written as one. -/
def natural? : Number → Option Nat
  | integer value => if 0 ≤ value ∧ value < Int.pow 2 64 then some value.toNat else none
  | decimal .. => none

end Number

namespace Value

/-- The value of a member; of two members with one name the later one counts. -/
def member? (name : String) : Value → Option Value
  | object members => (members.reverse.find? (fun m => m.1 = name)).map (·.2)
  | _ => none

/-- The text of a string. -/
def text? : Value → Option String
  | string s => some s
  | _ => none

/-- The items of an array. -/
def items? : Value → Option (List Value)
  | array xs => some xs
  | _ => none

end Value

end Provision.Json
