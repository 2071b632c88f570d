import Provision.Shell.Sum
import Provision.Files.Tree

/-!
# Conditions

`test` asks about texts, numbers and files. A condition is read from its arguments by recursive
descent: "or" binds least, then "and", then "not"; a sign between two operands counts before a sign
in front of one.
-/

namespace Provision.Shell

/-- Why a condition cannot be tested. -/
inductive ConditionFault where
  | noArgument (after : String)
  | badOperator (text : String)
  | notNumber (text : String)

/-- What the shell says about a condition that cannot be tested. -/
def ConditionFault.message : ConditionFault → String
  | noArgument after => after ++ ": argument expected"
  | badOperator text => text ++ ": unexpected operator"
  | notNumber text => "Illegal number: " ++ text

/-- The signs that ask about a file or a text after them. -/
def fileSigns : List String :=
  ["-b", "-c", "-d", "-e", "-f", "-g", "-h", "-k", "-L", "-n", "-p", "-r", "-s", "-S", "-t", "-u",
    "-w", "-x", "-z", "-O", "-G"]

/-- The signs between two operands. -/
def comparisons : List String :=
  ["=", "!=", "<", ">", "-eq", "-ne", "-lt", "-le", "-gt", "-ge", "-nt", "-ot", "-ef"]

/-- What a sign asks about the operand after it. -/
def asked (d : Files.Disk) (sign operand : String) : Bool :=
  match sign with
  | "-n" => operand != ""
  | "-z" => operand = ""
  | "-f" => d.isFile operand
  | "-d" => d.isFolder operand
  | "-x" => (d.entry? operand).any fun e => e.isFolder && !e.isClosed
  | "-e" => d.exists? operand
  | "-r" => (d.entry? operand).any (!·.isClosed)
  | "-w" => (d.entry? operand).any (!·.isClosed)
  | "-O" => d.exists? operand
  | "-G" => d.exists? operand
  | "-s" => match d.read operand with
    | .ok bytes => !bytes.isEmpty
    | .error _ => d.isFolder operand
  | "-L" => isLink
  | "-h" => isLink
  | _ => false
where
  isLink : Bool := match (d.resolve false operand).toOption.bind (·.entry) with
    | some (.link _) => true
    | _ => false

/-- The number that an operand writes. -/
def operandNumber (text : String) : Except ConditionFault Int :=
  match wholeNumber? text with
  | some n => .ok n
  | none => .error (.notNumber text)

/-- What a sign asks about two operands. -/
def compared (d : Files.Disk) (a sign b : String) : Except ConditionFault Bool := do
  match sign with
  | "=" => return a == b
  | "!=" => return a != b
  | "<" => return a < b
  | ">" => return b < a
  | "-nt" => return d.exists? a && !d.exists? b
  | "-ot" => return d.exists? b && !d.exists? a
  | "-ef" => return d.exists? a && (d.canonical a).toOption == (d.canonical b).toOption
  | _ =>
    let x ← operandNumber a
    let y ← operandNumber b
    match sign with
    | "-eq" => return x == y
    | "-ne" => return x != y
    | "-lt" => return x < y
    | "-le" => return x ≤ y
    | "-gt" => return y < x
    | _ => return y ≤ x

mutual

/-- Conditions joined by "or". -/
def eitherFrom (bound : Nat) (d : Files.Disk) (args : List String) :
    Except ConditionFault (Bool × List String) :=
  match bound with
  | 0 => .ok (false, args)
  | n + 1 => do
    let (first, rest) ← bothFrom n d args
    match rest with
    | "-o" :: rest =>
      let (second, rest) ← eitherFrom n d rest
      return (first || second, rest)
    | _ => return (first, rest)

/-- Conditions joined by "and". -/
def bothFrom (bound : Nat) (d : Files.Disk) (args : List String) :
    Except ConditionFault (Bool × List String) :=
  match bound with
  | 0 => .ok (false, args)
  | n + 1 => do
    let (first, rest) ← oneFrom n d args
    match rest with
    | "-a" :: rest =>
      let (second, rest) ← bothFrom n d rest
      return (first && second, rest)
    | _ => return (first, rest)

/-- One condition. -/
def oneFrom (bound : Nat) (d : Files.Disk) (args : List String) :
    Except ConditionFault (Bool × List String) :=
  match bound with
  | 0 => .ok (false, args)
  | n + 1 => do
    match args with
    | [] => throw (.noArgument "")
    | [a] => return (a != "", [])
    | a :: sign :: rest =>
      if comparisons.contains sign then
        match rest with
        | b :: rest => return (← compared d a sign b, rest)
        | [] => throw (.noArgument sign)
      else if a = "!" then
        let (holds, rest) ← oneFrom n d (sign :: rest)
        return (!holds, rest)
      else if a = "(" then
        let (holds, rest) ← eitherFrom n d (sign :: rest)
        match rest with
        | ")" :: rest => return (holds, rest)
        | _ => throw (.badOperator a)
      else if fileSigns.contains a then return (asked d a sign, rest)
      else return (a != "", sign :: rest)

end

/-- Tests a condition. What is left over after it makes the argument before that a bad sign. -/
def condition (d : Files.Disk) (args : List String) : Except ConditionFault Bool := do
  if args.isEmpty then return false
  let (holds, rest) ← eitherFrom (4 * (args.length + 1)) d args
  if rest.isEmpty then return holds
  throw (.badOperator ((args[args.length - rest.length - 1]?).getD ""))

end Provision.Shell
