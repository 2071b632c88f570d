import Provision.CommandLine.Help

/-!
# Reading the words of a command line

A command line is read word by word. A word that begins with a hyphen is a switch, or several
letters of switches together; the value of a switch stands after it in the same word or is the next
word, unless that one begins with a hyphen itself. A double hyphen ends the switches. What is read
of the words before a command, and of the words after it, is a `Given`.

The value of a switch that is in a word of its own is only looked at when the next switch comes or
the words end, so of two faults the one that is seen first is reported.
-/

namespace Provision.CommandLine

/-- Why a command line cannot be followed. -/
inductive Fault where
  | nothingGiven | noCommand | noArgument | unknownArgument | unknownCommand | surplusValue
  | badValue | conflict
  deriving Repr, DecidableEq

/-- Why reading a command line stops before its end. -/
inductive Stop where
  | answer (answer : Answer)
  | fault (fault : Fault)
  deriving Repr, DecidableEq

/-- What is given by some words: the switches in order, each with its value, and the arguments.
`pending` is a switch whose value is still to be looked at, or even to come. -/
structure Given where
  switches : List (Switch × String)
  arguments : List String
  pending : Option (Switch × Option String)

namespace Given

/-- Nothing is given yet. -/
def nothing : Given := ⟨[], [], none⟩

/-- Whether a switch is given. -/
def has (g : Given) (s : Switch) : Bool := g.switches.any (·.1 = s)

/-- The values of a switch. -/
def values (g : Given) (s : Switch) : List String :=
  (g.switches.filter (·.1 = s)).map (·.2)

/-- Takes note of a switch. -/
def add (g : Given) (s : Switch) (value : String) : Given :=
  { g with switches := g.switches ++ [(s, value)] }

/-- Whether a switch may have a value. -/
def accepts (s : Switch) (value : String) : Bool :=
  match s.description.manner with
  | .valued _ isPath _ => !isPath || value ≠ ""
  | _ => true

/-- Takes note of a switch with a value, which has to be the first one unless it may be repeated. -/
def addValue (g : Given) (s : Switch) (value : String) : Except Stop Given :=
  let repeats := match s.description.manner with
    | .valued _ _ repeats => repeats
    | _ => false
  if !repeats && g.has s then .error (.fault .conflict)
  else if accepts s value then .ok (g.add s value)
  else .error (.fault .badValue)

/-- Looks at the value of the pending switch. -/
def settle (g : Given) : Except Stop Given :=
  match g.pending with
  | none => .ok g
  | some (_, none) => .error (.fault .badValue)
  | some (s, some value) => { g with pending := none }.addValue s value

/-- Takes note of a switch that takes no value; `long` says how it was written. -/
def mark (c : Option Command) (long : Bool) (g : Given) (s : Switch) : Except Stop Given := do
  let g ← g.settle
  match s.description.manner with
  | .question => throw (.answer (if s = .version then .version else .help c long))
  | .counted => return g.add s ""
  | _ => if g.has s then throw (.fault .conflict) else return g.add s ""

/-- Waits for the value of a switch in the next word. -/
def await (g : Given) (s : Switch) : Except Stop Given := do
  return { ← g.settle with pending := some (s, none) }

/-- Whether a value has to come. -/
def awaits (g : Given) : Bool :=
  match g.pending with
  | some (_, none) => true
  | _ => false

/-- Reads a switch that is written with its name. -/
def readLong (c : Option Command) (g : Given) (cs : List Char) : Except Stop Given := do
  let name := cs.takeWhile (· ≠ '=')
  let value := cs.drop name.length
  match Switch.ofLong? c (String.ofList name) with
  | none => throw (.fault .unknownArgument)
  | some s =>
    match s.description.manner, value with
    | .valued .., [] => g.await s
    | .valued .., _ => (← g.settle).addValue s (String.ofList (value.drop 1))
    | _, [] => g.mark c true s
    | _, _ => throw (.fault .surplusValue)

/-- Reads switches that are written with their letters. -/
def readShorts (c : Option Command) (g : Given) : List Char → Except Stop Given
  | [] => .ok g
  | letter :: rest =>
    match Switch.ofShort? c letter with
    | none => .error (.fault .unknownArgument)
    | some s =>
      match s.description.manner, rest with
      | .valued .., [] => g.await s
      | .valued .., '=' :: value => do (← g.settle).addValue s (String.ofList value)
      | .valued .., value => do (← g.settle).addValue s (String.ofList value)
      | _, _ => do readShorts c (← g.mark c false s) rest

/-- The name of the command that prints help. -/
def helpName : String := "help"

/-- Whether a word is the name of a command. -/
def isCommandName (word : String) : Bool :=
  (Command.ofName? word).isSome || word = helpName

/-- Reads a word that is neither a switch nor the value of one. -/
def readArgument (c : Option Command) (afterHyphens : Bool) (g : Given) (word : String) :
    Except Stop Given :=
  match c with
  | none =>
    .error (.fault (if afterHyphens && isCommandName word then .unknownArgument
      else .unknownCommand))
  | some .completions =>
    if g.arguments.isEmpty then do return { ← g.settle with arguments := [word] }
    else .error (.fault .unknownArgument)
  | some _ => .error (.fault .unknownArgument)

/-- The answer to a request for help, which may name a command. -/
def helpOn : List String → Stop
  | [] => .answer (.help none true)
  | [name] =>
    match Command.ofName? name with
    | some c => .answer (.help (some c) true)
    | none => if name = helpName then .answer .helpOnHelp else .fault .unknownCommand
  | _ => .fault .unknownCommand

/-- Reads words up to the name of a command, which is given with the words after it. The words
after a command name no other one. -/
def readWords (c : Option Command) (afterHyphens : Bool) (g : Given) :
    List String → Except Stop (Given × Option (Command × List String))
  | [] => .ok (g, none)
  | word :: rest =>
    if afterHyphens then do readWords c true (← g.readArgument c true word) rest
    else if !g.awaits && c.isNone && word = helpName then .error (helpOn rest)
    else match (if !g.awaits && c.isNone then Command.ofName? word else none) with
      | some command => .ok (g, some (command, rest))
      | none =>
        match word.toList with
        | ['-', '-'] => readWords c true g rest
        | '-' :: '-' :: name => do readWords c false (← g.readLong c name) rest
        | '-' :: letter :: letters => do
          readWords c false (← g.readShorts c (letter :: letters)) rest
        | _ =>
          match g.pending with
          | some (s, none) => readWords c false { g with pending := some (s, some word) } rest
          | _ => do readWords c false (← g.readArgument c false word) rest

end Given

end Provision.CommandLine
