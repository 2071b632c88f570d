import Provision.Shell.Command
import Provision.Files.Tree

/-!
# A shell at work

A `Session` is the state of a running shell: its files, variables and functions, and what happened
so far. What a command writes goes to a `Sink`: to one of the two outputs, to a file, into the pipe
to the next command, or nowhere. `Run` is work in a session that may stop early.
-/

namespace Provision.Shell

/-- Something a shell does that others notice. The files are as they were at that time. -/
inductive Event where
  | output (error : Bool) (bytes : List UInt8)
  | pause (tenths : Nat) (disk : Files.Disk)
  | interrupt
  deriving Inhabited

/-- Where written bytes go. -/
inductive Sink where
  | output (error : Bool)
  | file (path : String)
  | pipe
  | nowhere
  deriving Inhabited, DecidableEq

/-- A variable. One that is exported is seen by other programs, a fixed one is not changed. -/
structure Variable where
  name : String
  value : Option String
  exported : Bool
  fixed : Bool

/-- What can be set: that a failing command ends the shell, that every variable must have a value,
that commands are shown, that wildcards stand for themselves, and that nothing is run. -/
structure Settings where
  strict : Bool
  known : Bool
  traced : Bool
  literal : Bool
  idle : Bool

/-- No setting is on. -/
def Settings.none : Settings := ⟨false, false, false, false, false⟩

instance : Inhabited Settings := ⟨.none⟩

/-- The state of a running shell. The newest events and piped bytes come first. -/
structure Session where
  disk : Files.Disk
  /-- What the shell calls itself in its messages. -/
  name : String
  process : Nat
  line : Nat
  values : List Variable
  functions : List (String × Command)
  arguments : List String
  status : Nat
  settings : Settings
  /-- What is run at the end, or when a signal comes. -/
  traps : List (String × String)
  input : List UInt8
  sink : Sink
  errorSink : Sink
  /-- Where other streams than these two go, by their numbers. -/
  otherSinks : List (Nat × Sink)
  piped : List UInt8
  events : List Event
  /-- How many loops the command that runs is in. -/
  loops : Nat
  /-- Whether a failure is looked at, so that it does not end a strict shell. -/
  watched : Bool
  /-- The variables that a function hides, in the function that runs. -/
  hidden : Option (List (String × Option Variable))
  /-- The status of the last command that ran in the background. -/
  jobStatus : Nat
  deriving Inhabited

/-- Why a shell stops before the end of its command. A loop may be left together with some that it
is in. -/
inductive Stop where
  | leave | back
  | nextRound (outer : Nat)
  | leaveLoop (outer : Nat)
  | signal (process number : Nat) (name : String)
  deriving DecidableEq

/-- Work in a session, which may stop. What was done before stays. -/
abbrev Run (α : Type) := ExceptT Stop (StateM Session) α

/-- The first process of a shell. Its parent comes before it. -/
def firstProcess : Nat := 3

/-- The process that started the shell. -/
def starter : Nat := 2

/-- The bytes of characters. -/
def bytesOf (cs : List Char) : List UInt8 := Text.bytesOf (String.ofList cs)

/-- The characters of bytes. -/
def charsOf (bytes : List UInt8) : List Char := (Text.ofBytesLenient bytes).toList

/-- The path of a list of names from the root. -/
def pathOf (names : List String) : String := "/" ++ String.intercalate "/" names

namespace Run

/-- Writes bytes to a sink. -/
def writeTo (sink : Sink) (bytes : List UInt8) : Run Unit := do
  match sink with
  | .output error => modify fun s => { s with events := .output error bytes :: s.events }
  | .file path =>
    modify fun s =>
      match s.disk.write true path bytes with
      | .ok d => { s with disk := d }
      | .error _ => s
  | .pipe => modify fun s => { s with piped := bytes.reverse ++ s.piped }
  | .nowhere => pure ()

/-- Writes bytes to the output. -/
def writeBytes (bytes : List UInt8) : Run Unit := do writeTo (← get).sink bytes

/-- Writes a text to the output. -/
def write (text : String) : Run Unit := writeBytes (Text.bytesOf text)

/-- Writes a line to the output. -/
def writeLine (text : String) : Run Unit := write (text ++ "\n")

/-- Writes a line to the error output. -/
def writeError (text : String) : Run Unit := do
  writeTo (← get).errorSink (Text.bytesOf (text ++ "\n"))

/-- Writes a line of the shell itself to the error output. -/
def complain (message : String) : Run Unit := do
  let s ← get
  writeError (s.name ++ ": " ++ toString s.line ++ ": " ++ message)

/-- Writes a line of a tool to the error output. -/
def complainAs (tool message : String) : Run Unit := writeError (tool ++ ": " ++ message)

/-- Sets the status. -/
def setStatus (n : Nat) : Run Unit := modify fun s => { s with status := n }

/-- Ends the shell with a message. -/
def giveUp {α : Type} (message : String) : Run α := do
  complain message
  setStatus 2
  throw .leave

/-- Waits for some tenths of a second. -/
def pause (tenths : Nat) : Run Unit :=
  modify fun s => { s with events := .pause tenths s.disk :: s.events }

/-- A variable. -/
def named? (name : String) : Run (Option Variable) := do
  return (← get).values.find? (·.name = name)

/-- Puts a variable in place of the one of its name. -/
def putVariable (v : Variable) : Run Unit :=
  modify fun s => { s with values := v :: s.values.filter (·.name != v.name) }

/-- Removes a variable. -/
def dropVariable (name : String) : Run Unit :=
  modify fun s => { s with values := s.values.filter (·.name != name) }

/-- The letters of the settings that are on. -/
def settingLetters (s : Settings) : String :=
  String.ofList ([(s.known, 'u'), (s.traced, 'x'), (s.literal, 'f'), (s.strict, 'e')].filterMap
    fun (on, c) => if on then some c else none)

/-- The value of a variable, which is one of the shell's own if its name is a sign or a number. -/
def valueOf? (name : String) : Run (Option String) := do
  let s ← get
  match name with
  | "?" => return some (toString s.status)
  | "#" => return some (toString s.arguments.length)
  | "$" => return some (toString s.process)
  | "!" => return some (toString (s.process + 1))
  | "PPID" => return some (toString (s.process - 1))
  | "-" => return some (settingLetters s.settings)
  | "0" => return some s.name
  | "@" => return some (String.intercalate " " s.arguments)
  | "*" => return some (String.intercalate " " s.arguments)
  | _ =>
    match name.toNat? with
    | some n => return s.arguments[n - 1]?
    | none => return (← named? name).bind (·.value)

/-- Gives a variable a value. -/
def assign (name value : String) : Run Unit := do
  match ← named? name with
  | some v =>
    if v.fixed then giveUp (name ++ ": is read only")
    else putVariable { v with value := some value }
  | none => putVariable ⟨name, some value, false, false⟩

/-- The characters at which values are cut. -/
def separators : Run (List Char) := do
  return ((← valueOf? "IFS").getD " \t\n").toList

/-- Changes the files, or says why they cannot be changed. -/
def changeDisk (f : Files.Disk → Except Files.Problem Files.Disk) :
    Run (Option Files.Problem) := do
  let s ← get
  match f s.disk with
  | .ok d =>
    set { s with disk := d }
    return none
  | .error p => return some p

end Run

/-- The text of a failed operation on files, as tools word it. -/
def problemText (p : Files.Problem) : String :=
  match p with
  | .missing => "No such file or directory"
  | .exists => "File exists"
  | .notFolder => "Not a directory"
  | .isFolder => "Is a directory"
  | .tooLong => "File name too long"
  | .loop => "Too many levels of symbolic links"
  | .closed reason => (reason.splitOn " (os error").headD reason
  | _ => "Invalid argument"

/-- The status of a truth value. -/
def statusOf (holds : Bool) : Nat := if holds then 0 else 1

end Provision.Shell
