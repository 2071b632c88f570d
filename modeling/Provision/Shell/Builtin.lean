import Provision.Shell.Condition
import Provision.Shell.Expansion
import Provision.Shell.Format
import Provision.Shell.Signal
import Provision.Shell.TextTools

/-!
# The shell's own commands

Commands that work on the shell that runs them. `Run.special?` finds one whose failure ends the
shell, `Run.ordinary?` any other that needs no further command to be run.
-/

namespace Provision.Shell

/-- The ordinary commands of the shell itself. -/
def ordinaryNames : List String :=
  ["[", "alias", "cd", "command", "echo", "false", "fc", "getopts", "hash", "jobs", "kill", "local",
    "printf", "pwd", "read", "test", "true", "type", "ulimit", "umask", "unalias", "wait"]

/-- The programs that a shell finds. -/
def programNames : List String :=
  ["basename", "cat", "chmod", "cp", "dash", "dirname", "env", "grep", "head", "ln", "ls", "mkdir",
    "mv", "rm", "rmdir", "seq", "sh", "sleep", "sort", "tail", "tee", "touch", "uniq", "wc",
    "which"]

/-- The program that a path names. Some of the shell's own commands are programs, too. -/
def programAt? (path : String) : Option String :=
  let own := ["[", "echo", "false", "kill", "printf", "pwd", "test", "true"]
  ["/bin/", "/usr/bin/"].findSome? fun folder =>
    (Text.afterStart folder.toList path.toList).bind fun name =>
      (programNames ++ own).find? (·.toList = name)

/-- A text in single quotes. -/
def singleQuoted (text : String) : String := "'" ++ Text.replaceAll "'" "'\"'\"'" text ++ "'"

/-- The name and the value in an argument that assigns. -/
def assignmentParts (a : String) : String × Option String :=
  let name := a.toList.takeWhile (· != '=')
  (String.ofList name,
    if name.length < a.length then some (String.ofList (a.toList.drop (name.length + 1)))
    else none)

/-- The first field of a line that is read, and the rest. Blanks and one other separator after a
field end it. -/
def takeField (separators : List Char) (line : List Mark) : List Char × List Mark :=
  let splits (m : Mark) : Bool := m.active && separators.contains m.char
  let blank (m : Mark) : Bool := splits m && (m.char == ' ' || m.char == '\t')
  let line := line.dropWhile blank
  let field := line.takeWhile (!splits ·)
  let rest := (line.drop field.length).dropWhile blank
  let rest := if rest.head?.any splits then (rest.drop 1).dropWhile blank else rest
  (markedText field, rest)

/-- What is read up to the end of a line, and whether there was one. A backslash joins lines and
keeps a character from having a meaning, unless the text is taken as it is. -/
def lineMarks (raw : Bool) : List Char → List Mark × List Char × Bool
  | [] => ([], [], false)
  | '\n' :: cs => ([], cs, true)
  | c :: cs =>
    match c == '\\' && !raw, cs with
    | true, '\n' :: cs => lineMarks raw cs
    | true, d :: cs =>
      let (ms, rest, ended) := lineMarks raw cs
      (⟨d, false⟩ :: ms, rest, ended)
    | true, [] => ([], [], false)
    | false, cs =>
      let (ms, rest, ended) := lineMarks raw cs
      (⟨c, true⟩ :: ms, rest, ended)

namespace Run

/-- Ends the shell unless a text is the name of a variable. -/
def checkName (command name : String) : Run Unit := do
  if !isName name then giveUp (command ++ ": " ++ name ++ ": bad variable name")

/-- Switches a setting. -/
def switch (on : Bool) (letter : Char) : Run Unit := do
  let put (f : Settings → Settings) : Run Unit :=
    modify fun s => { s with settings := f s.settings }
  match letter with
  | 'e' => put fun s => { s with strict := on }
  | 'u' => put fun s => { s with known := on }
  | 'x' => put fun s => { s with traced := on }
  | 'f' => put fun s => { s with literal := on }
  | 'n' => put fun s => { s with idle := on }
  | c =>
    if !"aCbmvV".toList.contains c then
      giveUp ("set: Illegal option " ++ String.ofList [if on then '-' else '+', c])

/-- The letters of the settings by their long names. -/
def settingNames : List (String × Char) :=
  [("errexit", 'e'), ("nounset", 'u'), ("xtrace", 'x'), ("noglob", 'f'), ("noexec", 'n'),
    ("allexport", 'a'), ("verbose", 'v'), ("noclobber", 'C'), ("notify", 'b'), ("monitor", 'm')]

/-- Switches the settings that arguments ask for; the others become the arguments. -/
def applySettings : List String → Run Unit
  | [] => pure ()
  | a :: rest => do
    let others (rest : List String) : Run Unit := modify fun s => { s with arguments := rest }
    match a.toList with
    | ['-', '-'] => others rest
    | ['-'] => others rest
    | sign :: flags =>
      if sign != '-' && sign != '+' then others (a :: rest)
      else
        let on := sign == '-'
        flags.filter (· != 'o') |>.forM (switch on)
        if flags.contains 'o' then
          match rest with
          | [] => pure ()
          | name :: rest =>
            match settingNames.find? (fun s => s.1 = name) with
            | some (_, c) => switch on c
            | none => giveUp ("set: Illegal option " ++ String.singleton sign ++ "o " ++ name)
            applySettings rest
        else applySettings rest
    | [] => others (a :: rest)

/-- Marks variables, which may be given values at the same time. -/
def declare (command : String) (mark : Variable → Variable) (args : List String) : Run Nat := do
  for a in args do
    let (name, value) := assignmentParts a
    checkName command name
    if let some v := value then assign name v
    let v ← named? name
    putVariable (mark (v.getD ⟨name, none, false, false⟩))
  return 0

/-- Shows variables in the order of their names. -/
def showVariables (lead : String) (chosen : Variable → Bool) : Run Nat := do
  let vs := ((← get).values.filter chosen).mergeSort (·.name ≤ ·.name)
  for v in vs do
    writeLine (lead ++ v.name ++
      match v.value with
      | some text => "=" ++ singleQuoted text
      | none => "")
  return 0

/-- Hides variables in a function. -/
def hide (args : List String) : Run Nat := do
  match (← get).hidden with
  | none =>
    complain "local: not in a function"
    return 2
  | some _ =>
    for a in args do
      let (name, value) := assignmentParts a
      let old ← named? name
      modify fun s => { s with hidden := s.hidden.map ((name, old) :: ·) }
      if let some v := value then assign name v
    return 0

/-- Sets what is run when something happens; a dash sets nothing to be run. -/
def setTraps (action : String) : List String → Run Nat
  | [] => return 0
  | text :: rest => do
    match trapName? text with
    | none =>
      complainAs "trap" (text ++ ": bad trap")
      return 1
    | some name =>
      modify fun s =>
        let others := s.traps.filter (fun t => t.1 != name)
        { s with traps := if action = "-" then others else (name, action) :: others }
      setTraps action rest

/-- The number that a command was given as its only argument, if it was given one. -/
def countArgument (command : String) (args : List String) : Run (Option Nat) := do
  match args with
  | [] => return none
  | a :: _ =>
    match a.toNat? with
    | some n => return some n
    | none => giveUp (command ++ ": Illegal number: " ++ a)

/-- A command whose failure ends the shell. -/
def special? (run : Runner) (name : String) (args : List String) : Option (Run Nat) :=
  match name with
  | ":" => some (return 0)
  | "times" => some (return 0)
  | "exit" => some do
    let n ← countArgument name args
    setStatus ((n.getD (← get).status) % 256)
    throw .leave
  | "return" => some do
    let n ← countArgument name args
    setStatus (n.getD (← get).status)
    throw .back
  | "break" => some do
    let n ← countArgument name args
    let depth := (← get).loops
    setStatus 0
    if depth = 0 then return 0 else throw (.leaveLoop (min (n.getD 1) depth - 1))
  | "continue" => some do
    let n ← countArgument name args
    let depth := (← get).loops
    setStatus 0
    if depth = 0 then return 0 else throw (.nextRound (min (n.getD 1) depth - 1))
  | "eval" => some do
    setStatus 0
    run "eval: " (String.intercalate " " args).toList
    return (← get).status
  | "." => some do
    let path := args.head?.getD ""
    if !path.toList.contains '/' then giveUp (".: " ++ path ++ ": not found")
    match (← get).disk.readText path with
    | .ok text =>
      setStatus 0
      try run (path ++ ": ") text.toList
      catch
        | .back => pure ()
        | stop => throw stop
      return (← get).status
    | .error _ => giveUp (".: cannot open " ++ path ++ ": No such file")
  | "export" => some <|
    if args.isEmpty || args = ["-p"] then showVariables "export " (·.exported)
    else declare name (fun v => { v with exported := true }) args
  | "readonly" => some <|
    if args.isEmpty || args = ["-p"] then showVariables "readonly " (·.fixed)
    else declare name (fun v => { v with fixed := true }) args
  | "set" => some do
    if args.isEmpty then showVariables "" (·.value.isSome)
    else
      applySettings args
      return 0
  | "shift" => some do
    let n := (← countArgument name args).getD 1
    let s ← get
    if s.arguments.length < n then giveUp "shift: can't shift that many"
    set { s with arguments := s.arguments.drop n }
    return 0
  | "trap" => some do
    match args with
    | [] =>
      for (event, action) in (← get).traps.reverse do
        writeLine ("trap -- " ++ singleQuoted action ++ " " ++ event)
      return 0
    | [event] => setTraps "-" [event]
    | action :: events => setTraps action events
  | "unset" => some do
    let functions := args.head? = some "-f"
    for a in args.filter (·.toList.head? != some '-') do
      if functions then
        modify fun s => { s with functions := s.functions.filter (fun f => f.1 != a) }
      else
        checkName name a
        if (← named? a).any (·.fixed) then giveUp ("unset: " ++ a ++ ": is read only")
        dropVariable a
    return 0
  | _ => none

/-- Goes to a folder. -/
def changeFolder (args : List String) : Run Nat := do
  let s ← get
  let home ← valueOf? "HOME"
  let target ← match args.find? (fun a => a != "-P" && a != "-L" && a != "--") with
    | some "-" => valueOf? "OLDPWD"
    | some a => pure (some a)
    | none => pure home
  match target with
  | none => return 0
  | some target =>
    match (s.disk.resolve true target).toOption with
    | some ⟨names, some (.folder _)⟩ =>
      set { s with disk := { s.disk with here := names } }
      assign "OLDPWD" (pathOf s.disk.here)
      assign "PWD" (pathOf names)
      if args.contains "-" then writeLine (pathOf names)
      return 0
    | _ =>
      complain ("cd: can't cd to " ++ target)
      return 2

/-- Reads a line of the input into variables; the last one takes what is left. -/
def readLine (args : List String) : Run Nat := do
  let (flags, names) := splitFlags args
  if names.isEmpty then
    complain "read: arg count"
    return 2
  let s ← get
  let (line, rest, ended) := lineMarks (flags.contains 'r') (charsOf s.input)
  set { s with input := bytesOf rest }
  let seps ← separators
  let blank (m : Mark) : Bool :=
    m.active && seps.contains m.char && (m.char == ' ' || m.char == '\t')
  let rec give (line : List Mark) : List String → Run Unit
    | [] => pure ()
    | [name] =>
      let whole := ((line.dropWhile blank).reverse.dropWhile blank).reverse
      assign name (String.ofList (markedText whole))
    | name :: rest => do
      let (field, line) := takeField seps line
      assign name (String.ofList field)
      give line rest
  give line names
  return statusOf ended

/-- Sends a signal to processes: to the one that started the shell, for which it may be an
interrupt, or to a shell. A shell may have set something to be run instead. -/
def send (run : Runner) (number : Nat) (signal : Option Signal) : List String → Run Nat
  | [] => return 0
  | target :: rest => do
    let s ← get
    match target.toNat? with
    | none =>
      complain ("kill: Illegal number: " ++ target)
      return 2
    | some p =>
      if p < starter || s.process < p then
        complain "kill: No such process\n"
        let _ ← send run number signal rest
        return 1
      let trapped := (s.traps.find? fun t => signal.any (·.name = t.1)).map (·.2)
      match signal, trapped with
      | none, _ => pure ()
      | some signal, trapped =>
        if p = starter then
          if [2, 15].contains signal.number then
            set { s with events := .interrupt :: s.events }
        else if p != s.process || trapped.isNone || signal.number = 9 then
          throw (.signal p signal.number ("SIG" ++ signal.name))
        else run "" (trapped.getD "").toList
      send run number signal rest

/-- Sends the signal that arguments name. -/
def kill (run : Runner) (args : List String) : Run Nat := do
  let sendTo (name : String) (wrong : String) (targets : List String) : Run Nat := do
    match signal? name with
    | some signal => send run signal.number (some signal) targets
    | none =>
      if name = "0" then send run 0 none targets
      else
        complain ("kill: " ++ wrong)
        return 2
  match args with
  | [] =>
    complain "kill: Usage: kill [-s sigspec | -signum | -sigspec] [pid | job]... or"
    writeError "kill -l [exitstatus]"
    return 2
  | "-l" :: numbers =>
    for n in numbers do
      if let some signal := signal? n then writeLine signal.name
    return 0
  | "-s" :: name :: targets => sendTo name ("invalid signal number or name: " ++ name) targets
  | a :: targets =>
    match a.toList with
    | '-' :: name =>
      sendTo (String.ofList name) ("Illegal option -" ++ String.ofList (name.take 1)) targets
    | _ => sendTo "TERM" "" args

/-- What a name stands for as a command: a text about it, or none if nothing is found. -/
def kindOf (verbose : Bool) (name : String) : Run (Option String) := do
  let s ← get
  let said (short long : String) : Option String := some (if verbose then name ++ long else short)
  if keywords.contains name then return said name " is a shell keyword"
  if reservedNames.contains name then return said name " is a special shell builtin"
  if s.functions.any (fun f => f.1 = name) then return said name " is a shell function"
  if ordinaryNames.contains name then return said name " is a shell builtin"
  if programNames.contains name then
    return said ("/usr/bin/" ++ name) (" is /usr/bin/" ++ name)
  if (programAt? name).isSome then return said name (" is " ++ name)
  return none

/-- Shows where programs are found. -/
def locate (names : List String) : Run Nat := do
  let found := names.filter fun n => (programAt? ("/usr/bin/" ++ n)).isSome
  for n in found do writeLine ("/usr/bin/" ++ n)
  return if found.length = names.length then 0 else 1

/-- Says what names stand for. -/
def describe (verbose : Bool) (names : List String) : Run Nat := do
  let mut status := 0
  for name in names do
    match ← kindOf verbose name with
    | some text => writeLine text
    | none =>
      if verbose then writeLine (name ++ ": not found")
      status := 127
  return status

/-- Tests a condition under the name it was asked for by. -/
def test (name : String) (args : List String) : Run Nat := do
  match condition (← get).disk args with
  | .ok holds => return statusOf holds
  | .error f =>
    complain (name ++ ": " ++ f.message)
    return 2

/-- An ordinary command of the shell itself. -/
def ordinary? (run : Runner) (name : String) (args : List String) : Option (Run Nat) :=
  match name with
  | "true" => some (return 0)
  | "false" => some (return 1)
  | "echo" => some do
    let (newline, args) := if args.head? = some "-n" then (false, args.drop 1) else (true, args)
    let (bytes, stop) := escaped true (String.intercalate " " args)
    writeBytes (if newline && !stop then bytes ++ [10] else bytes)
    return 0
  | "printf" => some do
    match if args.head? = some "--" then args.drop 1 else args with
    | [] =>
      complain "printf: usage: printf format [arg ...]"
      return 2
    | format :: args =>
      let (bytes, complaints, status) := formatted format args
      writeBytes bytes
      for c in complaints do complain ("printf: " ++ c)
      return status
  | "test" => some (test "test" args)
  | "[" => some do
    if args.getLast? = some "]" then test "[" args.dropLast
    else
      complain "[: missing ]"
      return 2
  | "cd" => some (changeFolder args)
  | "pwd" => some do
    writeLine (pathOf (← get).disk.here)
    return 0
  | "read" => some (readLine args)
  | "local" => some (hide args)
  | "kill" => some (kill run args)
  | "type" => some (describe true args)
  | "umask" => some do
    if args.isEmpty then writeLine "0022"
    return 0
  | "wait" => some do
    if args.isEmpty then return 0 else return (← get).jobStatus
  | "ulimit" => some (return 0)
  | "jobs" => some (return 0)
  | "hash" => some (return 0)
  | "alias" => some (return 0)
  | "unalias" => some (return 0)
  | _ => none

end Run

end Provision.Shell
