import Provision.Shell.Builtin

/-!
# Running shell commands

`Run.perform` runs a command in a session and leaves its status there, and `Run.text` runs a
script. A command is run by the functions for its kind, which are given a way to run the commands
in it; the first argument of `perform` bounds how deep commands nest and how often loops go round.
-/

namespace Provision.Shell

/-- The stream that a redirection names, and where it goes. -/
def Session.sinkOf (s : Session) (stream : Nat) : Option Sink :=
  match stream with
  | 1 => some s.sink
  | 2 => some s.errorSink
  | n => (s.otherSinks.find? (fun o => o.1 = n)).map (·.2)

/-- A session in which a stream goes somewhere. -/
def Session.withSink (s : Session) (stream : Nat) (sink : Sink) : Session :=
  match stream with
  | 1 => { s with sink }
  | 2 => { s with errorSink := sink }
  | n => { s with otherSinks := (n, sink) :: s.otherSinks.filter (fun o => o.1 != n) }

/-- Whether a redirection is one of the input. -/
def Redirect.isInput : Redirect → Bool
  | .read _ => true
  | .document _ => true
  | _ => false

/-- Whether a word asks for the output of a command. -/
def Word.runsCommand (w : Word) : Bool :=
  w.any fun p => match p with
    | .output _ _ => true
    | _ => false

namespace Run

/-! ## Redirections -/

/-- Opens the file that output goes to. -/
def openSink (append : Bool) (path : String) : Run (Option Sink) := do
  if path = "/dev/null" then return some .nowhere
  if path = "/dev/stdout" then return some (← get).sink
  if path = "/dev/stderr" then return some (← get).errorSink
  let d := (← get).disk
  let content := if append then (d.read path).toOption.getD [] else []
  match ← changeDisk (·.write false path content) with
  | none =>
    -- The folder may change before the file is written again.
    return some (.file (if Files.isAbsolute path then path else pathOf (d.here ++ [path])))
  | some p =>
    complain ("cannot create " ++ path ++ ": " ++
      (if p = .missing then "Directory nonexistent" else problemText p))
    return none

/-- Opens the file that input comes from. -/
def openInput (path : String) : Run Bool := do
  if path = "/dev/null" then
    modify fun s => { s with input := [] }
    return true
  match (← get).disk.read path with
  | .ok bytes =>
    modify fun s => { s with input := bytes }
    return true
  | .error p =>
    complain ("cannot open " ++ path ++ ": " ++
      (if p = .missing then "No such file" else problemText p))
    return false

/-- Opens what redirections ask for, and tells whether that worked. -/
def redirect (run : Runner) : List Redirect → Run Bool
  | [] => return true
  | r :: rest => do
    let worked ← match r with
      | .write stream append target => do
        match ← openSink append (← expandText run target) with
        | none => pure false
        | some sink =>
          modify (·.withSink stream sink)
          pure true
      | .copy stream target => do
        let target ← expandText run target
        let s ← get
        let sink := if target = "-" then some .nowhere else target.toNat?.bind s.sinkOf
        match sink with
        | some sink =>
          modify (·.withSink stream sink)
          pure true
        | none =>
          complain (target ++ ": Bad file descriptor")
          pure false
      | .read source => do openInput (← expandText run source)
      | .document body => do
        let text ← expandText run body
        modify fun s => { s with input := Text.bytesOf text }
        pure true
    if worked then redirect run rest
    else
      setStatus 2
      return false

/-- The outputs are as they were in an earlier session, and so is an input that was redirected. -/
def restoreStreams (old : Session) (rs : List Redirect) : Run Unit :=
  modify fun s =>
    { s with
      sink := old.sink
      errorSink := old.errorSink
      otherSinks := old.otherSinks
      input := if rs.any Redirect.isInput then old.input else s.input }

/-! ## Simple commands -/

/-- Assigns variables in order, and gives the assignments as they are shown. -/
def assignAll (run : Runner) (exported : Bool) :
    List (String × Word) → Run (List String)
  | [] => return []
  | (name, w) :: rest => do
    let value ← expandText run w
    assign name value
    if exported then
      if let some v ← named? name then putVariable { v with exported := true }
    return (name ++ "=" ++ value) :: (← assignAll run exported rest)

/-- Shows a command before it runs, if that was asked for. -/
def trace (texts : List String) : Run Unit := do
  if (← get).settings.traced then writeError ("+ " ++ String.intercalate " " texts)

/-- Runs a program in a process of its own, under a name and with arguments. It knows the exported
variables and nothing else of this shell; a signal may end it. -/
def asProgram (run : Runner) (name : String) (args : List String) (x : Run Unit) : Run Unit := do
  let old ← get
  let process := old.process + 1
  let values := (old.values.filter (·.exported)).map fun v => { v with fixed := false }
  set
    { old with
      name, process, values, line := 1, arguments := args, functions := [], settings := .none
      traps := [], loops := 0, watched := false, hidden := none }
  let ended : Option Nat ← try
      withEnding run x
      pure none
    catch
      | .signal p n name => if p = process then pure (some n) else throw (.signal p n name)
      | _ => pure none
  modify fun s =>
    { old with
      disk := { s.disk with here := old.disk.here }
      status := s.status % 256
      input := s.input
      piped := s.piped
      events := s.events }
  if let some n := ended then
    if let some text := (signals.find? (·.number = n)).bind (·.said) then writeError text
    setStatus (128 + n)

/-- Runs a shell as a program. -/
def shellProgram (run : Runner) (args : List String) : Run Unit := do
  let flags := args.takeWhile fun a => a.toList.head? = some '-' && a.length > 1
  let letters := flags.flatMap fun f => (f.toList.drop 1)
  let settings : Run Unit := (letters.filter (· != 'c')).forM (switch true)
  match letters.contains 'c', args.drop flags.length with
  | true, script :: name =>
    asProgram run (name.head?.getD "sh") (name.drop 1) do
      settings
      run "" script.toList
  | true, [] =>
    writeError "sh: 0: -c requires an argument"
    setStatus 2
  | false, path :: rest =>
    match (← get).disk.readText path with
    | .ok text =>
      asProgram run path rest do
        settings
        run "" text.toList
    | .error _ =>
      writeError ("sh: 0: cannot open " ++ path ++ ": No such file")
      setStatus 2
  | false, [] => do
    let text := charsOf (← takeInput)
    asProgram run "sh" [] do
      settings
      run "" text

/-- Runs a function with arguments. What it hides comes back in the end. -/
def callFunction (perform : Command → Run Unit) (body : Command) (args : List String) :
    Run Unit := do
  let old ← get
  set { old with arguments := args, loops := 0, hidden := some [] }
  try perform body
  catch
    | .back => pure ()
    | stop => throw stop
  for (name, v) in (← get).hidden.getD [] do
    match v with
    | some v => putVariable v
    | none => dropVariable name
  modify fun s => { s with arguments := old.arguments, loops := old.loops, hidden := old.hidden }

/-- Runs a command that was expanded to its fields. `bound` is more than twice their number. -/
def invoke (perform : Command → Run Unit) (run : Runner) (bound : Nat) (fields : List String) :
    Run Unit :=
  match bound, fields with
  | n + 1, name :: args => do
    if name = "exec" then
      if !args.isEmpty then
        let known := (← kindOf false (args.head?.getD "")).isSome
        if known then invoke perform run n args
        else
          complain ("exec: " ++ args.head?.getD "" ++ ": not found")
          setStatus 127
        throw .leave
      setStatus 0
    else if let some command := special? run name args then setStatus (← command)
    else if let some (_, body) := (← get).functions.find? (fun f => f.1 = name) then
      callFunction perform body args
    else if name = "command" then
      match args with
      | "-v" :: names => setStatus (← describe false names)
      | "-V" :: names => setStatus (← describe true names)
      | args => invoke perform run n args
    else if name = "env" then
      let assignments := args.takeWhile fun a => a.toList.contains '='
      let old := (← get).values
      for a in assignments do
        let (x, value) := assignmentParts a
        putVariable ⟨x, value, true, false⟩
      match args.drop assignments.length with
      | [] =>
        let vs := (← get).values.filter (·.exported)
        for v in vs.mergeSort (·.name ≤ ·.name) do writeLine (v.name ++ "=" ++ v.value.getD "")
        setStatus 0
      | fields => invoke perform run n fields
      modify fun s => { s with values := old }
    else if let some program := programAt? name then invoke perform run n (program :: args)
    else if name = "sh" || name = "dash" then shellProgram run args
    else if name = "which" then setStatus (← locate args)
    else if let some command := ordinary? run name args then setStatus (← command)
    else if let some command := fileTool? name args <|> textTool? name args then
      setStatus (← command)
    else if name.toList.contains '/' && (← get).disk.exists? name then
      complain (name ++ ": Permission denied")
      setStatus 126
    else
      complain (name ++ ": not found")
      setStatus 127
  | _, _ => setStatus 0

/-- Runs a simple command. What it assigns stays only if there is no command, or one of the
shell's own whose failure ends it. -/
def simple (perform : Command → Run Unit) (run : Runner) (assignments : List (String × Word))
    (words : List Word) (redirects : List Redirect) : Run Unit := do
  let fields ← expandFields run words
  let old ← get
  match fields with
  | [] =>
    let asked := words.any Word.runsCommand || assignments.any fun a => Word.runsCommand a.2
    let texts ← assignAll run false assignments
    if !texts.isEmpty then trace texts
    if ← redirect run redirects then
      if !asked then setStatus 0
    restoreStreams old redirects
  | name :: args =>
    let stays := reservedNames.contains name
    if ← redirect run redirects then
      let before ← get
      let texts ← assignAll run true assignments
      if before.settings.traced then
        writeTo old.errorSink
          (Text.bytesOf ("+ " ++ String.intercalate " " (texts ++ fields) ++ "\n"))
      invoke perform run (2 * fields.length + 1) fields
      if !stays && !assignments.isEmpty then
        let assigned (v : Variable) : Bool := assignments.any fun a => a.1 = v.name
        modify fun s =>
          { s with
            values := before.values.filter assigned ++ s.values.filter (!assigned ·) }
    else if stays then throw .leave
    if !(name = "exec" && args.isEmpty) then restoreStreams old redirects

/-! ## Loops -/

/-- Runs the body of a loop once, and tells whether the loop goes on. -/
def oneRound (body : Run Unit) : Run Bool := do
  let depth := (← get).loops
  modify fun s => { s with loops := depth + 1 }
  let go ← try
      body
      pure true
    catch
      | .leaveLoop 0 => pure false
      | .leaveLoop (n + 1) => throw (.leaveLoop n)
      | .nextRound 0 => pure true
      | .nextRound (n + 1) => throw (.nextRound n)
      | stop => throw stop
  modify fun s => { s with loops := depth }
  return go

/-- Runs the body of a loop for each value of its variable. -/
def eachValue (name : String) (body : Run Unit) : List String → Run Unit
  | [] => pure ()
  | v :: rest => do
    assign name v
    if ← oneRound body then eachValue name body rest

/-- Does something whose failure is looked at. -/
def watched (x : Run Unit) : Run Unit := do
  let old := (← get).watched
  modify fun s => { s with watched := true }
  x
  modify fun s => { s with watched := old }

/-- Runs the body of a loop as long as its condition ends as expected. The status is that of the
last round. -/
def whileExpected (bound : Nat) (expected : Bool) (condition body : Run Unit) (status : Nat) :
    Run Unit :=
  match bound with
  | 0 => throw .leave
  | n + 1 => do
    watched condition
    if ((← get).status = 0) = expected then
      if ← oneRound body then whileExpected n expected condition body (← get).status
    else setStatus status

/-- The command of the first arm whose pattern describes a text. -/
def chosenArm (run : Runner) (text : List Char) :
    List (List Word × Command) → Run (Option Command)
  | [] => return none
  | (patterns, body) :: rest => do
    let hit ← patterns.anyM fun p => return fits (← expandPattern run p) text
    if hit then return some body else chosenArm run text rest

/-! ## Commands -/

/-- Ends a strict shell if the last command failed and nobody looks at that. -/
def endIfStrict : Run Unit := do
  let s ← get
  if s.settings.strict && !s.watched && s.status != 0 then throw .leave

/-- Runs the text of a script: the commands before its first fault, which ends the shell. -/
def text (perform : Command → Run Unit) : Runner := fun lead cs => do
  let script := Script.read cs
  script.commands.forM perform
  if let some m := script.misread then
    modify fun s => { s with line := m.line }
    giveUp (lead ++ m.fault.message)

/-- Runs something in the background, where nobody waits for it. -/
def background (run : Runner) (x : Run Unit) : Run Unit := do
  let before := (← get).events.length
  apart run x
  modify fun s =>
    let isPause (e : Event) : Bool := match e with
      | .pause _ _ => true
      | _ => false
    let new := s.events.take (s.events.length - before)
    { s with
      events := new.filter (!isPause ·) ++ s.events.drop new.length
      jobStatus := s.status
      status := 0 }

/-- Runs a command. -/
def perform (bound : Nat) (c : Command) : Run Unit :=
  match bound with
  | 0 => throw .leave
  | n + 1 => do
    let run := text (perform n)
    if !(← get).settings.idle then
      match c with
      | .skip => pure ()
      | .simple line assignments words redirects =>
        modify fun s => { s with line }
        simple (perform n) run assignments words redirects
        endIfStrict
      | .sequence first second =>
        perform n first
        perform n second
      | .both first second =>
        watched (perform n first)
        if (← get).status = 0 then perform n second
      | .either first second =>
        watched (perform n first)
        if (← get).status ≠ 0 then perform n second
      | .negation c =>
        watched (perform n c)
        setStatus (if (← get).status = 0 then 1 else 0)
      | .pipe first second =>
        let bytes ← captured run (perform n first)
        let old ← get
        apart run do
          modify fun s => { s with input := bytes }
          perform n second
        modify fun s => { s with input := old.input }
        endIfStrict
      | .background c => background run (perform n c)
      | .redirected body redirects =>
        let old ← get
        if ← redirect run redirects then perform n body
        restoreStreams old redirects
      | .subshell body =>
        apart run (perform n body)
        endIfStrict
      | .define name body =>
        modify fun s =>
          let others := s.functions.filter fun f => f.1 != name
          { s with functions := (name, body) :: others, status := 0 }
      | .choose condition yes no =>
        watched (perform n condition)
        if (← get).status = 0 then perform n yes
        else
          setStatus 0
          perform n no
      | .loop expected condition body =>
        whileExpected n expected (perform n condition) (perform n body) 0
      | .each name items body =>
        let values ← expandFields run items
        setStatus 0
        eachValue name (perform n body) values
      | .select subject arms =>
        let subject ← expandText run subject
        match ← chosenArm run subject.toList arms with
        | some .skip => setStatus 0
        | some body => perform n body
        | none => setStatus 0

end Run

end Provision.Shell
