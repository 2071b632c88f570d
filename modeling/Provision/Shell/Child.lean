import Provision.Execution.Steps
import Provision.Shell.Run

/-!
# The shell as a launcher

`launch` starts a command on a machine in a shell of its own. What the shell does is dealt out to
the looks that are taken at it, ten a second: a pause lasts for as many looks as it has tenths of a
second, and all else takes no time.
-/

namespace Provision.Shell

/-- The lines and texts that were shown, from what was written in order. Lines of the error output
that are written piece by piece are shown as a whole. -/
def shownFrom (pending : List UInt8) : List Event → List Output
  | [] => errorLines pending
  | .output true bytes :: es => shownFrom (pending ++ bytes) es
  | .output false bytes :: es =>
    errorLines pending ++ .stdout (Text.ofBytesLenient bytes) :: shownFrom [] es
  | _ :: es => shownFrom pending es
where
  errorLines (bytes : List UInt8) : List Output :=
    (Text.linesOf (charsOf bytes)).map fun l => .stderr (String.ofList l)

/-- What happened up to a time, from the events since the last look. -/
def momentOf (events : List Event) (disk : Files.Disk) : Moment where
  shown := shownFrom [] events
  disk := disk
  interrupts := events.any fun e => match e with
    | .interrupt => true
    | _ => false

/-- Deals events out to looks. A pause of some tenths of a second lasts for as many looks. -/
def dealt (here : List String) (seen : List Event) : List Event → List Moment × List Event
  | [] => ([], seen.reverse)
  | .pause tenths disk :: es =>
    match tenths with
    | 0 => dealt here seen es
    | t + 1 =>
      let disk := { disk with here }
      let (moments, last) := dealt here [] es
      (momentOf seen.reverse disk :: List.replicate t (momentOf [] disk) ++ moments, last)
  | e :: es => dealt here (e :: seen) es

/-- How deep commands nest and how often a loop goes round at most. -/
def maxDepth : Nat := 100000

/-- The most bytes of a command or a variable. -/
def maxArgument : Nat := 131071

/-- The state of a shell that starts on a machine, with variables beside those of its
environment. -/
def Session.start (given : List (String × String)) (m : Machine) : Session :=
  let places := [("PWD", pathOf m.disk.here)]
  let others := m.environment.filter fun v =>
    !(given ++ places).any (fun g => g.1 = v.1) && isName v.1
  { (default : Session) with
    disk := m.disk
    name := "sh"
    process := firstProcess
    line := 1
    values := (given ++ places ++ others).map fun (name, value) =>
      ⟨name, some value, true, false⟩
    sink := .output false
    errorSink := .output true }

/-- Starts a command. The first look comes before the command has done anything. -/
def launch : Launcher := fun given source m =>
  let texts := source :: given.map fun v => v.1 ++ "=" ++ v.2
  if texts.any (·.toList.contains '\x00') then .error "nul byte found in provided data"
  else if texts.any (fun t => maxArgument < t.utf8ByteSize) then
    .error "Argument list too long (os error 7)"
  else
    let run := Run.text (Run.perform maxDepth)
    let (result, s) := (Run.withEnding run (run "" source.toList)).run.run (.start given m)
    let (moments, last) := dealt m.disk.here [] s.events.reverse
    .ok {
      running := momentOf [] m.disk :: moments
      last := momentOf last { s.disk with here := m.disk.here }
      ending := match result with
        | .error (.signal _ n name) => .signal n name
        | _ => .status (s.status % 256) }

end Provision.Shell
