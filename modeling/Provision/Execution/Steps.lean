import Provision.Execution.Environment
import Provision.Machine
import Provision.Text.Quoted

/-!
# Running the commands of a recipe

The commands of a recipe run one after another; the first that fails ends the run. A command that
was started is looked at again and again until it has ended. If it still runs when an interrupt is
seen, it is killed. What a command does is not known here: a `Launcher` starts it, and the `Child`
that it gives tells what happens up to each look.
-/

namespace Provision

/-- How a command ended: with a status of its own, or by a signal. -/
inductive Ending where
  | status (code : Nat)
  | signal (number : Nat) (name : String)
  deriving Repr, DecidableEq

/-- The text of an ending. -/
def Ending.text : Ending → String
  | status code => "exit status: " ++ toString code
  | signal number name => "signal: " ++ toString number ++ " (" ++ name ++ ")"

/-- What happened since a command was last looked at: what was shown, the files as they are now,
and whether the run was interrupted. -/
structure Moment where
  shown : List Output
  disk : Files.Disk
  interrupts : Bool

/-- A command that was started: what happens up to each look that finds it running, what happens
after the last of them, and how it ends. -/
structure Child where
  running : List Moment
  last : Moment
  ending : Ending

/-- Starts a command with variables on a machine, or tells why it cannot be started. -/
abbrev Launcher := List (String × String) → String → Machine → Except String Child

namespace Execution

/-- What happened shows on the machine. -/
def happen (m : Moment) : Action Machine Unit := fun w =>
  ⟨.ok (), m.shown,
    { w with disk := m.disk, interrupt := if m.interrupts then .tripped else w.interrupt }⟩

/-- Waits for a command to end; `last` and `ending` come when it no longer runs. -/
def wait (last : Moment) (ending : Ending) : List Moment → Action Machine Ending
  | [] => do
    happen last
    return ending
  | m :: running => do
    happen m
    Machine.check
    wait last ending running

/-- Runs one command. -/
def runStep (launch : Launcher) (given : List (String × String)) (s : Step) :
    Action Machine Unit := do
  Action.say .debug .execution "Running install step" [("step", Text.quoted s.label)]
  match launch given s.run (← Work.world) with
  | .error reason => Work.fail (.step s.label reason)
  | .ok child =>
    let ending ← wait child.last child.ending child.running
    if ending ≠ .status 0 then
      Work.fail (.step s.label ("exited with " ++ ending.text))

/-- Runs commands in order. -/
def runSteps (launch : Launcher) (given : List (String × String)) :
    List Step → Action Machine Unit
  | [] => pure ()
  | s :: rest => do
    Machine.check
    runStep launch given s
    runSteps launch given rest

/-- Runs the commands of a recipe. -/
def run (launch : Launcher) (p : Profile) (h : Host) (r : Recipe) : Action Machine Unit := do
  runSteps launch (r.environment p h) r.steps
  Action.say .info .execution "Executed recipe"
    [("recipe", r.name), ("steps", toString r.steps.length)]

end Execution

end Provision
