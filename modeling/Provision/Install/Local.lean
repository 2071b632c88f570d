import Provision.Install.Services
import Provision.Catalog
import Provision.LogFiles
import Provision.Shell.Child

/-!
# The services of a machine

An installation on a machine gets its recipes from a catalog in a folder, asks the operator at the
terminal, runs the commands of the recipes, asks the server of the account's region for data, and
keeps the status in a file. What the commands do, and what the operator and the server answer, is up
to what is `Outside` the program. A machine by itself has the shell, but no terminal and no server
that is reached, so no log files are accepted.
-/

namespace Provision.Services

/-- How often and how patiently data is looked for. -/
def patience : Validation.Patience := ⟨60, 5000⟩

/-- Work on the machine beside a status file. -/
def onMachine {α : Type} (x : Action Machine α) : Action (Machine × StatusFile) α :=
  Work.zoom Prod.fst (fun m w => (m, w.2)) x

/-- The operator at the terminal: what is answered to the question whether log files may be watched,
or why it cannot be asked. -/
abbrev Operator : Type := LogWatch → Machine → Except String Bool

/-- No operator, because there is no terminal. -/
def Operator.absent : Operator := fun _ _ => .error "The input device is not a TTY"

/-- Asks the operator whether log files may be watched. A question that cannot be asked counts as
declined. -/
def askOperator (operator : Operator) (w : LogWatch) : Action Machine Bool := do
  match operator w (← Work.world) with
  | .ok answer => return answer
  | .error reason =>
    Action.say .error .consent ("prompt failed: " ++ reason) []
    return false

/-- What an installation on a machine relies on outside the program: a way to start commands, the
servers, and the operator. -/
structure Outside where
  launch : Launcher
  server : Validation.Server
  operator : Operator

/-- The shell, no server that can be reached, and no operator. -/
def Outside.offline : Outside := ⟨Shell.launch, .unreachable, .absent⟩

/-- The services of a machine for an account, with what is outside the program. -/
def ofMachineWith (outside : Outside) (p : Profile) (catalog : Catalog) :
    Services (Machine × StatusFile) where
  discover := onMachine Machine.discover
  loadFile path := onMachine (Recipe.loadFile path)
  fetchFile url := onMachine (Recipe.fetchFile url)
  findRecipe _ name := onMachine (catalog.find name)
  recommend host := onMachine (catalog.recommend host)
  findLogs recipes := onMachine (LogFiles.filter recipes)
  confirm w := onMachine (askOperator outside.operator w)
  execute host recipe := onMachine (Execution.run outside.launch p host recipe)
  validate host recipe :=
    onMachine (Validation.run p patience (Validation.askServer outside.server p) host recipe)
  report := StatusFile.report

/-- The services of a machine for an account. -/
def ofMachine (p : Profile) (catalog : Catalog) : Services (Machine × StatusFile) :=
  ofMachineWith .offline p catalog

end Provision.Services
