import Provision.CommandLine.Invocation
import Provision.CommandLine.Completions
import Provision.Configuration
import Provision.Install.Local
import Provision.Install.Run
import Provision.Log.Filter
import Provision.Log.Line
import Provision.Profile.Stored

/-!
# The program

A run of the program reads its command line, does the task that it asks for, and ends with a status.
`Invocation.perform` is the task as an action on a machine; `Program.run` is the whole run with all
that it shows on its two outputs.
-/

namespace Provision

open CommandLine

/-- Picks the profile of an installation. -/
def ProfileStore.choose {σ : Type} (s : ProfileStore) (requested : Option String) :
    Action σ Profile := do
  match ← Work.ofExcept (s.resolve requested) with
  | some (name, p) =>
    Action.say .info .command "Using profile"
      [("profile", name), ("account_id", toString p.accountId)]
    return p
  | none =>
    Action.say .debug .command
      "No profile configured, installing without account credentials" []
    return Profile.none

namespace CommandLine

/-- Installs what an order says, with the profile of the run. The catalog and the status file are in
the configuration folder, unless the order names others. -/
def InstallOrder.proceedWith (outside : Services.Outside) (o : InstallOrder) (folder : String)
    (p : Profile) : Action Machine Unit := do
  let catalog := o.catalog.getD (Files.join folder Configuration.catalogName)
  let status := o.statusFile.getD (Files.join folder Configuration.statusName)
  Action.say .debug .command "Resolved locations" [("catalog", catalog), ("status_file", status)]
  let installing := Installing.install (.ofMachineWith outside p ⟨catalog⟩) (o.plan p.accountId)
  fun m =>
    let r := installing.toAction (m, StatusFile.new status)
    ⟨r.value, r.log, r.world.1⟩

/-- Installs what an order says, with what is outside the program. -/
def InstallOrder.performWith (outside : Services.Outside) (o : InstallOrder)
    (configFolder profile : Option String) : Action Machine Unit := do
  let folder ← Work.ofExcept (Configuration.folder configFolder (← Work.world))
  let store ← ProfileStore.load (Files.join folder Configuration.profilesName)
  let p ← store.choose profile
  o.proceedWith outside folder p

/-- Installs what an order says. -/
def InstallOrder.perform (o : InstallOrder) (configFolder profile : Option String) :
    Action Machine Unit :=
  o.performWith .offline configFolder profile

/-- Lists the profiles. -/
def listProfiles (showKeys : Bool) (configFolder : Option String) : Action Machine Unit := do
  let folder ← Work.ofExcept (Configuration.folder configFolder (← Work.world))
  let path := Files.join folder Configuration.profilesName
  let store ← ProfileStore.load path
  Work.tell (.stdout (← Work.ofExcept (store.listing path showKeys)))

/-- Shows a completion script. -/
def showCompletions (shell : String) : Action Machine Unit := do
  Work.tell (.stdout (← Work.ofExcept (CompletingShell.ofName shell)).script)

/-- Does what a command line asks for. -/
def Invocation.perform (i : Invocation) : Action Machine Unit :=
  match i.task with
  | .install order => order.perform i.configFolder i.profile
  | .profiles showKeys => listProfiles showKeys i.configFolder
  | .completions shell => showCompletions shell

end CommandLine

namespace Program

/-- What a run says about itself before its task. -/
def introduce (words : List String) (verbosity : Nat) : Action Machine Unit := do
  Action.say .debug .program
    ("Instrumentor started with verbosity level: " ++ toString verbosity) []
  Action.say .trace .program ("Full CLI args: " ++ Text.quotedList (programName :: words)) []

/-- What is shown of an output: messages become lines, unless the filter hides them. -/
def shown (filter : Log.Filter) (verbosity : Nat) : Output → Option Output
  | .message m =>
    if filter.shows m then some (.stderr (Log.line (2 ≤ verbosity) m)) else none
  | o => some o

/-- The status of a run whose command line cannot be followed. -/
def usageStatus : Nat := 2

/-- How a run ends. -/
inductive Result where
  | answered (answer : Answer)
  | misused (fault : Fault)
  | ended (value : Except Failure Unit)

/-- The status of a run. -/
def Result.status : Result → Nat
  | .answered _ => 0
  | .misused _ => usageStatus
  | .ended (.ok ()) => 0
  | .ended (.error e) => e.exitCode

/-- What a fault of the command line is called. -/
def faultText : Fault → String
  | .nothingGiven => "a command is required"
  | .noCommand => "a command is required"
  | .noArgument => "an argument is missing"
  | .unknownArgument => "an argument is not known"
  | .unknownCommand => "the command is not known"
  | .surplusValue => "a switch that takes no value has one"
  | .badValue => "a switch has no valid value"
  | .conflict => "a switch cannot be given more than once"

/-- A run of the program with the words of a command line: what it shows, how it ends, and the
machine afterwards. -/
def run (words : List String) (m : Machine) : List Output × Result × Machine :=
  match Invocation.ofWords m.valueOf? words with
  | .error (.answer a) => ([.stdout (a.text m.valueOf?)], .answered a, m)
  | .error (.fault f) => ([.stderr ("error: " ++ faultText f)], .misused f, m)
  | .ok i =>
    let filter := Log.Filter.chosen (m.valueOf? Log.Filter.variableName) i.verbosity
    let r := (introduce words i.verbosity >>= fun _ => i.perform) m
    let ending := match r.value with
      | .ok () => []
      | .error e => [.stderr ("Error: " ++ e.message)]
    (r.log.filterMap (shown filter i.verbosity) ++ ending, .ended r.value, r.world)

end Program

end Provision
