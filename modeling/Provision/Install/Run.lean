import Provision.Install.Plan
import Provision.Install.Attempt
import Provision.Install.Consent

/-!
# An installation from beginning to end

An installation goes through its phases in order: it finds out about the host, gets the wanted
recipes, installs the agent, sets up logging, and installs the wanted recipes. Each phase but the
first wanted ones may be left out. A failure in the phases up to logging ends the installation;
afterwards a recipe that fails is warned about and the next one is tried.
-/

namespace Provision

/-- The recipe of the agent. -/
def agentRecipe : String := "Infrastructure Agent Installer"

/-- The recipe that sets up logging. -/
def loggingRecipe : String := "Logs integration"

namespace Installing

variable {σ : Type}

/-- A call that has to go well: its answer, or a failure that wraps its text. -/
def orStop {α : Type} (wrap : String → Failure) : Except Failure α → Installing σ α
  | .ok a => pure a
  | .error e => Work.fail (wrap e.message)

/-- Finds out about the host. -/
def discover (s : Services σ) : Installing σ Host := do
  let answer ← ask .discover s.discover
  present (Banner.workLine answer.isOk "Discovering system information...")
  orStop .discovery answer

/-- Reads the recipe of a file that the operator named. -/
def readFile (s : Services σ) (named : String) : Installing σ Recipe := do
  let draft ← match Location.ofText named with
    | .url u => do orStop (.fetching named) (← ask (.fetchFile u) (s.fetchFile u))
    | .path p => do orStop (.loading named) (← ask (.loadFile p) (s.loadFile p))
  Work.ofExcept draft.check

/-- Reads the recipes of files; the first that fails ends the installation. -/
def readFiles (s : Services σ) : List String → Installing σ (List Recipe)
  | [] => pure []
  | p :: rest => do
    let r ← readFile s p
    return r :: (← readFiles s rest)

/-- Looks recipes up by name; one that is not found is warned about and left out. -/
def findAll (s : Services σ) (host : Option Host) : List String → Installing σ (List Recipe)
  | [] => pure []
  | name :: rest => do
    match ← ask (.findRecipe host name) (s.findRecipe host name) with
    | .ok (some r) => return r :: (← findAll s host rest)
    | .ok none =>
      say .warn ("Recipe " ++ name ++ " not found. Skipping installation.") []
      findAll s host rest
    | .error e =>
      say .warn (Failure.retrieval name e.message).message []
      findAll s host rest

/-- Finds the recipes for the host, and reports that they are available. -/
def recommended (s : Services σ) (host : Option Host) : Installing σ (List Recipe) := do
  let answer ← ask (.recommend host) (s.recommend host)
  present (Banner.workLine answer.isOk "Fetching recommended recipes...")
  let recipes ← orStop .recommendation answer
  reportAvailable s recipes
  return recipes

/-- Gets the wanted recipes. -/
def acquire (s : Services σ) (host : Option Host) : Selection → Installing σ (List Recipe)
  | .files paths => readFiles s paths
  | .named names => findAll s host names
  | .recommended => recommended s host

/-- Looks up a recipe that has to be there. -/
def findOrStop (s : Services σ) (host : Option Host) (name : String) : Installing σ Recipe := do
  match ← orStop (.retrieval name) (← ask (.findRecipe host name) (s.findRecipe host name)) with
  | some r => pure r
  | none => Work.fail (.unknownRecipe name)

/-- Installs the agent. -/
def installAgent (s : Services σ) (host : Option Host) (h : Host) : Installing σ Unit := do
  let r ← findOrStop s host agentRecipe
  attemptOrStop s h r

/-- Sets up logging for the log files of the wanted recipes that the operator accepts. -/
def installLogging (s : Services σ) (host : Option Host) (h : Host) (recipes : List Recipe) :
    Installing σ Unit := do
  let r ← findOrStop s host loggingRecipe
  let found ← orStop .logSearch (← ask (.findLogs recipes) (s.findLogs recipes))
  let w ← accepted s found
  say .debug "Collected log files to watch" [("accepted", toString w.logs.length)]
  attemptOrStop s h (r.withAccepted w)

/-- Installs the wanted recipes, whatever becomes of each. -/
def installAll (s : Services σ) (h : Host) : List Recipe → Installing σ Unit
  | [] => pure ()
  | r :: rest => do
    attemptOrWarn s h r
    installAll s h rest

/-- The phases of an installation after the greeting, up to the good news. -/
def phases (s : Services σ) (p : Plan) : Installing σ Unit := do
  let host ← if p.skipDiscovery then pure none else some <$> discover s
  let h := host.getD .unknown
  let recipes ← acquire s host p.selection
  if !p.skipAgent then installAgent s host h
  if !p.skipLogging then installLogging s host h recipes
  if !p.skipIntegrations then installAll s h recipes

/-- A whole installation. -/
def install (s : Services σ) (p : Plan) : Installing σ Unit := do
  present Banner.welcome
  phases s p
  present (Banner.success p.accountId)

end Installing

end Provision
