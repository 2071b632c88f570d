import Provision.CommandLine.Words
import Provision.Install.Plan

/-!
# What a command line asks for

A command line that can be followed names a command; `Invocation.ofWords` reads it. Switches that
every command has may stand before the command or after it, and the one after it counts. Where a
switch is not given, an environment variable may stand in for it.
-/

namespace Provision.CommandLine

/-- What to install, and where recipes and the status are. -/
structure InstallOrder where
  paths : List String
  names : List String
  skipDiscovery : Bool
  skipAgent : Bool
  skipLogging : Bool
  skipIntegrations : Bool
  catalog : Option String
  statusFile : Option String
  deriving Repr, DecidableEq

/-- What to do. -/
inductive Task where
  | install (order : InstallOrder)
  | profiles (showKeys : Bool)
  | completions (shell : String)
  deriving Repr, DecidableEq

/-- What a command line asks for. -/
structure Invocation where
  profile : Option String
  configFolder : Option String
  verbosity : Nat
  task : Task
  deriving Repr, DecidableEq

/-- The plan of an order for an account. -/
def InstallOrder.plan (o : InstallOrder) (accountId : Nat) : Plan where
  paths := o.paths
  names := o.names
  skipDiscovery := o.skipDiscovery
  skipAgent := o.skipAgent
  skipLogging := o.skipLogging
  skipIntegrations := o.skipIntegrations
  accountId := accountId

/-- What some words give, completed by the environment. -/
structure Completed where
  given : Given
  fromEnvironment : List (Switch × String)

/-- The values from the environment for switches that are not given. -/
def readEnvironment (environment : String → Option String) (g : Given) :
    List Switch → Except Stop (List (Switch × String))
  | [] => .ok []
  | s :: rest =>
    match s.description.environment.bind environment with
    | none => readEnvironment environment g rest
    | some value =>
      if g.has s then readEnvironment environment g rest
      else if Given.accepts s value then
        (readEnvironment environment g rest).map ((s, value) :: ·)
      else .error (.fault .badValue)

/-- Completes what some words give. -/
def Given.complete (environment : String → Option String) (c : Option Command) (g : Given) :
    Except Stop Completed := do
  let g ← g.settle
  return ⟨g, ← readEnvironment environment g (Switch.ofCommand c)⟩

/-- Reads the words after a command. -/
def readCommand (environment : String → Option String) (c : Command) (words : List String) :
    Except Stop Completed := do
  let (g, _) ← Given.nothing.readWords (some c) false words
  let completed ← g.complete environment (some c)
  if c = .completions && completed.given.arguments.isEmpty then throw (.fault .noArgument)
  return completed

/-- The most that a counted switch counts. -/
def maxCount : Nat := 255

namespace Invocation

/-- The value of a switch, given after the command, before it, or by the environment. -/
def value (before after : Completed) (s : Switch) : Option String :=
  (after.given.values s).getLast? <|> (before.given.values s).getLast? <|>
    (after.fromEnvironment.find? (·.1 = s)).map (·.2)

/-- How often a switch is given after the command, or else before it. -/
def count (before after : Completed) (s : Switch) : Nat :=
  let n := (after.given.values s).length
  min maxCount (if n = 0 then (before.given.values s).length else n)

/-- The task of a command. -/
def taskOf (before after : Completed) : Command → Task
  | .install => .install
    { paths := after.given.values .recipePath
      names := after.given.values .recipeName
      skipDiscovery := after.given.has .skipDiscovery
      skipAgent := after.given.has .skipAgent
      skipLogging := after.given.has .skipLogging
      skipIntegrations := after.given.has .skipIntegrations
      catalog := value before after .catalog
      statusFile := value before after .statusFile }
  | .profiles => .profiles (after.given.has .showKeys)
  | .completions => .completions (after.given.arguments.headD "")

/-- Reads a command line, without the name of the program. -/
def ofWords (environment : String → Option String) (words : List String) :
    Except Stop Invocation := do
  let (g, command) ← Given.nothing.readWords none false words
  match command with
  | none =>
    let before ← g.complete environment none
    throw (.fault (if before.given.switches.isEmpty && before.fromEnvironment.isEmpty
      then .nothingGiven else .noCommand))
  | some (c, rest) =>
    let after ← readCommand environment c rest
    let before ← g.complete environment none
    return {
      profile := value before after .profile
      configFolder := value before after .configFolder
      verbosity := count before after .verbose
      task := taskOf before after c }

end Invocation

end Provision.CommandLine
