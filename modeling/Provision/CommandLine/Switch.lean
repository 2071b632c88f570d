/-!
# Commands and switches

The program has three commands, and every command understands some switches. `Switch.description`
tells how a switch is written, what it takes and what it is for; the help of a command is written
from the same descriptions by which its command line is read.
-/

namespace Provision.CommandLine

/-- A command of the program. -/
inductive Command where
  | install | profiles | completions
  deriving Repr, DecidableEq

/-- The commands, in the order in which the help shows them. -/
def Command.all : List Command := [.install, .profiles, .completions]

/-- The name of a command. -/
def Command.name : Command → String
  | .install => "install"
  | .profiles => "profiles"
  | .completions => "completions"

/-- The command of a name. -/
def Command.ofName? (name : String) : Option Command := Command.all.find? (·.name = name)

/-- A switch of a command, or of the program itself. -/
inductive Switch where
  | profile | configFolder | verbose | help | version
  | recipePath | recipeName | skipDiscovery | skipAgent | skipLogging | skipIntegrations
  | catalog | statusFile
  | showKeys
  deriving Repr, DecidableEq

/-- What a switch takes: nothing, and it is given or not; nothing, and it counts how often it is
given; nothing, and it asks for a text instead of a run; or a value, which may have to be a path,
and which may be given more than once. -/
inductive Manner where
  | plain
  | counted
  | question
  | valued (placeholder : String) (isPath repeats : Bool)
  deriving Repr, DecidableEq

/-- How a switch is written, what it takes, what it is for, and the environment variable that
stands in for it. -/
structure Description where
  short : Option Char
  long : String
  manner : Manner
  purpose : String
  environment : Option String

namespace Switch

/-- The descriptions of the switches. -/
def description : Switch → Description
  | profile => ⟨none, "profile", .valued "PROFILE" false false,
      "Profile to use from profiles.yaml", some "INSTRUMENTOR_PROFILE"⟩
  | configFolder => ⟨none, "config-dir", .valued "CONFIG_DIR" true false,
      "Configuration directory (defaults to the platform config dir)",
      some "INSTRUMENTOR_CONFIG_DIR"⟩
  | verbose => ⟨some 'v', "verbose", .counted,
      "Increase log verbosity (-v debug, -vv trace)", none⟩
  | help => ⟨some 'h', "help", .question, "Print help", none⟩
  | version => ⟨some 'V', "version", .question, "Print version", none⟩
  | recipePath => ⟨some 'c', "recipe-path", .valued "PATH" false true,
      "Recipe file to install, as a local path or URL (repeatable)", none⟩
  | recipeName => ⟨some 'n', "recipe-name", .valued "NAME" false true,
      "Recipe to install by name (repeatable, ignored when --recipe-path is given)", none⟩
  | skipDiscovery => ⟨none, "skip-discovery", .plain,
      "Do not probe the host before fetching recipes", none⟩
  | skipAgent => ⟨none, "skip-infra-install", .plain,
      "Do not install the infrastructure agent", none⟩
  | skipLogging => ⟨none, "skip-logging", .plain, "Do not install log forwarding", none⟩
  | skipIntegrations => ⟨none, "skip-integrations", .plain,
      "Do not install integration recipes", none⟩
  | catalog => ⟨none, "catalog", .valued "DIR" true false,
      "Recipe catalog directory (defaults to <config-dir>/recipes)",
      some "INSTRUMENTOR_CATALOG"⟩
  | statusFile => ⟨none, "status-file", .valued "FILE" true false,
      "Install status file (defaults to <config-dir>/install-status.json)", none⟩
  | showKeys => ⟨none, "show-keys", .plain, "Print API keys instead of masking them", none⟩

/-- The switches of a command, or of the program before a command is named, in the order in which
the help shows them. -/
def ofCommand : Option Command → List Switch
  | none => [profile, configFolder, verbose, help, version]
  | some .install => [recipePath, profile, configFolder, recipeName, skipDiscovery, verbose,
      skipAgent, skipLogging, skipIntegrations, catalog, statusFile, help]
  | some .profiles => [profile, showKeys, configFolder, verbose, help]
  | some .completions => [profile, configFolder, verbose, help]

/-- The switch of a command with a long name. -/
def ofLong? (c : Option Command) (name : String) : Option Switch :=
  (ofCommand c).find? (·.description.long = name)

/-- The switch of a command with a letter. -/
def ofShort? (c : Option Command) (letter : Char) : Option Switch :=
  (ofCommand c).find? (·.description.short = some letter)

end Switch

end Provision.CommandLine
