import Provision.CommandLine.Switch

/-!
# Help

What the program says about itself when it is asked: its version, or the help of the program or of
one command. The help of the program has a short form, with one line for each switch, and a long
one.
-/

namespace Provision.CommandLine

/-- A text that a command line asks for. -/
inductive Answer where
  | version
  | help (command : Option Command) (long : Bool)
  | helpOnHelp
  deriving Repr, DecidableEq

/-- The name of the program. -/
def programName : String := "instrumentor"

/-- The version of the program. -/
def programVersion : String := "0.3.1"

namespace Command

/-- What a command is for. -/
def purpose : Command → String
  | install => "Install instrumentation recipes"
  | profiles => "List configured profiles"
  | completions => "Generate shell completions"

/-- Examples of a command, with what each is for. -/
def examples : Command → List (String × String)
  | install => [
    ("Install the recipes recommended for this host:", "instrumentor install"),
    ("Install recipes by name:", "instrumentor install -n mysql -n redis"),
    ("Install from recipe files:",
      "instrumentor install -c ./nginx.yml -c https://example.com/redis.yml"),
    ("Install integrations only:",
      "instrumentor install --skip-infra-install --skip-logging")]
  | profiles => [
    ("List configured profiles:", "instrumentor profiles"),
    ("Use another configuration directory:", "instrumentor profiles --config-dir ./config")]
  | completions => [
    ("Generate bash completions:",
      "instrumentor completions bash > ~/.bash_completion.d/instrumentor"),
    ("Generate zsh completions:", "instrumentor completions zsh > ~/.zfunc/_instrumentor"),
    ("Generate fish completions:",
      "instrumentor completions fish > ~/.config/fish/completions/instrumentor.fish"),
    ("Generate PowerShell completions:", "instrumentor completions powershell")]

end Command

namespace Help

/-- Examples of the program, with what each is for. -/
def examples : List (String × String) := [
  ("instrumentor install", "Install recommended recipes"),
  ("instrumentor install -n mysql -n redis", "Install recipes by name"),
  ("instrumentor install -c ./nginx.yml", "Install a recipe file"),
  ("instrumentor install --skip-logging", "Skip log forwarding"),
  ("instrumentor profiles", "List configured profiles")]

/-- A text with spaces after it up to a width. -/
def padded (width : Nat) (s : String) : String :=
  s ++ String.ofList (List.replicate (width - s.length) ' ')

/-- Lines, each with its break. -/
def lines (ls : List String) : String := String.join (ls.map (· ++ "\n"))

/-- How a switch is written. -/
def written (s : Switch) : String :=
  let d := s.description
  (match d.short with
    | some letter => "-" ++ String.singleton letter ++ ", "
    | none => "    ") ++
  "--" ++ d.long ++
  match d.manner with
  | .valued placeholder .. => " <" ++ placeholder ++ ">"
  | .counted => "..."
  | _ => ""

/-- What is said of the variable that stands in for a switch, with its value. -/
def variableNote (environment : String → Option String) (s : Switch) : Option String :=
  s.description.environment.map fun name =>
    "[env: " ++ name ++ "=" ++ (environment name).getD "" ++ "]"

/-- What a switch is for; the help of the program has two forms, and each names the other. -/
def purpose (c : Option Command) (long : Bool) (s : Switch) : String :=
  if s = .help && c.isNone then
    "Print help (see " ++ (if long then "a summary with '-h'" else "more with '--help'") ++ ")"
  else s.description.purpose

/-- The switches with one line for each. -/
def shortSwitches (environment : String → Option String) (c : Option Command) : List String :=
  let switches := Switch.ofCommand c
  let width := (switches.map fun s => (written s).length).foldl max 0
  switches.map fun s =>
    "  " ++ padded width (written s) ++ "  " ++ purpose c false s ++
      ((variableNote environment s).map (" " ++ ·)).getD ""

/-- The switches with their purposes on lines of their own. -/
def longSwitches (environment : String → Option String) (c : Option Command) : String :=
  let margin := "          "
  String.intercalate "\n" ((Switch.ofCommand c).map fun s =>
    lines (["  " ++ written s, margin ++ purpose c true s] ++
      ((variableNote environment s).map fun n => [margin, margin ++ n]).getD []))

/-- The first lines of a help: what the program or the command is for, and how it is used. -/
def opening (purpose usage : String) : String := lines [purpose, "", "Usage: " ++ usage, ""]

/-- What the command that prints help is for. -/
def helpPurpose : String := "Print this message or the help of the given subcommand(s)"

/-- The commands. -/
def commands : String :=
  lines ("Commands:" ::
    ((Command.all.map fun c => (c.name, c.purpose)) ++ [("help", helpPurpose)]).map fun row =>
      "  " ++ padded 11 row.1 ++ "  " ++ row.2)

/-- The help of the program. -/
def ofProgram (environment : String → Option String) (long : Bool) : String :=
  opening
    (if long then
      "Instrumentor discovers what runs on this host, picks matching instrumentation recipes, " ++
        "installs the infrastructure agent, log forwarding and integrations, " ++
        "and confirms that data arrives."
    else "Install monitoring instrumentation recipes on this host")
    (programName ++ " [OPTIONS] <COMMAND>") ++
  commands ++ "\nOptions:\n" ++
  (if long then longSwitches environment none else lines (shortSwitches environment none)) ++
  "\nExamples:\n" ++
  lines (examples.map fun e => "   " ++ padded 45 e.1 ++ " # " ++ e.2)

/-- The help of a command. -/
def ofCommand (environment : String → Option String) (c : Command) : String :=
  let argument := c = .completions
  opening c.purpose
    (programName ++ " " ++ c.name ++ " [OPTIONS]" ++ if argument then " <SHELL>" else "") ++
  (if argument then
    lines ["Arguments:", "  <SHELL>  Shell type (bash, elvish, fish, powershell, zsh)", ""]
  else "") ++
  lines ("Options:" :: shortSwitches environment (some c)) ++
  "\nEXAMPLES:\n  " ++
  String.intercalate "\n" (c.examples.map fun e => lines [e.1, "    " ++ e.2])

/-- The help of the command that prints help. -/
def ofHelp : String :=
  opening helpPurpose (programName ++ " help [COMMAND]...") ++
  lines ["Arguments:", "  [COMMAND]...  Print help for the subcommand(s)"]

end Help

/-- The text of an answer; the help shows the values of environment variables. -/
def Answer.text (environment : String → Option String) : Answer → String
  | version => programName ++ " " ++ programVersion ++ "\n"
  | help none long => Help.ofProgram environment long
  | help (some c) _ => Help.ofCommand environment c
  | helpOnHelp => Help.ofHelp

end Provision.CommandLine
