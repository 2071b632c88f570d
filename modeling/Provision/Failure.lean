import Provision.Text.Pieces

/-!
# What can go wrong

Everything that ends a run, or one step of it, is a `Failure`. A failure that wraps another one
keeps the text of its cause as the reason. `Failure.message` is what a user reads, `Failure.code`
and `Failure.help?` classify it, and `Failure.exitCode` is the status the program ends with: 130
for an interrupt, 1 for anything else.

An interrupt that was wrapped is recognised by its text at the end of the reason, in the wrappers
that the interruptible work can end in.
-/

namespace Provision

/-- Why a run, or a step of it, failed. -/
inductive Failure where
  | discovery (reason : String)
  | loading (path reason : String)
  | fetching (path reason : String)
  | invalidRecipe (name reason : String)
  | retrieval (name reason : String)
  | unknownRecipe (name : String)
  | recommendation (reason : String)
  | catalog (path reason : String)
  | logSearch (reason : String)
  | installation (name reason : String)
  | noData (name : String)
  | step (label reason : String)
  | validation (message : String)
  | profile (message : String)
  | malformed (path reason : String)
  | statusFile (path reason : String)
  | request (message : String)
  | io (message : String)
  | unknownShell (shell : String)
  | cancelled
  deriving Repr, DecidableEq, Inhabited

namespace Failure

/-- The text of an interrupt. -/
def cancelledText : String := "Operation cancelled"

/-- The text that is shown to the user. -/
def message : Failure → String
  | discovery reason =>
    "Could not install. There was an error discovering system info: " ++ reason
  | loading path reason => "Could not load file " ++ path ++ ": " ++ reason
  | fetching path reason => "Could not fetch file " ++ path ++ ": " ++ reason
  | invalidRecipe name reason => "Could not finalize recipe " ++ name ++ ": " ++ reason
  | retrieval name reason =>
    "Could not install " ++ name ++ ". Error retrieving recipe: " ++ reason
  | unknownRecipe name => "Recipe " ++ name ++ " not found."
  | recommendation reason =>
    "Could not install. Error retrieving recipe recommendations: " ++ reason
  | catalog path reason => "Recipe catalog not available at " ++ path ++ ": " ++ reason
  | logSearch reason => "Could not find log files to watch: " ++ reason
  | installation name reason => "Could not install " ++ name ++ ": " ++ reason
  | noData name => "Could not detect data from " ++ name ++ "."
  | step label reason => "Step '" ++ label ++ "' failed: " ++ reason
  | validation message => "Validation query failed: " ++ message
  | profile message => "Invalid profile configuration: " ++ message
  | malformed path reason => "Failed to parse configuration: " ++ path ++ ": " ++ reason
  | statusFile path reason => "Failed to write install status to " ++ path ++ ": " ++ reason
  | request message => "HTTP request failed: " ++ message
  | io message => "IO error: " ++ message
  | unknownShell shell => "Unknown shell: " ++ shell
  | cancelled => cancelledText

/-- The class of the failure in diagnostics. -/
def code : Failure → String
  | discovery _ => "instrumentor::discovery::failed"
  | loading .. => "instrumentor::recipe::load_failed"
  | fetching .. => "instrumentor::recipe::fetch_failed"
  | invalidRecipe .. => "instrumentor::recipe::invalid"
  | retrieval .. => "instrumentor::recipe::retrieval_failed"
  | unknownRecipe _ => "instrumentor::recipe::not_found"
  | recommendation _ => "instrumentor::recipe::recommendations_failed"
  | catalog .. => "instrumentor::catalog::unavailable"
  | logSearch _ => "instrumentor::logs::filter_failed"
  | installation .. => "instrumentor::install::failed"
  | noData _ => "instrumentor::install::no_data"
  | step .. => "instrumentor::execution::step_failed"
  | validation _ => "instrumentor::validation::failed"
  | profile _ => "instrumentor::config::profile_invalid"
  | malformed .. => "instrumentor::config::parse_failed"
  | statusFile .. => "instrumentor::status::write_failed"
  | request _ => "instrumentor::http::failed"
  | io _ => "instrumentor::fs::io_error"
  | unknownShell _ => "instrumentor::cli::unknown_shell"
  | cancelled => "instrumentor::cancelled"

/-- What the user may do about the failure. -/
def help? : Failure → Option String
  | loading .. => some "Check that the recipe file exists and is valid YAML"
  | fetching .. => some "Check that the URL is correct and reachable"
  | unknownRecipe _ => some "Check that the recipe catalog contains a recipe with this name"
  | catalog .. =>
    some "Point --catalog (or INSTRUMENTOR_CATALOG) at a directory of recipe files"
  | noData _ => some "The recipe ran, but no data arrived before validation gave up"
  | profile _ => some "Profiles are read from profiles.yaml in the configuration directory"
  | unknownShell _ => some "Supported shells: bash, elvish, fish, powershell, zsh"
  | _ => none

/-- The failure of a question to the operator, for a reason of its own. -/
def ofQuestion (reason : String) : Failure := io ("User-provided error: " ++ reason)

/-- The failure of a request that cannot be sent to an address. -/
def ofUnsent (address : String) : Failure :=
  request ("error sending request for url (" ++ address ++ ")")

/-- Whether a reason ends with the text of an interrupt. -/
def endsCancelled (reason : String) : Bool :=
  Text.endsWith cancelledText.toList reason.toList

/-- Whether the failure stems from an interrupt. -/
def isCancellation : Failure → Bool
  | cancelled => true
  | discovery reason => endsCancelled reason
  | recommendation reason => endsCancelled reason
  | retrieval _ reason => endsCancelled reason
  | installation _ reason => endsCancelled reason
  | logSearch reason => endsCancelled reason
  | _ => false

/-- The status of a program that ends with the failure. -/
def exitCode (f : Failure) : Nat := if f.isCancellation then 130 else 1

end Failure

end Provision
