import Provision.Action
import Provision.Catalog
import Provision.CommandLine.Completions
import Provision.CommandLine.Help
import Provision.CommandLine.Invocation
import Provision.CommandLine.Switch
import Provision.CommandLine.Words
import Provision.Configuration
import Provision.Execution.Environment
import Provision.Execution.Steps
import Provision.Failure
import Provision.Files.Changes
import Provision.Files.Path
import Provision.Files.Tree
import Provision.Files.Walk
import Provision.Glob.Basic
import Provision.Glob.Meaning
import Provision.Glob.Reader
import Provision.Glob.Rules
import Provision.Host
import Provision.Install.Attempt
import Provision.Install.Banner
import Provision.Install.Consent
import Provision.Install.Local
import Provision.Install.Plan
import Provision.Install.Run
import Provision.Install.Services
import Provision.Interrupt
import Provision.Json.Printer
import Provision.Json.Reader
import Provision.Json.Record
import Provision.Json.Value
import Provision.Log.Filter
import Provision.Log.Line
import Provision.LogFiles
import Provision.Machine
import Provision.Main
import Provision.Pattern.Ast
import Provision.Pattern.Compile
import Provision.Pattern.Expr
import Provision.Pattern.Reader
import Provision.Profile.Basic
import Provision.Profile.Stored
import Provision.Program
import Provision.Recipe.Basic
import Provision.Recipe.Check
import Provision.Recipe.Record
import Provision.Recipe.Source
import Provision.Record
import Provision.Shell.Builtin
import Provision.Shell.Child
import Provision.Shell.Command
import Provision.Shell.Condition
import Provision.Shell.Expansion
import Provision.Shell.FileTools
import Provision.Shell.Format
import Provision.Shell.Run
import Provision.Shell.Session
import Provision.Shell.Signal
import Provision.Shell.Sum
import Provision.Shell.TextTools
import Provision.Shell.Token
import Provision.Shell.Wildcard
import Provision.Shell.Word
import Provision.Status
import Provision.Table
import Provision.Text.Blank
import Provision.Text.Letters
import Provision.Text.Pieces
import Provision.Text.Quoted
import Provision.Text.Utf8
import Provision.Unicode.Age
import Provision.Unicode.CaseFolding
import Provision.Unicode.Category
import Provision.Unicode.Property
import Provision.Unicode.Ranges
import Provision.Unicode.Script
import Provision.Url.Basic
import Provision.Url.Host
import Provision.Url.Path
import Provision.Url.Percent
import Provision.Url.Punycode
import Provision.Validation
import Provision.Yaml.Cursor
import Provision.Yaml.Document
import Provision.Yaml.Plain
import Provision.Yaml.Record
import Provision.Yaml.Scalar
import Provision.Yaml.Token
import Provision.Yaml.Writer
import Provision.Proofs.Install.Attempt
import Provision.Proofs.Install.Phases
import Provision.Proofs.Install.Episodes
import Provision.Proofs.Files.ReadBack
import Provision.Proofs.Json.ReadBack
import Provision.Proofs.Status.Latest
import Provision.Proofs.Text.Utf8
import Provision.Proofs.Unicode.Ranges
import Provision.Proofs.Pattern.Occurrences
import Provision.Proofs.Status.Document
import Provision.Proofs.Install.Trials
import Provision.Proofs.Status.Run
import Provision.Proofs.Install.Coupling
import Provision.Proofs.Install.Decided
import Provision.Proofs.Install.Reports
import Provision.Proofs.Install.Consent
import Provision.Proofs.Failure
import Provision.Proofs.Install.Causes
import Provision.Proofs.Install.ExitStatus
import Provision.Proofs.Install.OneHost
import Provision.Proofs.Install.Transcript
import Provision.Proofs.Machine.Keeping
import Provision.Proofs.Machine.Interrupted
import Provision.Proofs.Execution.Watched
import Provision.Proofs.Install.Interrupted
import Provision.Proofs.Glob.Slashes
import Provision.Proofs.Text.Pieces
import Provision.Proofs.Glob.Written
import Provision.Proofs.Files.Resolving
import Provision.Proofs.Files.Visits
import Provision.Proofs.LogFiles.Patterns
import Provision.Proofs.LogFiles.Present
import Provision.Proofs.LogFiles.Wildcards
import Provision.Proofs.Install.Acquisition
import Provision.Proofs.Install.Lookups
import Provision.Proofs.Text.Order
import Provision.Proofs.Files.WalkOrder
import Provision.Proofs.Catalog.RecipeFiles
import Provision.Proofs.Catalog.Loading
import Provision.Proofs.Catalog.Layout
import Provision.Proofs.Catalog.Finding
import Provision.Proofs.Catalog.Recommending
import Provision.Proofs.LogFiles.Filtering
import Provision.Proofs.Recipe.Checking
import Provision.Proofs.Execution.InOrder
import Provision.Proofs.Table
import Provision.Proofs.Json.Fields
import Provision.Proofs.Profile.Selection
import Provision.Proofs.Json.Number
import Provision.Proofs.Validation.Interpreting
import Provision.Proofs.Recipe.ReadBack
import Provision.Proofs.Execution.Environment
import Provision.Proofs.Profile.Masking
import Provision.Proofs.Recipe.Locations
import Provision.Proofs.Files.Writing
import Provision.Proofs.Machine.OnDisk
import Provision.Proofs.Profile.Installing
