import Provision.Table
import Provision.Host
import Provision.Pattern.Compile
import Provision.Text.Blank
import Provision.Text.Letters
import Provision.Text.Pieces

/-!
# Recipes

A recipe tells how some software is instrumented: which hosts and processes it is for, the commands
that install it, the log files it writes, and the query that shows its data. A `Draft` is a recipe
as its author wrote it; a `Recipe` is one that was checked and can be run.

`Recipe.isNamed`, `Recipe.targets` and `Recipe.concerns` are the questions a catalog asks.
-/

namespace Provision

/-- A pattern of log files that are worth watching. -/
structure LogWatch where
  name : String
  file : String
  attributes : Table String
  deriving DecidableEq, Inhabited

/-- The log files that the operator agreed to watch. -/
structure WatchList where
  logs : List LogWatch
  deriving DecidableEq, Inhabited

/-- A kind of host; a property that is not given may have any value. -/
structure Target where
  os : Option String
  platform : Option String
  platformVersion : Option String
  kernelArch : Option String
  deriving Repr, DecidableEq, Inhabited

namespace Target

/-- Whether a property is as expected, up to the case of ASCII letters. -/
def agrees (expected : Option String) (actual : String) : Bool :=
  match expected with
  | some e => Text.sameLetters e actual
  | none => true

/-- Whether a host is of this kind. A platform version is given by its beginning. -/
def admits (t : Target) (h : Host) : Bool :=
  agrees t.os h.os && agrees t.platform h.platform && agrees t.kernelArch h.kernelArch &&
    match t.platformVersion with
    | some v => Text.startsWith v.toList h.platformVersion.toList
    | none => true

end Target

/-- A command of a recipe. -/
structure Step where
  name : Option String
  run : String
  deriving Repr, DecidableEq, Inhabited

/-- What a step is called: its name, or else its command. -/
def Step.label (s : Step) : String := s.name.getD s.run

/-- A recipe as it was written. -/
structure Draft where
  name : String
  displayName : Option String
  description : Option String
  repository : Option String
  targets : List Target
  processPatterns : List String
  logWatches : List LogWatch
  query : Option String
  steps : List Step
  deriving DecidableEq, Inhabited

/-- A recipe that can be run. The query is empty if the recipe has none, and `accepted` holds the
log files to watch once the operator was asked. -/
structure Recipe where
  name : String
  displayName : String
  description : Option String
  targets : List Target
  processPatterns : List Pattern
  logWatches : List LogWatch
  query : String
  steps : List Step
  accepted : Option WatchList
  deriving Inhabited

namespace Recipe

/-- Whether there is a query that shows the recipe's data. -/
def hasQuery (r : Recipe) : Bool := !Text.isBlank r.query

/-- Whether a text is the name or the display name of the recipe, up to the case of ASCII
letters. -/
def isNamed (r : Recipe) (name : String) : Bool :=
  Text.sameLetters r.name name || Text.sameLetters r.displayName name

/-- Whether the recipe is meant for a host: it has no targets, or one admits the host. -/
def targetsHost (r : Recipe) (h : Host) : Bool :=
  r.targets.isEmpty || r.targets.any (·.admits h)

/-- Whether a process is of the recipe's software. -/
def concerns (r : Recipe) (p : Process) : Bool :=
  r.processPatterns.any (·.occursIn p.matchText)

/-- Whether the recipe's software runs on a host. -/
def concernsHost (r : Recipe) (h : Host) : Bool :=
  r.processPatterns.any fun pattern => h.processes.any fun p => pattern.occursIn p.matchText

/-- The recipe with the log files to watch. -/
def withAccepted (r : Recipe) (w : WatchList) : Recipe := { r with accepted := some w }

end Recipe

end Provision
