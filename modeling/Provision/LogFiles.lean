import Provision.Recipe.Basic
import Provision.Glob.Meaning
import Provision.Machine

/-!
# Log files that are there

Recipes name the log files of their software by patterns. A pattern is split where its first name
with a glob sign begins (`LogFiles.split`): what is before is a folder, and what follows is a glob
for the paths below it. `LogFiles.present` says whether a file is there that the pattern names, and
`LogFiles.filter` keeps the patterns of recipes for which one is, each pattern once.

The walk goes only as deep as the glob has names, unless it has a part for any number of names.
-/

namespace Provision.LogFiles

/-- The signs that make a name of a pattern a glob. -/
def isGlobSign (c : Char) : Bool := c == '*' || c == '?' || c == '[' || c == '\x7b'

/-- A text with slashes for its backslashes. -/
def forwardSlashes (s : String) : String :=
  String.ofList (s.toList.map fun c => if c == '\\' then '/' else c)

/-- Names with slashes between them. -/
def joinNames (names : List (List Char)) : String := String.ofList (Text.joinWith '/' names)

/-- The folder of a pattern and the glob for what is below it. A pattern without glob signs has no
glob and stands for itself. -/
def split (pattern : String) : String × Option String :=
  let path := forwardSlashes pattern
  let names := Text.splitAt '/' path.toList
  let plain := names.takeWhile fun n => !n.any isGlobSign
  let rest := names.drop plain.length
  if rest.isEmpty then (path, none)
  else
    let before := joinNames plain
    let folder := if before ≠ "" then before else if Files.isAbsolute path then "/" else "."
    (folder, some (joinNames rest))

/-- How deep below its folder a glob is looked for: any depth if it has a part for any number of
names. -/
def depth (glob : String) : Option Nat :=
  if Text.occursIn ['*', '*'] glob.toList then none
  else some (Text.splitAt '/' glob.toList).length

/-- The path of a visited entry from the start of the walk. -/
def relativePath (v : Files.Visit) : String :=
  forwardSlashes (String.intercalate "/" v.names)

/-- Whether a visited entry is a file that a glob matches. What is below a folder that cannot be
opened is passed over. -/
def isMatch (folder : String) (g : Glob) (v : Files.Visit) : Bool :=
  v.entry.isFile && Files.opensAlong folder v.names && g.isMatch (relativePath v)

/-- Whether a file is there that a pattern names; a pattern may be no glob. -/
def present (d : Files.Disk) (pattern : String) : Except Glob.Problem Bool :=
  match split pattern with
  | (path, none) => .ok (d.isFile path)
  | (folder, some glob) =>
    (Glob.ofText glob).map fun g => (d.walk false (depth glob) folder).any (isMatch folder g)

/-- Keeps the patterns that name a file; `seen` holds the patterns that were looked at. -/
def filterFrom (seen : List String) : List LogWatch → Action Machine (List LogWatch)
  | [] => pure []
  | w :: rest => do
    Machine.check
    if seen.contains w.file then filterFrom seen rest
    else
      match present (← Work.world).disk w.file with
      | .error problem =>
        Action.say .warn .logFiles
          ("Ignoring invalid log file pattern " ++ w.file ++ ": " ++ problem) []
        filterFrom (w.file :: seen) rest
      | .ok false => filterFrom (w.file :: seen) rest
      | .ok true =>
        Action.say .debug .logFiles "Found log files" [("pattern", w.file)]
        let more ← filterFrom (w.file :: seen) rest
        return w :: more

/-- The log files of recipes that are there. -/
def filter (recipes : List Recipe) : Action Machine (List LogWatch) :=
  filterFrom [] (recipes.flatMap (·.logWatches))

end Provision.LogFiles
