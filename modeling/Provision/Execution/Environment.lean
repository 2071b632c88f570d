import Provision.Recipe.Record
import Provision.Profile.Basic
import Provision.Yaml.Writer

/-!
# The environment of a recipe's commands

The commands of a recipe learn from variables what they are run for: the recipe, the host, the
account, and, if the operator was asked, the log files to watch. The log files are given as YAML
(`WatchList.yaml`), in the form in which they are read from a record.
-/

namespace Provision

/-- A table of texts as a YAML map. -/
def Table.toTree (t : Table String) : Yaml.Tree :=
  .map (t.rows.map fun r => (r.1, .text r.2))

/-- A pattern of log files as a YAML map; attributes are left out if there are none. -/
def LogWatch.toTree (w : LogWatch) : Yaml.Tree :=
  .map ([("name", .text w.name), ("file", .text w.file)] ++
    if w.attributes.isEmpty then [] else [("attributes", w.attributes.toTree)])

/-- The log files to watch as a YAML map. -/
def WatchList.toTree (w : WatchList) : Yaml.Tree :=
  .map [("logs", .list (w.logs.map LogWatch.toTree))]

/-- The log files to watch as a YAML text. -/
def WatchList.yaml (w : WatchList) : String := w.toTree.written

/-- The name of the variable with the log files to watch. -/
def logFilesVariable : String := "INSTRUMENTOR_DISCOVERED_LOG_FILES"

/-- The variables that the commands of a recipe see, with their values. -/
def Recipe.environment (r : Recipe) (p : Profile) (h : Host) : List (String × String) :=
  [("INSTRUMENTOR_RECIPE", r.name), ("INSTRUMENTOR_HOSTNAME", h.hostname),
    ("INSTRUMENTOR_OS", h.os), ("INSTRUMENTOR_PLATFORM", h.platform),
    ("INSTRUMENTOR_PLATFORM_VERSION", h.platformVersion),
    ("INSTRUMENTOR_KERNEL_ARCH", h.kernelArch),
    ("INSTRUMENTOR_ACCOUNT_ID", toString p.accountId), ("INSTRUMENTOR_API_KEY", p.apiKey),
    ("INSTRUMENTOR_REGION", p.region.name)] ++
    (r.accepted.map fun w => (logFilesVariable, w.yaml)).toList

end Provision
