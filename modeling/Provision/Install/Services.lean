import Provision.Recipe.Source
import Provision.Validation
import Provision.Status

/-!
# What an installation relies on

An installation does nothing by itself: it calls services that find recipes, run them and report
what became of them. `Services` has one field for each kind of call. The journal of an installation
is the list of its calls, each with its arguments, its answer and what the service showed, with
what the installation itself shows in between; so it tells everything that happened, in order.
-/

namespace Provision

/-- The services that an installation calls, which share a world of type `σ`. -/
structure Services (σ : Type) where
  /-- Finds out about the host. -/
  discover : Action σ Host
  /-- Reads a recipe file from disk. -/
  loadFile : String → Action σ Draft
  /-- Reads a recipe file from the network. -/
  fetchFile : Url → Action σ Draft
  /-- Looks a recipe up by name. -/
  findRecipe : Option Host → String → Action σ (Option Recipe)
  /-- Finds the recipes for a host. -/
  recommend : Option Host → Action σ (List Recipe)
  /-- Finds the log files of recipes. -/
  findLogs : List Recipe → Action σ (List LogWatch)
  /-- Asks the operator whether log files may be watched. -/
  confirm : LogWatch → Action σ Bool
  /-- Runs the commands of a recipe. -/
  execute : Host → Recipe → Action σ Unit
  /-- Checks that the data of a recipe arrives. -/
  validate : Host → Recipe → Action σ Validation
  /-- Takes note of what became of recipes. -/
  report : Report → Action σ Unit

/-- A call of a service, with its answer. -/
inductive Call where
  | discover (answer : Except Failure Host)
  | loadFile (path : String) (answer : Except Failure Draft)
  | fetchFile (url : Url) (answer : Except Failure Draft)
  | findRecipe (host : Option Host) (name : String) (answer : Except Failure (Option Recipe))
  | recommend (host : Option Host) (answer : Except Failure (List Recipe))
  | findLogs (recipes : List Recipe) (answer : Except Failure (List LogWatch))
  | confirm (watch : LogWatch) (answer : Except Failure Bool)
  | execute (host : Host) (recipe : Recipe) (answer : Except Failure Unit)
  | validate (host : Host) (recipe : Recipe) (answer : Except Failure Validation)
  | report (report : Report) (answer : Except Failure Unit)

/-- An entry of a journal: a call and what the service showed, or something that the installation
shows itself. -/
inductive Entry where
  | call (call : Call) (shown : List Output)
  | shown (output : Output)

/-- What an entry shows. -/
def Entry.outputs : Entry → List Output
  | call _ os => os
  | shown o => [o]

/-- The call of an entry. -/
def Entry.call? : Entry → Option Call
  | call c _ => some c
  | shown _ => none

/-- Work of an installation, which keeps a journal. -/
abbrev Installing (σ α : Type) : Type := Work Entry σ α

namespace Installing

variable {σ α : Type}

/-- Calls a service and enters the call with its answer. A failure of the service is an answer. -/
def ask (call : Except Failure α → Call) (service : Action σ α) :
    Installing σ (Except Failure α) := fun w =>
  let r := service w
  ⟨.ok r.value, [.call (call r.value) r.log], r.world⟩

/-- Shows something. -/
def present (o : Output) : Installing σ Unit := Work.tell (.shown o)

/-- Says something about the installation. -/
def say (level : Level) (text : String) (fields : List (String × String)) :
    Installing σ Unit := present (.message ⟨level, .installation, text, fields⟩)

/-- What an installation shows. -/
def toAction (x : Installing σ α) : Action σ α := fun w =>
  let r := x w
  ⟨r.value, r.log.flatMap Entry.outputs, r.world⟩

end Installing

end Provision
