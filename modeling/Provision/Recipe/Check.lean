import Provision.Recipe.Record

/-!
# Checking recipes

`Draft.check` turns a draft into a recipe. The name, the commands, the log patterns and the process
patterns are checked in this order, and the first fault is reported: a blank name, the first blank
command by its number, the first log pattern without a file, or the first process pattern that is
none.
-/

namespace Provision

namespace Draft

/-- The process patterns, read in order. -/
def readPatterns : List String → Except (String × Pattern.Problem) (List Pattern)
  | [] => .ok []
  | source :: rest =>
    match Pattern.ofText source with
    | .error problem => .error (source, problem)
    | .ok p => (readPatterns rest).map (p :: ·)

/-- What is wrong with a draft apart from its process patterns. -/
def fault? (d : Draft) : Option String :=
  if Text.isBlank d.name then some "recipe name is required"
  else match d.steps.findIdx? (fun s => Text.isBlank s.run) with
    | some i => some ("install step " ++ toString (i + 1) ++ " has no command")
    | none =>
      (d.logWatches.find? (fun w => Text.isBlank w.file)).map fun w =>
        "log match '" ++ w.name ++ "' has no file pattern"

/-- The recipe of a draft whose process patterns have been read. -/
def toRecipe (d : Draft) (patterns : List Pattern) : Recipe where
  name := d.name
  displayName := d.displayName.getD d.name
  description := d.description
  targets := d.targets
  processPatterns := patterns
  logWatches := d.logWatches
  query := d.query.getD ""
  steps := d.steps
  accepted := none

/-- The recipe of a draft, or the first fault of the draft. -/
def check (d : Draft) : Except Failure Recipe :=
  match d.fault? with
  | some reason => .error (.invalidRecipe d.name reason)
  | none =>
    match readPatterns d.processPatterns with
    | .error (source, problem) =>
      .error (.invalidRecipe d.name ("invalid process match '" ++ source ++ "': " ++ problem))
    | .ok patterns => .ok (d.toRecipe patterns)

end Draft

end Provision
