import Provision.Recipe.Check
import Provision.Machine

/-!
# Recipe catalogs

A catalog is a folder with recipe files at any depth. Loading it (`Catalog.load`) gives the recipes
of all files that hold a valid one, in the order of their names; a file that does not is passed over
with a warning, so that it hides no other recipe. Only an interrupt or a folder that cannot be
opened stops the loading. A catalog is asked for a recipe by name (`Catalog.find`) or for the
recipes whose software runs on a host (`Catalog.recommend`).
-/

namespace Provision

/-- A folder with recipe files. -/
structure Catalog where
  root : String
  deriving Repr, DecidableEq

namespace Catalog

/-- The endings of recipe files. -/
def extensions : List String := ["yml", "yaml"]

/-- Whether an entry of the folder is a recipe file: it has the ending of one, and is a file. -/
def isRecipeFile (v : Files.Visit) : Bool :=
  v.entry.isFile && v.names.getLast?.any (Files.hasExtension extensions)

/-- The recipe that a visited file holds. -/
def readRecipe (root : String) (v : Files.Visit) : Except Failure Recipe :=
  match v.readText root with
  | .error p => .error (.io p.message)
  | .ok text => (Draft.ofYaml unknownSource text).bind Draft.check

/-- What is said of a file that holds no recipe. -/
def skipping (root : String) (v : Files.Visit) (e : Failure) : String :=
  "Skipping invalid recipe file " ++ v.path root ++ ": " ++ e.message

/-- Why a catalog with a folder that cannot be opened is not available. -/
def closedFolder (root : String) (v : Files.Visit) (p : Files.Problem) : String :=
  "IO error for operation on " ++ v.path root ++ ": " ++ p.message

/-- The recipes of visited entries, in the order of the visits, unless one of these is to a folder
that cannot be opened. -/
def readVisits (root : String) : List Files.Visit → Action Machine (List Recipe)
  | [] => pure []
  | v :: rest => do
    Machine.check
    match v.barrier? root with
    | some p =>
      -- The walk looks for the entries of a folder after the folder itself.
      Machine.check
      Work.fail (.catalog root (closedFolder root v p))
    | none =>
      if !isRecipeFile v then readVisits root rest
      else
        match readRecipe root v with
        | .ok r =>
          let more ← readVisits root rest
          return r :: more
        | .error e =>
          Action.say .warn .catalog (skipping root v e) []
          readVisits root rest

/-- Recipes in the order of their names; recipes of one name keep their order. -/
def byName (recipes : List Recipe) : List Recipe :=
  recipes.mergeSort fun r s => r.name ≤ s.name

/-- All recipes of the catalog, in the order of their names. -/
def load (c : Catalog) : Action Machine (List Recipe) := do
  let d := (← Work.world).disk
  if !d.isFolder c.root then Work.fail (.catalog c.root "not a directory")
  let recipes ← readVisits c.root (d.walk true none c.root)
  Action.say .debug .catalog "Loaded recipe catalog"
    [("catalog", c.root), ("count", toString recipes.length)]
  return byName recipes

/-- The first recipe with a name or display name. -/
def find (c : Catalog) (name : String) : Action Machine (Option Recipe) := do
  let recipes ← c.load
  return recipes.find? (·.isNamed name)

/-- The recipes for a host whose software runs there. Nothing is recommended for an unknown
host. -/
def recommend (c : Catalog) (host : Option Host) : Action Machine (List Recipe) := do
  match host with
  | none =>
    Action.say .info .catalog "No discovery manifest available, no recipes can be recommended" []
    return []
  | some h =>
    let recipes ← c.load
    return recipes.filter fun r => r.targetsHost h && r.concernsHost h

end Catalog

end Provision
