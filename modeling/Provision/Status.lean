import Provision.Recipe.Record
import Provision.Machine
import Provision.Json.Printer

/-!
# The status of a run

What became of each recipe of a run: it was available, it was installed, or it failed. A status
list has one entry for a recipe name, which a later event replaces where it stands. The list is
written to a file after every event, and what is in memory stays even if writing fails, so the next
write makes up for it.
-/

namespace Provision

open Json (Value)

/-- What became of a recipe. -/
inductive RecipeState where
  | available | installed | failed
  deriving Repr, DecidableEq, Inhabited

namespace RecipeState

/-- The name of a state in a status file. -/
def name : RecipeState → String
  | available => "available"
  | installed => "installed"
  | failed => "failed"

/-- The state of a name. -/
def ofName? : String → Option RecipeState
  | "available" => some available
  | "installed" => some installed
  | "failed" => some failed
  | _ => none

end RecipeState

/-- The status of one recipe. -/
structure RecipeStatus where
  name : String
  displayName : String
  state : RecipeState
  error : Option String
  entity : Option String
  deriving Repr, DecidableEq, Inhabited

/-- What is reported about recipes. A message or an entity that is empty is not there. -/
inductive Report where
  | available (recipes : List Recipe)
  | installed (recipe : Recipe) (message entity : String)
  | failed (recipe : Recipe) (message entity : String)

/-- The status of the recipes of a run, in the order in which they were first mentioned. -/
structure StatusList where
  statuses : List RecipeStatus
  deriving Repr, DecidableEq, Inhabited

/-- A text, unless it is empty. -/
def textUnlessEmpty (s : String) : Option String := if s = "" then none else some s

/-- The entry for a recipe. -/
def Recipe.status (r : Recipe) (state : RecipeState) (message entity : String) : RecipeStatus :=
  ⟨r.name, r.displayName, state, textUnlessEmpty message, textUnlessEmpty entity⟩

namespace StatusList

/-- No recipes yet. -/
def empty : StatusList := ⟨[]⟩

/-- Puts an entry in the place of the one of its name, or at the end. -/
def put (entry : RecipeStatus) : List RecipeStatus → List RecipeStatus
  | [] => [entry]
  | s :: rest => if s.name = entry.name then entry :: rest else s :: put entry rest

/-- The list after an entry was made. -/
def record (l : StatusList) (entry : RecipeStatus) : StatusList := ⟨put entry l.statuses⟩

/-- The list after a report. -/
def update (l : StatusList) : Report → StatusList
  | .available recipes =>
    recipes.foldl (fun l r => l.record (r.status .available "" "")) l
  | .installed r message entity => l.record (r.status .installed message entity)
  | .failed r message entity => l.record (r.status .failed message entity)

end StatusList

/-! ## As a record -/

/-- An entry as a record; what is absent is left out. -/
def RecipeStatus.toJson (s : RecipeStatus) : Value :=
  .object ([("name", .string s.name), ("displayName", .string s.displayName),
      ("status", .string s.state.name)] ++
    (s.error.map fun e => ("error", Value.string e)).toList ++
    (s.entity.map fun e => ("entityGuid", Value.string e)).toList)

/-- A status list as a record. -/
def StatusList.toJson (l : StatusList) : Value :=
  .object [("statuses", .array (l.statuses.map RecipeStatus.toJson))]

/-- Reads an entry. -/
def RecipeStatus.ofJson? (v : Value) : Option RecipeStatus := do
  match ← Json.format.fields [⟨"name", .required⟩, ⟨"displayName", .required⟩,
      ⟨"status", .required⟩, ⟨"error", .defaulted⟩, ⟨"entityGuid", .defaulted⟩] v with
  | [name, displayName, state, error, entity] =>
    let name ← Json.format.required Value.text? name
    let displayName ← Json.format.required Value.text? displayName
    let state ← Json.format.required
      (Json.format.choice ["available", "installed", "failed"]) state
    let state ← RecipeState.ofName? state
    let error ← Json.format.optional Value.text? error
    let entity ← Json.format.optional Value.text? entity
    return ⟨name, displayName, state, error, entity⟩
  | _ => none

/-- Reads a status list. -/
def StatusList.ofJson? (v : Value) : Option StatusList := do
  match ← Json.format.fields [⟨"statuses", .required⟩] v with
  | [statuses] =>
    return ⟨← Json.format.required (Json.format.list RecipeStatus.ofJson?) statuses⟩
  | _ => none

/-! ## In a file -/

/-- A status list that is kept in a file. -/
structure StatusFile where
  path : String
  list : StatusList
  deriving Inhabited

namespace StatusFile

/-- A status file at a path; nothing is written yet. -/
def new (path : String) : StatusFile := ⟨path, .empty⟩

/-- Makes the folder that a file belongs in. -/
def makeFolder (path : String) : Action Machine Unit :=
  match Files.parent? path with
  | some parent => Machine.changeDisk (·.makeFolders parent) (.statusFile path)
  | none => pure ()

/-- Writes a status list to a file, and makes the folder it belongs in. -/
def write (path : String) (l : StatusList) : Action Machine Unit := do
  makeFolder path
  Machine.changeDisk (·.write false path (Text.bytesOf l.toJson.pretty)) (.statusFile path)
  Action.say .debug .status "Wrote install status" [("path", path)]

/-- Reports to a status file in a world that has a way to save status lists: the list is updated
and then saved. -/
def reportWith {σ : Type} (save : String → StatusList → Action σ Unit) (r : Report) :
    Action (σ × StatusFile) Unit := do
  Work.change fun (w, f) => (w, { f with list := f.list.update r })
  let (_, f) ← Work.world
  Work.zoom Prod.fst (fun w v => (w, v.2)) (save f.path f.list)

/-- Reports to a status file on a machine. -/
def report : Report → Action (Machine × StatusFile) Unit := reportWith write

end StatusFile

end Provision
