import Provision.Recipe.Check
import Provision.Machine
import Provision.Url.Basic

/-!
# Where recipe files come from

An operator names a recipe file by its path or by its address. A text is an address if it reads as
one, and its scheme is no single letter, which would be the letter of a drive; everything else is a
path, as it is (`Location.ofText`). `loadFile` reads a file from disk and `fetchFile` from the
network.
-/

namespace Provision

/-- Where a recipe file is. -/
inductive Location where
  | path (path : String)
  | url (url : Url)
  deriving Repr, DecidableEq

namespace Location

/-- The place that a text names. -/
def ofText (s : String) : Location :=
  match Url.ofText s with
  | .ok u => if 1 < u.scheme.length then url u else path s
  | .error _ => path s

end Location

namespace Recipe

/-- Reads a recipe file from disk. -/
def loadFile (path : String) : Action Machine Draft := do
  let resolved ← Machine.askDisk (·.canonical path) fun p => .io (path ++ ": " ++ p)
  Action.say .debug .recipeFile "Loading recipe file" [("path", resolved)]
  let text ← Machine.askDisk (·.readText resolved) .io
  Work.ofExcept (Draft.ofYaml resolved text)

/-- Reads a recipe file from the network. -/
def fetchFile (u : Url) : Action Machine Draft := do
  Action.say .debug .recipeFile "Fetching recipe file" [("url", u.text)]
  let address := u.withoutUser.text
  if u.scheme ≠ "http" && u.scheme ≠ "https" then
    Work.fail (.request ("builder error for url (" ++ address ++ ")"))
  match (← Work.world).network address with
  | none => Work.fail (.ofUnsent address)
  | some r =>
    match r.statusError? with
    | some problem => Work.fail (.request problem)
    | none => Work.ofExcept (Draft.ofYaml u.text (Text.ofBytesLenient r.body))

end Recipe

end Provision
