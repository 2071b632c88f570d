import Provision.Profile.Basic
import Provision.Machine

/-!
# Profiles in a file

The profiles are kept in a file of the configuration folder, which need not be there. A listing of
them shows every profile with its account and the end of its key, and which one a run uses that
asks for none.
-/

namespace Provision

namespace ProfileStore

/-- The profiles of a file; there are none if the file is missing. -/
def load (path : String) : Action Machine ProfileStore := do
  if !(← Work.world).disk.exists? path then
    Action.say .debug .profiles "No profile store, continuing without profiles" [("path", path)]
    return empty
  else
    let text ← Machine.askDisk (·.readText path) .io
    Work.ofExcept (ofYaml path text)

end ProfileStore

namespace Profile

/-- How many characters at the end of a key are shown. -/
def shownEnd : Nat := 4

/-- How many characters at most stand for those that are not shown. -/
def maxStars : Nat := 8

/-- A key with only its end shown. -/
def maskedKey (key : String) : String :=
  if key = "" then "(not set)"
  else
    let hidden := key.length - shownEnd
    String.ofList (List.replicate (min maxStars hidden) '*' ++ key.toList.drop hidden)

/-- A profile in a listing. -/
def listed (showKeys : Bool) (standard : Option String) (name : String) (p : Profile) : String :=
  String.intercalate "\n" [
    "  " ++ name ++ (if standard = some name then " (default)" else ""),
    "    Account: " ++ toString p.accountId,
    "    Region: " ++ p.region.name,
    "    API key: " ++ (if showKeys then p.apiKey else maskedKey p.apiKey),
    "", ""]

end Profile

namespace ProfileStore

/-- A listing of the profiles of a file. -/
def listing (s : ProfileStore) (path : String) (showKeys : Bool) : Except Failure String :=
  if s.profiles.isEmpty then
    .ok ("No profiles configured.\nAdd one to " ++ path ++ "\n")
  else
    (s.resolve Option.none).map fun standard =>
      "Configured profiles (" ++ toString s.profiles.rows.length ++ "):\n\n" ++
        String.join (s.profiles.rows.map fun row =>
          row.2.listed showKeys (standard.map (·.1)) row.1)

end ProfileStore

end Provision
