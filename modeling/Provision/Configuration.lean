import Provision.Machine

/-!
# The configuration folder

The profiles, the recipe catalog and the status of the last run are found in one folder. The
operator may name it; otherwise it is the program's own folder among the configuration of the user.
-/

namespace Provision.Configuration

/-- The file with the profiles. -/
def profilesName : String := "profiles.yaml"

/-- The folder with the recipe catalog. -/
def catalogName : String := "recipes"

/-- The file with the status of the last run. -/
def statusName : String := "install-status.json"

/-- The home folder of the user: the one that the environment names, unless that is empty, or else
the one of the account. -/
def home? (m : Machine) : Option String :=
  ((m.valueOf? "HOME").filter (· ≠ "")) <|> m.home

/-- The folder with the configuration of the user's programs. The environment may name it by an
absolute path; other paths do not count. -/
def userFolder? (m : Machine) : Option String :=
  ((m.valueOf? "XDG_CONFIG_HOME").filter Files.isAbsolute) <|>
    ((home? m).map (Files.join · ".config"))

/-- The configuration folder, which may be given. -/
def folder (given : Option String) (m : Machine) : Except Failure String :=
  match given with
  | some path => .ok path
  | none =>
    match userFolder? m with
    | some path => .ok (Files.join path "instrumentor")
    | none => .error (.io "Could not determine the configuration directory")

end Provision.Configuration
