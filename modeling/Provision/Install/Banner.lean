import Provision.Action

/-!
# What an installation shows around its work

A greeting at the beginning, the good news at the end, and for every longer piece of work a line
with a sign that tells how it went.
-/

namespace Provision.Banner

/-- Lines of text, each with its break. -/
def lines (ls : List String) : Output := .stdout (String.join (ls.map (· ++ "\n")))

/-- The greeting. -/
def welcome : Output :=
  lines ["", "  Welcome! Let's install some instrumentation.", "",
    "  Questions? Read more about the installation process at", "  https://docs.newrelic.com/", ""]

/-- Where the data of an account is seen. -/
def launcher (accountId : Nat) : String :=
  "https://one.newrelic.com/launcher/nrai.launcher?platform[accountId]=" ++ toString accountId

/-- The good news. -/
def success (accountId : Nat) : Output :=
  lines ["", "  Success! Your data is available.", "",
    "  Go to the launcher to confirm and start exploring your data.",
    "  " ++ launcher accountId, ""]

/-- The sign of work that went well. -/
def checkMark : String := "\u2705"

/-- The sign of work that failed. -/
def boom : String := String.singleton (Char.ofNat 0x1F4A5)

/-- The line for a piece of work. -/
def workLine (well : Bool) (work : String) : Output :=
  .stderr ((if well then checkMark else boom) ++ " " ++ work)

end Provision.Banner
