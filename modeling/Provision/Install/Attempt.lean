import Provision.Install.Services
import Provision.Install.Banner

/-!
# Installing one recipe

An attempt runs the commands of a recipe and, if the recipe has a query, checks that its data
arrives. What became of it is reported; that the report fails is shown, but changes nothing else.
An attempt has a verdict, unless the recipe ran and has no query: then nothing is known, and nothing
reported. Whether a failed attempt ends the installation is for the caller to say.
-/

namespace Provision

namespace Installing

variable {σ : Type}

/-- Reports something. If that fails, it is said why, after a text. -/
def reportOrSay (s : Services σ) (report : Report) (failing : String) : Installing σ Unit := do
  match ← ask (.report report) (s.report report) with
  | .ok () => pure ()
  | .error e => say .error (failing ++ e.message) []

/-- Reports that recipes are available. -/
def reportAvailable (s : Services σ) (recipes : List Recipe) : Installing σ Unit :=
  reportOrSay s (.available recipes) "Could not report recipe execution status: "

/-- Reports what became of a recipe. -/
def reportVerdict (s : Services σ) (name : String) (verdict : Report) : Installing σ Unit :=
  reportOrSay s verdict ("Error writing recipe status for recipe " ++ name ++ ": ")

/-- What is reported of a recipe whose data was not seen. -/
def notValidated : String := "could not validate recipe data"

/-- What is reported of a recipe whose commands failed. -/
def executionError (name : String) (e : Failure) : String :=
  "encountered an error while executing " ++ name ++ ": " ++ e.message

/-- What is reported of a recipe whose data could not be looked for. -/
def validationError (name : String) (e : Failure) : String :=
  "encountered an error while validating receipt of data for " ++ name ++ ": " ++ e.message

/-- Runs a recipe and looks for its data: whether its data was seen or need not be. -/
def attempt (s : Services σ) (h : Host) (r : Recipe) : Installing σ (Except Failure Bool) := do
  match ← ask (.execute h r) (s.execute h r) with
  | .error e =>
    let message := executionError r.name e
    reportVerdict s r.name (.failed r message "")
    return .error (.installation r.name message)
  | .ok () =>
    if !r.hasQuery then
      say .debug "Skipping validation due to missing validation query." []
      return .ok true
    match ← ask (.validate h r) (s.validate h r) with
    | .error e =>
      let message := validationError r.name e
      reportVerdict s r.name (.failed r message "")
      return .error (.installation r.name message)
    | .ok v =>
      if v.confirmed then
        reportVerdict s r.name (.installed r "" v.entity)
        return .ok true
      else
        reportVerdict s r.name (.failed r notValidated v.entity)
        return .ok false

/-- The name of the work that an attempt is. -/
def attemptWork (r : Recipe) : String := "Installing " ++ r.name ++ "..."

/-- An attempt that has to go well. -/
def attemptOrStop (s : Services σ) (h : Host) (r : Recipe) : Installing σ Unit := do
  match ← attempt s h r with
  | .ok true => present (Banner.workLine true (attemptWork r))
  | .ok false =>
    present (Banner.workLine false (attemptWork r))
    Work.fail (.noData r.name)
  | .error e =>
    present (Banner.workLine false (attemptWork r))
    Work.fail e

/-- An attempt that may go wrong, with a warning. -/
def attemptOrWarn (s : Services σ) (h : Host) (r : Recipe) : Installing σ Unit := do
  match ← attempt s h r with
  | .ok true => present (Banner.workLine true (attemptWork r))
  | .ok false =>
    present (Banner.workLine false (attemptWork r))
    say .warn (Failure.noData r.name).message []
  | .error e =>
    present (Banner.workLine false (attemptWork r))
    say .warn e.message []

end Installing

end Provision
