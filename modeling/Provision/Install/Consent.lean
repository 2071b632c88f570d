import Provision.Install.Services

/-!
# Consent

Before log files are watched, the operator is asked about each pattern. What is accepted keeps the
order in which it was found; a question that cannot be asked counts as declined.
-/

namespace Provision.Installing

variable {σ : Type}

/-- Asks about log files, and keeps those that are accepted. -/
def askConsent (s : Services σ) : List LogWatch → Installing σ (List LogWatch)
  | [] => pure []
  | w :: rest => do
    match ← ask (.confirm w) (s.confirm w) with
    | .ok true => return w :: (← askConsent s rest)
    | _ => askConsent s rest

/-- The log files that the operator agrees to watch. -/
def accepted (s : Services σ) (found : List LogWatch) : Installing σ WatchList := do
  return ⟨← askConsent s found⟩

end Provision.Installing
