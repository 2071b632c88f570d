/-!
# What an installation is to do

A plan says which recipes are wanted and which parts of the installation are left out. Recipes are
given as files, by name, or else those are taken that are recommended for the host.
-/

namespace Provision

/-- Which recipes to install, and what to leave out. -/
structure Plan where
  paths : List String
  names : List String
  skipDiscovery : Bool
  skipAgent : Bool
  skipLogging : Bool
  skipIntegrations : Bool
  accountId : Nat
  deriving Repr, DecidableEq, Inhabited

/-- Which recipes are wanted. -/
inductive Selection where
  | files (paths : List String)
  | named (names : List String)
  | recommended
  deriving Repr, DecidableEq

/-- The recipes that a plan wants: files count before names. -/
def Plan.selection (p : Plan) : Selection :=
  if !p.paths.isEmpty then .files p.paths
  else if !p.names.isEmpty then .named p.names
  else .recommended

end Provision
