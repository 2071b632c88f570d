/-!
# Hosts

What is known about the machine that recipes are installed on: its names and versions, and the
processes that run on it.
-/

namespace Provision

/-- A process that runs on a host. -/
structure Process where
  pid : Nat
  name : String
  commandLine : String
  deriving Repr, DecidableEq, Inhabited

/-- The text that tells what a process is: its command line, or its name if that is empty. -/
def Process.matchText (p : Process) : String :=
  if p.commandLine = "" then p.name else p.commandLine

/-- What is known about a host; an empty text stands for what is not known. -/
structure Host where
  hostname : String
  os : String
  platform : String
  platformVersion : String
  kernelVersion : String
  kernelArch : String
  processes : List Process
  deriving Repr, DecidableEq, Inhabited

/-- A host of which nothing is known. -/
def Host.unknown : Host := ⟨"", "", "", "", "", "", []⟩

end Provision
