import Provision.Action
import Provision.Interrupt
import Provision.Files.Walk
import Provision.Host

/-!
# The machine a run works on

What a run of the program can see and change: the files, the environment, the host that discovery
finds, what the network answers, and whether the run was interrupted.
-/

namespace Provision

/-- What the servers answer to a request in the end: a status with its reason, the address that
gave it after all redirections, and the body. -/
structure Response where
  status : Nat
  reason : String
  address : String
  body : List UInt8
  deriving Inhabited

/-- What the status of a response says, if it is an error. -/
def Response.statusError? (r : Response) : Option String :=
  if 400 ≤ r.status && r.status < 600 then
    some ("HTTP status " ++ (if r.status < 500 then "client" else "server") ++ " error (" ++
      toString r.status ++ " " ++ r.reason ++ ") for url (" ++ r.address ++ ")")
  else none

/-- The machine. `home` is the folder of the account that runs the program, if it has one, and
`network` answers a request for an address, and does not if the request cannot be sent. -/
structure Machine where
  disk : Files.Disk
  environment : List (String × String)
  home : Option String
  host : Host
  network : String → Option Response
  interrupt : Interrupt
  deriving Inhabited

namespace Machine

/-- Stops if the run was interrupted. -/
def check : Action Machine Unit := fun m =>
  let (r, i) := m.interrupt.check
  ⟨r, [], { m with interrupt := i }⟩

/-- The value of an environment variable. -/
def valueOf? (m : Machine) (name : String) : Option String :=
  (m.environment.find? (fun v => v.1 = name)).map (·.2)

/-- Finds out about the host; its processes are in the order of their numbers. -/
def discover : Action Machine Host := do
  check
  check
  let h := (← Work.world).host
  Action.say .debug .discovery "Discovered host"
    [("hostname", h.hostname), ("os", h.os), ("platform", h.platform),
      ("processes", toString h.processes.length)]
  return { h with processes := h.processes.mergeSort fun p q => p.pid ≤ q.pid }

/-- An operation on the files that changes them. -/
def changeDisk (f : Files.Disk → Except Files.Problem Files.Disk) (wrap : String → Failure) :
    Action Machine Unit := fun m =>
  match f m.disk with
  | .ok d => ⟨.ok (), [], { m with disk := d }⟩
  | .error p => ⟨.error (wrap p.message), [], m⟩

/-- A question about the files. -/
def askDisk {α : Type} (f : Files.Disk → Except Files.Problem α) (wrap : String → Failure) :
    Action Machine α := fun m =>
  match f m.disk with
  | .ok a => ⟨.ok a, [], m⟩
  | .error p => ⟨.error (wrap p.message), [], m⟩

end Machine

end Provision
