import Provision.Failure

/-!
# Interrupts

A run can be interrupted at any moment, and long work looks from time to time whether it was. All
that matters is how many more looks see no interrupt: an `Interrupt` is that number, or none if no
look will ever see one. Once a look has seen the interrupt, every later one does.
-/

namespace Provision

/-- The number of looks that see no interrupt yet; absent if none ever will. -/
structure Interrupt where
  quiet : Option Nat
  deriving Repr, DecidableEq, Inhabited

namespace Interrupt

/-- No interrupt. -/
def never : Interrupt := ⟨none⟩

/-- An interrupt that the next look sees. -/
def tripped : Interrupt := ⟨some 0⟩

/-- An interrupt that comes after some looks. -/
def after (looks : Nat) : Interrupt := ⟨some looks⟩

/-- Whether the next look sees the interrupt. -/
def isTripped (i : Interrupt) : Bool := i.quiet = some 0

/-- The interrupt after one look. -/
def next (i : Interrupt) : Interrupt := ⟨i.quiet.map (· - 1)⟩

/-- A look that fails if it sees the interrupt. -/
def check (i : Interrupt) : Except Failure Unit × Interrupt :=
  (if i.isTripped then .error .cancelled else .ok (), i.next)

/-- Sleeps for a number of slices, looking before each of them and at the end. -/
def sleep : Nat → Interrupt → Except Failure Unit × Interrupt
  | 0, i => i.check
  | n + 1, i => if i.isTripped then (.error .cancelled, i.next) else sleep n i.next

/-- The slices of a sleep, a tenth of a second each, the last one perhaps shorter. -/
def slices (milliseconds : Nat) : Nat := (milliseconds + 99) / 100

end Interrupt

end Provision
