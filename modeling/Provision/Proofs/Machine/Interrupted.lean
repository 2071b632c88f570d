import Provision.Proofs.Machine.Keeping
import Provision.Validation

/-!
# Interrupted machines

A machine is interrupted once its next look for an interrupt sees one. Work that looks fails there
and changes nothing more (`Machine.Interrupted.check_bind`), so on an interrupted machine a catalog
is not read, and no data is asked for (`Validation.run_interrupted`). No work takes an interrupt
back: a look keeps a machine interrupted (`Machine.Interrupted.keeps_check`), and so does the work
of every service.
-/

namespace Provision

variable {α : Type}

/-! ## Looks for an interrupt -/

namespace Machine

/-- A machine whose next look for an interrupt sees one. -/
def Interrupted (m : Machine) : Prop := m.interrupt.isTripped = true

variable {m : Machine}

/-- A machine is interrupted if its interrupt is the one that the next look sees. -/
theorem Interrupted.eq_tripped (hm : m.Interrupted) : m.interrupt = .tripped := by
  unfold Interrupted at hm
  cases hi : m.interrupt
  simpa [hi, Interrupt.isTripped, Interrupt.tripped] using hm

/-- On an interrupted machine a look fails and changes nothing. -/
theorem Interrupted.check (hm : m.Interrupted) : check m = ⟨.error .cancelled, [], m⟩ := by
  have hi := hm.eq_tripped
  cases m
  cases hi
  rfl

/-- The machine after a look. -/
def looked (m : Machine) : Machine := { m with interrupt := m.interrupt.next }

/-- On any other machine a look goes well. -/
theorem check_of_not_interrupted (hm : ¬ m.Interrupted) :
    check m = ⟨.ok (), [], m.looked⟩ := by
  have hquiet : m.interrupt.isTripped = false := Bool.eq_false_iff.2 hm
  simp [check, Interrupt.check, hquiet, looked]

/-- On an interrupted machine work that begins with a look fails there. -/
theorem Interrupted.check_bind (hm : m.Interrupted) (f : Unit → Action Machine α) :
    (Machine.check >>= f) m = ⟨.error .cancelled, [], m⟩ := by
  rw [Work.bind_apply, hm.check]

/-- On any other machine only the number of looks changes before the rest of the work. -/
theorem check_bind_of_not_interrupted (hm : ¬ m.Interrupted) (f : Unit → Action Machine α) :
    (check >>= f) m = f () m.looked := by
  rw [Work.bind_apply, check_of_not_interrupted hm]
  rfl

/-- A look takes no interrupt back. -/
theorem Interrupted.keeps_check : Work.Keeps Interrupted Machine.check := by
  intro m hm
  rwa [hm.check]

/-- Changing the files takes no interrupt back. -/
theorem keeps_changeDisk (f : Files.Disk → Except Files.Problem Files.Disk)
    (wrap : String → Failure) : Work.Keeps Interrupted (changeDisk f wrap) := by
  intro m hm
  unfold changeDisk
  cases f m.disk <;> exact hm

end Machine

open Machine (Interrupted)

/-! ## Queries and reports -/

/-- On an interrupted machine a query is not asked: no data is confirmed, nothing is shown, and the
machine stays as it is. -/
theorem Validation.run_interrupted {m : Machine} (hm : m.Interrupted) (p : Profile)
    (patience : Patience) (ask : String → Action Machine Validation) (h : Host) (r : Recipe) :
    ∃ v, Validation.run p patience ask h r m = ⟨v, [], m⟩ ∧
      ∀ found, v = .ok found → found.confirmed = false := by
  unfold Validation.run
  by_cases hkey : p.apiKey = ""
  · simp only [if_pos hkey]
    exact ⟨_, rfl, nofun⟩
  · simp only [if_neg hkey]
    cases patience.attempts with
    | zero => exact ⟨_, rfl, by rintro _ ⟨⟩; rfl⟩
    | succ left => exact ⟨_, hm.check_bind _, nofun⟩

/-- Looking for data takes no interrupt back. -/
theorem Validation.keeps_run (p : Profile) (patience : Patience)
    (ask : String → Action Machine Validation) (h : Host) (r : Recipe) :
    Work.Keeps Interrupted (Validation.run p patience ask h r) := by
  intro m hm
  obtain ⟨v, hrun, -⟩ := run_interrupted hm p patience ask h r
  rwa [hrun]

/-- A report to a status file takes no interrupt back. -/
theorem StatusFile.keeps_report (report : Report) :
    Work.Keeps (fun w : Machine × StatusFile => w.1.Interrupted) (StatusFile.report report) := by
  refine .bind (fun _ hw => hw) fun _ => .bind .world fun (_, f) => .zoom_fst ?_
  refine .bind ?_ fun _ => .bind (Machine.keeps_changeDisk _ _) fun _ => .tell _
  unfold StatusFile.makeFolder
  cases Files.parent? f.path with
  | none => exact .pure ()
  | some parent => exact Machine.keeps_changeDisk _ _

end Provision
