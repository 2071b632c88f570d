import Provision.Proofs.Files.Writing
import Provision.Proofs.Machine.Interrupted

/-!
# What happens to the files of a machine

Most work on a machine leaves its files alone (`Machine.OnDisk`): recipes, catalogs and log files
are only read, and a query is asked of servers that do not get at them. Commands change files as
they like; after a run of them the files are as they were, or as a command left them when it was
last looked at (`Execution.run_onDisk`). A status file is written, and nothing else
(`StatusFile.write_onlyWrites`).
-/

namespace Provision

variable {α : Type} {d : Files.Disk}

namespace Machine

/-- A machine with the files of a disk. -/
def OnDisk (d : Files.Disk) (m : Machine) : Prop := m.disk = d

/-- A look changes no file. -/
theorem onDisk_check : Work.Keeps (OnDisk d) check := fun _ hm => hm

end Machine

open Machine (OnDisk onDisk_check)

/-! ## Validating -/

namespace Validation

variable {ask : String → Action Machine Validation}

/-- Asking again and again changes no file if asking does not. -/
theorem onDisk_attempts (hask : ∀ query, Work.Keeps (OnDisk d) (ask query))
    (recipe query : String) (pauseMs number : Nat) (last : Validation) (left : Nat) :
    Work.Keeps (OnDisk d) (attempts ask recipe query pauseMs number last left) := by
  induction left generalizing number last with
  | zero => exact .pure last
  | succ left ih =>
    refine .bind onDisk_check fun _ => .bind (hask query) fun found => .bind (.tell _) fun _ => ?_
    cases found.confirmed with
    | true => exact .pure found
    | false =>
      by_cases hleft : 0 < left
      · simp only [if_pos hleft]
        exact .bind (fun _ hm => hm) fun _ => ih _ _
      · simp only [if_neg hleft]
        exact ih _ _

/-- Validating a recipe changes no file if asking does not. -/
theorem onDisk_run (hask : ∀ query, Work.Keeps (OnDisk d) (ask query)) (p : Profile)
    (patience : Patience) (h : Host) (r : Recipe) :
    Work.Keeps (OnDisk d) (run p patience ask h r) :=
  .fail_or (onDisk_attempts hask _ _ _ _ _ _)

/-- Asking a server changes no file. -/
theorem onDisk_askServer (server : Server) (p : Profile) (query : String) :
    Work.Keeps (OnDisk d) (askServer server p query) := by
  refine .bind (fun m hm => (server.keepsDisk _ m).trans hm) fun answer => ?_
  cases answer with
  | none => exact .fail _
  | some r =>
    simp only
    cases r.statusError? with
    | some problem => exact .fail _
    | none =>
      simp only
      cases (Text.ofBytes? r.body).bind Json.Value.ofText? with
      | none => exact .fail _
      | some v => exact .ofExcept _

end Validation

/-! ## Running commands -/

namespace Execution

/-- A disk that a command which is started with variables leaves when it is looked at. -/
def LeftBy (launch : Launcher) (given : List (String × String)) (d : Files.Disk) : Prop :=
  ∃ command m child, launch given command m = .ok child ∧
    ∃ moment ∈ child.running ++ [child.last], moment.disk = d

variable {launch : Launcher} {given : List (String × String)}

/-- A machine whose files are those of a disk, or as a command left them. -/
def OnDiskOr (launch : Launcher) (given : List (String × String)) (d : Files.Disk) (m : Machine) :
    Prop :=
  m.disk = d ∨ LeftBy launch given m.disk

/-- What a command did shows in the files as it left them. -/
theorem onDisk_happen {moment : Moment} (h : LeftBy launch given moment.disk) :
    Work.Keeps (OnDiskOr launch given d) (happen moment) := fun _ _ => .inr h

/-- While a command is waited for, the files are as it leaves them. -/
theorem onDisk_wait {last : Moment} {running : List Moment}
    (h : ∀ moment ∈ running ++ [last], LeftBy launch given moment.disk) (ending : Ending) :
    Work.Keeps (OnDiskOr launch given d) (wait last ending running) := by
  induction running with
  | nil => exact .bind (onDisk_happen (h last (by simp))) fun _ => .pure ending
  | cons moment running ih =>
    refine .bind (onDisk_happen (h moment (by simp))) fun _ => .bind (fun _ hm => hm) fun _ => ?_
    exact ih fun moment hmoment => h moment (List.mem_cons_of_mem _ hmoment)

/-- After a command the files are as they were, or as it left them. -/
theorem onDisk_runStep (s : Step) :
    Work.Keeps (OnDiskOr launch given d) (runStep launch given s) := by
  refine .bind (.tell _) fun _ => .bind .world fun m => ?_
  cases hchild : launch given s.run m with
  | error reason => exact .fail _
  | ok child =>
    refine .bind (onDisk_wait (fun moment h => ⟨s.run, m, child, hchild, moment, h, rfl⟩) _)
      fun ending => ?_
    split
    · exact .fail _
    · exact .pure ()

/-- After commands the files are as they were, or as one of these left them. -/
theorem onDisk_runSteps (steps : List Step) :
    Work.Keeps (OnDiskOr launch given d) (runSteps launch given steps) := by
  induction steps with
  | nil => exact .pure ()
  | cons s rest ih => exact .bind (fun _ hm => hm) fun _ => .bind (onDisk_runStep s) fun _ => ih

/-- After a run of commands the files are as they were, or as one of the commands left them. -/
theorem run_onDisk (launch : Launcher) (p : Profile) (h : Host) (r : Recipe) (m : Machine) :
    (run launch p h r m).world.disk = m.disk ∨
      LeftBy launch (r.environment p h) (run launch p h r m).world.disk :=
  Work.Keeps.bind (onDisk_runSteps r.steps) (fun _ => .tell _) m (.inl rfl)

end Execution

/-! ## Writing the status -/

namespace StatusFile

open Files (Disk)

variable {path : String} {m : Machine}

/-- A change of the files relates them to the files before it, if it does where it goes well. -/
theorem changeDisk_disk {R : Disk → Disk → Prop} {f : Disk → Except Files.Problem Disk}
    {wrap : String → Failure} (hsame : R m.disk m.disk)
    (hchanged : ∀ d, f m.disk = .ok d → R m.disk d) :
    R m.disk (Machine.changeDisk f wrap m).world.disk := by
  unfold Machine.changeDisk
  cases hf : f m.disk with
  | ok d => exact hchanged d hf
  | error p => exact hsame

/-- Making the folder of a status file changes no file. -/
theorem makeFolder_keeps (hstart : m.disk.root.HasFolder (m.disk.start path).reverse) :
    Disk.KeepsBut (fun _ => False) m.disk (makeFolder path m).world.disk := by
  unfold makeFolder
  cases hparent : Files.parent? path with
  | none => exact .refl _ _
  | some parent =>
    have hstart' := m.disk.start_parent hparent ▸ hstart
    exact changeDisk_disk (.refl _ _) fun d => Disk.makeFoldersFrom_keeps hstart'

/-- Writing the status writes only the status file. -/
theorem write_onlyWrites (l : StatusList)
    (hstart : m.disk.root.HasFolder (m.disk.start path).reverse) :
    m.disk.OnlyWrites path (write path l m).world.disk := by
  have hmade := makeFolder_keeps hstart
  have hwrites {w : Machine} (hw : w.disk.root.HasFolder (w.disk.start path).reverse) :
      w.disk.OnlyWrites path
        (Machine.changeDisk (·.write false path (Text.bytesOf l.toJson.pretty)) (.statusFile path)
          w).world.disk :=
    changeDisk_disk (.refl _ _) fun _ => Disk.write_onlyWrites hw
  rw [write]
  cases hfolder : (makeFolder path m).value with
  | error e =>
    rw [Work.bind_eq_of_error hfolder]
    exact hmade.trans (.refl _ _) fun _ => False.elim
  | ok u =>
    have hwritten := hmade.trans (hwrites (hmade.hasFolder_start hstart)) fun _ => False.elim
    rw [Work.bind_eq_of_ok hfolder, Work.bind_apply]
    split <;> exact hwritten

end StatusFile

end Provision
