import Provision.Execution.Steps
import Provision.Proofs.Lists
import Provision.Proofs.Machine.Interrupted

/-!
# What is seen of a run of commands

The log of a run of commands holds what the run shows, but not which commands it started nor when
it looked for an interrupt. `Execution.Watched.run` is the same run with all this in its log, as
`Sight`s: without what only a watcher sees, it is the run itself (`Watched.forget_run`).

A run heeds interrupts (`Watched.run_heeds`): the look that sees an interrupt is the last that is
seen of the run, so no command is started after it. On a machine that was interrupted before, that
look is the first (`Watched.run_interrupted`).
-/

namespace Provision

variable {α β : Type}

/-- Something that is seen of a run of commands: something it shows, a look for an interrupt and
whether it saw one, a command that is to be started with variables, and the end of a command. -/
inductive Sight where
  | shown (output : Output)
  | looked (interrupted : Bool)
  | started (given : List (String × String)) (step : Step)
  | ended (ending : Ending)
  deriving DecidableEq

namespace Sight

/-- What is shown. -/
def output? : Sight → Option Output
  | shown o => some o
  | _ => none

/-- Whether a command is started. -/
def isStart : Sight → Bool
  | started .. => true
  | _ => false

end Sight

namespace Execution

/-- Work on a machine with what is seen of it. -/
abbrev Watched (α : Type) : Type := Work Sight Machine α

namespace Watched

/-! ## Watched runs -/

/-- Work of which nothing is seen but what it shows. -/
def plain (x : Action Machine α) : Watched α := fun m =>
  ⟨(x m).value, (x m).log.map .shown, (x m).world⟩

/-- A look for an interrupt. -/
def look : Watched Unit := fun m =>
  ⟨(Machine.check m).value, [.looked m.interrupt.isTripped], (Machine.check m).world⟩

/-- Waits for a command to end. -/
def wait (last : Moment) (ending : Ending) : List Moment → Watched Ending
  | [] => do
    plain (happen last)
    Work.tell (.ended ending)
    return ending
  | m :: running => do
    plain (happen m)
    look
    wait last ending running

/-- Runs one command. -/
def runStep (launch : Launcher) (given : List (String × String)) (s : Step) : Watched Unit := do
  plain (Action.say .debug .execution "Running install step" [("step", Text.quoted s.label)])
  Work.tell (.started given s)
  match launch given s.run (← Work.world) with
  | .error reason => Work.fail (.step s.label reason)
  | .ok child =>
    let ending ← wait child.last child.ending child.running
    if ending ≠ .status 0 then
      Work.fail (.step s.label ("exited with " ++ ending.text))

/-- Runs commands in order. -/
def runSteps (launch : Launcher) (given : List (String × String)) : List Step → Watched Unit
  | [] => pure ()
  | s :: rest => do
    look
    runStep launch given s
    runSteps launch given rest

/-- Runs the commands of a recipe. -/
def run (launch : Launcher) (p : Profile) (h : Host) (r : Recipe) : Watched Unit := do
  runSteps launch (r.environment p h) r.steps
  plain (Action.say .info .execution "Executed recipe"
    [("recipe", r.name), ("steps", toString r.steps.length)])

/-! ## Watching changes nothing -/

/-- Work without what only a watcher sees. -/
def forget (x : Watched α) : Action Machine α := fun m =>
  ⟨(x m).value, (x m).log.filterMap Sight.output?, (x m).world⟩

/-- Work that was watched from outside only is itself. -/
theorem forget_plain (x : Action Machine α) : forget (plain x) = x := by
  funext m
  simp [forget, plain, List.filterMap_map, Function.comp_def, Sight.output?]

/-- A look that is watched is a look. -/
theorem forget_look : forget look = Machine.check := rfl

/-- Work that is watched piece by piece is put together from the pieces. -/
theorem forget_bind (x : Watched α) (f : α → Watched β) :
    forget (x >>= f) = forget x >>= fun a => forget (f a) := by
  funext m
  cases h : (x m).value with
  | error e =>
    have hx : (forget x m).value = .error e := h
    rw [Work.bind_eq_of_error hx, forget, Work.bind_eq_of_error h]
    rfl
  | ok a =>
    have hx : (forget x m).value = .ok a := h
    rw [Work.bind_eq_of_ok hx, forget, Work.bind_eq_of_ok h, List.filterMap_append]
    rfl

/-- Of what only a watcher sees, nothing is left. -/
theorem forget_tell_bind {s : Sight} (hs : s.output? = none) (f : Unit → Watched β) :
    forget (Work.tell s >>= f) = forget (f ()) := by
  funext m
  simp [forget, Work.bind_apply, Work.tell, hs]

/-- Watched waiting is waiting. -/
theorem forget_wait (last : Moment) (ending : Ending) (running : List Moment) :
    forget (wait last ending running) = Execution.wait last ending running := by
  induction running with
  | nil =>
    rw [wait, forget_bind, forget_plain]
    exact congrArg _ (funext fun _ => forget_tell_bind rfl _)
  | cons m running ih =>
    simp only [wait, Execution.wait, forget_bind, forget_plain, forget_look, ih]

/-- A watched command is run like any other. -/
theorem forget_runStep (launch : Launcher) (given : List (String × String)) (s : Step) :
    forget (runStep launch given s) = Execution.runStep launch given s := by
  rw [runStep, forget_bind, forget_plain]
  refine congrArg _ (funext fun _ => ?_)
  rw [forget_tell_bind rfl, forget_bind]
  refine congrArg _ (funext fun m => ?_)
  cases launch given s.run m with
  | error reason => rfl
  | ok child =>
    simp only [forget_bind, forget_wait]
    refine congrArg _ (funext fun ending => ?_)
    split <;> rfl

/-- Watched commands are run like any others. -/
theorem forget_runSteps (launch : Launcher) (given : List (String × String)) (steps : List Step) :
    forget (runSteps launch given steps) = Execution.runSteps launch given steps := by
  induction steps with
  | nil => rfl
  | cons s rest ih =>
    simp only [runSteps, Execution.runSteps, forget_bind, forget_look, forget_runStep, ih]

/-- Watching a run changes nothing. -/
theorem forget_run (launch : Launcher) (p : Profile) (h : Host) (r : Recipe) :
    forget (run launch p h r) = Execution.run launch p h r := by
  simp only [run, Execution.run, forget_bind, forget_runSteps, forget_plain]

/-! ## Interrupts are heeded -/

/-- On an interrupted machine nothing is seen of work that begins with a look but the look. -/
theorem look_bind_of_interrupted {m : Machine} (hm : m.Interrupted) (f : Unit → Watched α) :
    (look >>= f) m = ⟨.error .cancelled, [.looked true], m⟩ := by
  rw [Work.bind_apply, look, hm.check, hm]

/-- An outcome in which an interrupt was heeded: either no look saw one, or the only one that did is
the last that was seen, the work was cancelled, and the machine stays interrupted. -/
inductive Heeded (o : Outcome Sight Machine α) : Prop
  | quiet (h : .looked true ∉ o.log)
  | stopped {before : List Sight} (hlog : o.log = before ++ [.looked true])
      (hbefore : .looked true ∉ before) (hvalue : o.value = .error .cancelled)
      (hworld : o.world.Interrupted)

/-- What is seen after a look that saw an interrupt is nothing, and then the machine stays
interrupted. -/
theorem Heeded.eq_nil {o : Outcome Sight Machine α} (h : Heeded o) {before after : List Sight}
    (hlog : o.log = before ++ .looked true :: after) : after = [] ∧ o.world.Interrupted := by
  cases h with
  | quiet hq => simp [hlog] at hq
  | @stopped before' hlog' hbefore _ hworld =>
    refine ⟨?_, hworld⟩
    rw [hlog'] at hlog
    obtain ⟨pre, -, hlast⟩ := append_eq_append_cons before' hlog hbefore
    cases pre with
    | nil => simpa using hlast.symm
    | cons s pre => simp at hlast

/-- Work that heeds interrupts. -/
def Heeds (x : Watched α) : Prop := ∀ m, Heeded (x m)

namespace Heeds

variable {x : Watched α} {f : α → Watched β}

/-- An answer sees no interrupt. -/
theorem pure (a : α) : Heeds (Pure.pure a) := fun _ => .quiet List.not_mem_nil

/-- A failure of its own sees no interrupt. -/
theorem fail (e : Failure) : Heeds (Work.fail e : Watched α) := fun _ => .quiet List.not_mem_nil

/-- Looking at the machine sees no interrupt. -/
theorem world : Heeds Work.world := fun _ => .quiet List.not_mem_nil

/-- What is seen beside looks is no interrupt. -/
theorem tell {s : Sight} (hs : s ≠ .looked true) : Heeds (Work.tell s) :=
  fun _ => .quiet fun h => hs (List.mem_singleton.1 h).symm

/-- In plain work no look is seen. -/
theorem plain (x : Action Machine α) : Heeds (plain x) :=
  fun _ => .quiet (by simp [Watched.plain])

/-- A look fails if it sees an interrupt. -/
theorem look : Heeds look := by
  intro m
  by_cases hm : m.Interrupted
  · have hlook : Watched.look m = ⟨.error .cancelled, [.looked true], m⟩ := by
      rw [Watched.look, hm.check, hm]
    rw [hlook]
    exact .stopped (List.nil_append _).symm List.not_mem_nil rfl hm
  · refine .quiet fun h => hm ?_
    have hseen := List.mem_singleton.1 h
    injection hseen with hseen
    exact hseen.symm

/-- Work that heeds looks may go on with more such work. -/
theorem bind (hx : Heeds x) (hf : ∀ a, Heeds (f a)) : Heeds (x >>= f) := by
  intro m
  cases hv : (x m).value with
  | error e =>
    rw [Work.bind_eq_of_error hv]
    cases hx m with
    | quiet h => exact .quiet h
    | stopped hlog hbefore hvalue hworld =>
      rw [hv] at hvalue
      cases hvalue
      exact .stopped hlog hbefore rfl hworld
  | ok a =>
    rw [Work.bind_eq_of_ok hv]
    cases hx m with
    | stopped _ _ hvalue _ => rw [hv] at hvalue; cases hvalue
    | quiet h =>
      cases hf a (x m).world with
      | quiet h' => exact .quiet fun hmem => (List.mem_append.1 hmem).elim h h'
      | @stopped before hlog hbefore hvalue hworld =>
        have hall : (x m).log ++ (f a (x m).world).log =
            ((x m).log ++ before) ++ [.looked true] := by rw [hlog, List.append_assoc]
        exact .stopped hall (fun hmem => (List.mem_append.1 hmem).elim h hbefore) hvalue hworld

end Heeds

/-- Waiting for a command ends when a look sees an interrupt. -/
theorem wait_heeds (last : Moment) (ending : Ending) (running : List Moment) :
    Heeds (wait last ending running) := by
  induction running with
  | nil => exact .bind (.plain _) fun _ => .bind (.tell nofun) fun _ => .pure _
  | cons m running ih => exact .bind (.plain _) fun _ => .bind .look fun _ => ih

/-- A command ends when a look sees an interrupt. -/
theorem runStep_heeds (launch : Launcher) (given : List (String × String)) (s : Step) :
    Heeds (runStep launch given s) := by
  refine .bind (.plain _) fun _ => .bind (.tell nofun) fun _ => .bind .world fun m => ?_
  cases launch given s.run m with
  | error reason => exact .fail _
  | ok child =>
    refine .bind (wait_heeds _ _ _) fun ending => ?_
    split
    · exact .fail _
    · exact .pure ()

/-- Commands end when a look sees an interrupt. -/
theorem runSteps_heeds (launch : Launcher) (given : List (String × String)) (steps : List Step) :
    Heeds (runSteps launch given steps) := by
  induction steps with
  | nil => exact .pure ()
  | cons s rest ih => exact .bind .look fun _ => .bind (runStep_heeds launch given s) fun _ => ih

/-- A run of the commands of a recipe heeds interrupts. -/
theorem run_heeds (launch : Launcher) (p : Profile) (h : Host) (r : Recipe) :
    Heeds (run launch p h r) :=
  .bind (runSteps_heeds launch _ r.steps) fun _ => .plain _

/-- The interrupt comes while the first of two commands runs, and the second is not started. -/
example :
    let first : Step := ⟨some "first", "sleep 9"⟩
    let child : Child := ⟨[⟨[], default, true⟩], ⟨[], default, false⟩, .status 0⟩
    ((runSteps (fun _ _ _ => .ok child) [] [first, ⟨none, "true"⟩] default).log.filter
      (·.output?.isNone)) = [.looked false, .started [] first, .looked true] := by
  decide

/-- On an interrupted machine no command of a recipe is started: the first look stops the run, if
there is a command at all. The machine stays as it is. -/
theorem run_interrupted {m : Machine} (hm : m.Interrupted) (launch : Launcher) (p : Profile)
    (h : Host) (r : Recipe) :
    (∀ s ∈ (run launch p h r m).log, s.isStart = false) ∧ (run launch p h r m).world = m ∧
      (r.steps ≠ [] → run launch p h r m = ⟨.error .cancelled, [.looked true], m⟩) := by
  cases hr : r.steps with
  | nil =>
    have hrun : run launch p h r m = plain (Action.say .info .execution "Executed recipe"
        [("recipe", r.name), ("steps", "0")]) m := by
      rw [run, hr]
      rfl
    rw [hrun]
    exact ⟨fun s hs => List.mem_singleton.1 hs ▸ rfl, rfl, nofun⟩
  | cons s rest =>
    have hrun : run launch p h r m = ⟨.error .cancelled, [.looked true], m⟩ := by
      rw [run, hr, runSteps, Work.bind_assoc_eq, look_bind_of_interrupted hm]
    rw [hrun]
    exact ⟨fun s hs => List.mem_singleton.1 hs ▸ rfl, rfl, fun _ => rfl⟩

end Watched

/-- Running the commands of a recipe takes no interrupt back. -/
theorem keeps_run (launch : Launcher) (p : Profile) (h : Host) (r : Recipe) :
    Work.Keeps Machine.Interrupted (run launch p h r) := by
  intro m hm
  obtain ⟨-, hworld, -⟩ := Watched.run_interrupted hm launch p h r
  rw [← Watched.forget_run]
  exact (congrArg Machine.Interrupted hworld).mpr hm

end Execution

end Provision
