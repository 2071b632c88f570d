import Provision.Proofs.Execution.Watched

/-!
# Commands run in order

A run of commands starts them one after the other, each after a look that saw no interrupt and
after the one before it has ended well (`Execution.Sequence`). What is seen of one command is that
it is started, the looks while it runs, and its end (`Execution.Commanded`); a command that cannot
be started, ends badly or is interrupted is the last one, and the run fails as it does.

`Execution.run_sequence` states for the commands of a recipe what follows (`Execution.InOrder`): the
commands that were started are the first ones of the recipe, each after the ones before it ended
well, and the run goes well just if all of them were started and ended well.
-/

namespace Provision

namespace Sight

/-- The command that is started, with its variables. -/
def started? : Sight → Option (List (String × String) × Step)
  | started given s => some (given, s)
  | _ => none

/-- How a command ended. -/
def ended? : Sight → Option Ending
  | ended ending => some ending
  | _ => none

end Sight

namespace Execution

variable {α : Type} {launch : Launcher} {given : List (String × String)}

/-! ## What is seen of a run -/

/-- Looks that see no interrupt. -/
def quietLooks (n : Nat) : List Sight := List.replicate n (.looked false)

/-- What is seen of a wait for a command that is found running some times and then ends: each time
it is looked for an interrupt, until there is one. -/
inductive Awaited (ending : Ending) (running : Nat) : List Sight → Except Failure Ending → Prop
  | ended : Awaited ending running (quietLooks running ++ [.ended ending]) (.ok ending)
  | interrupted {n : Nat} (hn : n < running) :
      Awaited ending running (quietLooks n ++ [.looked true]) (.error .cancelled)

/-- What is seen of one command on a machine, and what comes of it: it cannot be started, ends well,
ends badly, or is interrupted while it runs. -/
inductive Commanded (launch : Launcher) (given : List (String × String)) (s : Step) (m : Machine) :
    List Sight → Except Failure Unit → Prop
  | refused {reason : String} (h : launch given s.run m = .error reason) :
      Commanded launch given s m [.started given s] (.error (.step s.label reason))
  | succeeded {child : Child} (h : launch given s.run m = .ok child)
      (hending : child.ending = .status 0) :
      Commanded launch given s m
        (.started given s :: (quietLooks child.running.length ++ [.ended child.ending])) (.ok ())
  | failed {child : Child} (h : launch given s.run m = .ok child)
      (hending : child.ending ≠ .status 0) :
      Commanded launch given s m
        (.started given s :: (quietLooks child.running.length ++ [.ended child.ending]))
        (.error (.step s.label ("exited with " ++ child.ending.text)))
  | interrupted {child : Child} (h : launch given s.run m = .ok child) {n : Nat}
      (hn : n < child.running.length) :
      Commanded launch given s m (.started given s :: (quietLooks n ++ [.looked true]))
        (.error .cancelled)

/-- What commands that are run in order leave of a machine. -/
def leaves (launch : Launcher) (given : List (String × String)) (steps : List Step)
    (m : Machine) : Machine :=
  steps.foldl (fun m s => (runStep launch given s m.looked).world) m

/-- What is seen of commands that are run in order on a machine, and what comes of them. Each is
run on the machine that the ones before it leave. -/
inductive Sequence (launch : Launcher) (given : List (String × String)) :
    List Step → Machine → List Sight → Except Failure Unit → Prop
  | nil (m : Machine) : Sequence launch given [] m [] (.ok ())
  | interrupted {m : Machine} (hm : m.Interrupted) (s : Step) (rest : List Step) :
      Sequence launch given (s :: rest) m [.looked true] (.error .cancelled)
  | stopped {m : Machine} (hm : ¬ m.Interrupted) {s : Step} {sights : List Sight} {e : Failure}
      (h : Commanded launch given s m.looked sights (.error e)) (rest : List Step) :
      Sequence launch given (s :: rest) m (.looked false :: sights) (.error e)
  | cons {m : Machine} (hm : ¬ m.Interrupted) {s : Step} {sights sights' : List Sight}
      {rest : List Step} {v : Except Failure Unit}
      (h : Commanded launch given s m.looked sights (.ok ()))
      (hrest : Sequence launch given rest (runStep launch given s m.looked).world sights' v) :
      Sequence launch given (s :: rest) m (.looked false :: (sights ++ sights')) v

/-- Commands that are run in order on a machine, as they are `seen`, and what comes of them. -/
structure InOrder (launch : Launcher) (given : List (String × String)) (steps : List Step)
    (m : Machine) (seen : List Sight) (v : Except Failure Unit) : Prop where
  /-- The commands that are started are the first ones, in order, each once and with the same
  variables. -/
  first : seen.filterMap Sight.started? <+: steps.map (given, ·)
  /-- A command is started after the ones before it have all ended well and a look saw no interrupt.
  It is run on the machine that they leave, and if it does not go well it is the last thing that is
  seen, and the run fails as it does. -/
  started {before after : List Sight} {g : List (String × String)} {s : Step}
    (hseen : seen = before ++ .started g s :: after) : g = given ∧
      ∃ done todo earlier, steps = done ++ s :: todo ∧ before = earlier ++ [.looked false] ∧
        Sequence launch given done m earlier (.ok ()) ∧
        (earlier = [] ∨ ∃ es, earlier = es ++ [.ended (.status 0)]) ∧
        ∃ sights rest u,
          Commanded launch given s (leaves launch given done m).looked
            (.started given s :: sights) u ∧
          after = sights ++ rest ∧ ∀ e, u = .error e → rest = [] ∧ v = .error e
  /-- The run goes well just if all commands are started and end well. -/
  ok_iff : v = .ok () ↔ seen.filterMap Sight.started? = steps.map (given, ·) ∧
    seen.filterMap Sight.ended? = List.replicate steps.length (.status 0)
  /-- A look that sees an interrupt is the last thing that is seen, and the run is cancelled. -/
  interrupted {before after : List Sight} (hseen : seen = before ++ .looked true :: after) :
    after = [] ∧ v = .error .cancelled

/-! ## Runs are seen as this -/

namespace Watched

/-- What only a watcher sees. -/
def unshown (log : List Sight) : List Sight := log.filter fun s => s.output?.isNone

/-- Of nothing seen, nothing is left. -/
theorem unshown_nil : unshown [] = [] := rfl

/-- Looks for an interrupt are left. -/
theorem unshown_looked (b : Bool) (log : List Sight) :
    unshown (.looked b :: log) = .looked b :: unshown log := rfl

/-- Outputs are left out of each part. -/
theorem unshown_append (log log' : List Sight) :
    unshown (log ++ log') = unshown log ++ unshown log' := List.filter_append log log'

/-- Nothing is left of outputs. -/
theorem unshown_map_shown (outputs : List Output) : unshown (outputs.map .shown) = [] := by
  refine List.filter_eq_nil_iff.2 fun s hs => ?_
  obtain ⟨o, -, rfl⟩ := List.mem_map.1 hs
  exact Bool.false_ne_true

/-- A look that sees no interrupt is noted, and the work goes on. -/
theorem look_bind_of_not_interrupted {m : Machine} (hm : ¬ m.Interrupted)
    (f : Unit → Watched α) :
    (look >>= f) m = ⟨(f () m.looked).value, .looked false :: (f () m.looked).log,
      (f () m.looked).world⟩ := by
  rw [Work.bind_apply, look, Machine.check_of_not_interrupted hm, Bool.eq_false_iff.2 hm]
  rfl

/-- Waiting for a command goes as `Awaited` says. -/
theorem wait_awaited (last : Moment) (ending : Ending) (running : List Moment) (m : Machine) :
    Awaited ending running.length (unshown (wait last ending running m).log)
      (wait last ending running m).value := by
  induction running generalizing m with
  | nil =>
    have hwait : (wait last ending [] m).log = last.shown.map .shown ++ [.ended ending] := rfl
    rw [hwait, unshown_append, unshown_map_shown]
    exact .ended
  | cons moment running ih =>
    have hbegin : (plain (happen moment) m).value = .ok () := rfl
    have hlog : (plain (happen moment) m).log = moment.shown.map .shown := rfl
    rw [wait, Work.bind_eq_of_ok hbegin, hlog]
    simp only [unshown_append, unshown_map_shown, List.nil_append]
    -- what the moment did to the machine matters only to the look and to what comes after it
    generalize (plain (happen moment) m).world = m'
    by_cases hm : m'.Interrupted
    · rw [look_bind_of_interrupted hm]
      exact .interrupted (n := 0) (Nat.succ_pos _)
    · rw [look_bind_of_not_interrupted hm, unshown_looked]
      have hrest := ih m'.looked
      generalize (wait last ending running m'.looked).value = v at hrest
      generalize unshown (wait last ending running m'.looked).log = sights at hrest
      cases hrest with
      | ended => exact .ended
      | interrupted hn => exact .interrupted (Nat.succ_lt_succ hn)

/-- What is done with a command after it was launched, or not. -/
def attend (s : Step) : Except String Child → Watched Unit
  | .error reason => Work.fail (.step s.label reason)
  | .ok child => do
    let ending ← wait child.last child.ending child.running
    if ending ≠ .status 0 then
      Work.fail (.step s.label ("exited with " ++ ending.text))

/-- A command is started, and then it is attended to; this is all that is seen of it. -/
theorem runStep_seen (launch : Launcher) (given : List (String × String)) (s : Step) (m : Machine) :
    unshown (runStep launch given s m).log =
        .started given s :: unshown (attend s (launch given s.run m) m).log ∧
      (runStep launch given s m).value = (attend s (launch given s.run m) m).value := by
  -- the command is launched on `m` itself: the message before it left the machine as it was
  have hrun : runStep launch given s m = (do
      plain (Action.say .debug .execution "Running install step" [("step", Text.quoted s.label)])
      Work.tell (.started given s)
      let w ← Work.world
      attend s (launch given s.run w) : Watched Unit) m := rfl
  rw [hrun]
  exact ⟨rfl, rfl⟩

/-- One command is seen as it is run. -/
theorem runStep_commanded (launch : Launcher) (given : List (String × String)) (s : Step)
    (m : Machine) :
    Commanded launch given s m (unshown (runStep launch given s m).log)
      (runStep launch given s m).value := by
  obtain ⟨hlog, hvalue⟩ := runStep_seen launch given s m
  rw [hlog, hvalue]
  cases hlaunch : launch given s.run m with
  | error reason => exact .refused hlaunch
  | ok child =>
    rw [attend]
    have hwait := wait_awaited child.last child.ending child.running m
    cases hv : (wait child.last child.ending child.running m).value with
    | error e =>
      rw [Work.bind_eq_of_error hv]
      rw [hv] at hwait
      generalize unshown (wait child.last child.ending child.running m).log = sights at hwait
      cases hwait with
      | interrupted hn => exact .interrupted hlaunch hn
    | ok ending =>
      rw [Work.bind_eq_of_ok hv, unshown_append]
      rw [hv] at hwait
      generalize unshown (wait child.last child.ending child.running m).log = sights at hwait
      cases hwait with
      | ended =>
        by_cases hending : child.ending = .status 0
        · rw [if_neg (not_not_intro hending), Work.pure_apply, unshown_nil, List.append_nil]
          exact .succeeded hlaunch hending
        · rw [if_pos hending, Work.fail, unshown_nil, List.append_nil]
          exact .failed hlaunch hending

/-- Commands are run as `Sequence` says. -/
theorem runSteps_sequence (launch : Launcher) (given : List (String × String))
    (steps : List Step) (m : Machine) :
    Sequence launch given steps m (unshown (runSteps launch given steps m).log)
      (runSteps launch given steps m).value := by
  induction steps generalizing m with
  | nil => exact .nil m
  | cons s rest ih =>
    rw [runSteps]
    by_cases hm : m.Interrupted
    · rw [look_bind_of_interrupted hm]
      exact .interrupted hm s rest
    · rw [look_bind_of_not_interrupted hm, unshown_looked]
      have hstep := runStep_commanded launch given s m.looked
      cases hv : (runStep launch given s m.looked).value with
      | error e =>
        rw [Work.bind_eq_of_error hv]
        rw [hv] at hstep
        exact .stopped hm hstep rest
      | ok u =>
        rw [Work.bind_eq_of_ok hv, unshown_append]
        rw [hv] at hstep
        have hworld : (Execution.runStep launch given s m.looked).world =
            (runStep launch given s m.looked).world := by
          rw [← forget_runStep]
          rfl
        exact .cons hm hstep (by rw [hworld]; exact ih _)

end Watched

/-! ## What a command is seen as -/

section Command

variable {s : Step} {m : Machine} {sights : List Sight} {u : Except Failure Unit}

/-- Looks that see no interrupt are nothing else. -/
theorem not_mem_quietLooks {x : Sight} (hx : x ≠ .looked false) (n : Nat) : x ∉ quietLooks n :=
  fun h => hx (List.eq_of_mem_replicate h)

/-- Of a command only its start and the last thing seen of it are not quiet looks. -/
theorem filterMap_ended? (n : Nat) (x : Sight) :
    (Sight.started given s :: (quietLooks n ++ [x])).filterMap Sight.ended? = x.ended?.toList := by
  have hquiet : (quietLooks n).filterMap Sight.ended? = [] :=
    List.filterMap_eq_nil_iff.2 fun y hy => List.eq_of_mem_replicate hy ▸ rfl
  rw [List.filterMap_cons_none rfl, List.filterMap_append, hquiet, List.nil_append]
  cases x <;> rfl

/-- A command is started once, and first. -/
theorem Commanded.started (h : Commanded launch given s m sights u) :
    ∃ tail, sights = .started given s :: tail ∧ ∀ x ∈ tail, x.started? = none := by
  have hquiet {n : Nat} {x : Sight} (hx : x.started? = none) :
      ∀ y ∈ quietLooks n ++ [x], y.started? = none := by
    intro y hy
    rcases List.mem_append.1 hy with hy | hy
    · exact List.eq_of_mem_replicate hy ▸ rfl
    · exact List.mem_singleton.1 hy ▸ hx
  cases h with
  | refused => exact ⟨[], rfl, nofun⟩
  | succeeded | failed | interrupted => exact ⟨_, rfl, hquiet rfl⟩

/-- Of one command, only this one is started. -/
theorem Commanded.filterMap_started? (h : Commanded launch given s m sights u) :
    sights.filterMap Sight.started? = [(given, s)] := by
  obtain ⟨tail, rfl, htail⟩ := h.started
  have hstart : (Sight.started given s).started? = some (given, s) := rfl
  rw [List.filterMap_cons_some hstart, List.filterMap_eq_nil_iff.2 htail]

/-- A command that goes well is seen to end so. -/
theorem Commanded.ended (h : Commanded launch given s m sights (.ok ())) :
    sights.filterMap Sight.ended? = [.status 0] ∧
      ∃ earlier, sights = earlier ++ [.ended (.status 0)] := by
  cases h with
  | @succeeded child _ hending =>
    rw [filterMap_ended?, hending]
    exact ⟨rfl, .started given s :: quietLooks child.running.length, rfl⟩

/-- A command that fails is not seen to end well. -/
theorem Commanded.not_ended {e : Failure} (h : Commanded launch given s m sights (.error e)) :
    .status 0 ∉ sights.filterMap Sight.ended? := by
  cases h with
  | refused => exact List.not_mem_nil
  | failed _ hending =>
    rw [filterMap_ended?]
    exact fun hmem => hending (List.mem_singleton.1 hmem).symm
  | interrupted =>
    rw [filterMap_ended?]
    exact List.not_mem_nil

/-- A command that is seen to be interrupted is cancelled. -/
theorem Commanded.cancelled (h : Commanded launch given s m sights u)
    (hlooked : .looked true ∈ sights) : u = .error .cancelled := by
  have hquiet := not_mem_quietLooks (x := .looked true) nofun
  cases h with
  | interrupted => rfl
  | _ => simp [hquiet] at hlooked

end Command

/-! ## What commands in order are seen as -/

section Sequence

variable {s : Step} {steps : List Step} {m : Machine} {seen : List Sight}
  {v : Except Failure Unit}

/-- The commands that are started are the first ones, with the same variables each. -/
theorem Sequence.started_prefix (h : Sequence launch given steps m seen v) :
    seen.filterMap Sight.started? <+: steps.map (given, ·) := by
  induction h with
  | nil => exact List.nil_prefix
  | interrupted => exact List.nil_prefix
  | stopped _ hs rest =>
    rw [List.filterMap_cons_none rfl, hs.filterMap_started?]
    exact ⟨rest.map (given, ·), rfl⟩
  | cons _ hs _ ih =>
    rw [List.filterMap_cons_none rfl, List.filterMap_append, hs.filterMap_started?]
    exact (List.prefix_cons_inj _).2 ih

/-- A run goes well just if each command was started and ended well. -/
theorem Sequence.ok_iff (h : Sequence launch given steps m seen v) :
    v = .ok () ↔ seen.filterMap Sight.started? = steps.map (given, ·) ∧
      seen.filterMap Sight.ended? = List.replicate steps.length (.status 0) := by
  induction h with
  | nil => exact iff_of_true rfl ⟨rfl, rfl⟩
  | interrupted => exact iff_of_false nofun nofun
  | stopped _ hs rest =>
    refine iff_of_false nofun fun ⟨_, hended⟩ => hs.not_ended ?_
    rw [List.filterMap_cons_none rfl] at hended
    rw [hended]
    exact List.mem_cons_self
  | cons _ hs _ ih =>
    obtain ⟨hended, -⟩ := hs.ended
    rw [List.filterMap_cons_none rfl, List.filterMap_append, hs.filterMap_started?,
      List.filterMap_cons_none rfl, List.filterMap_append, hended, ih]
    simp [List.replicate_succ]

/-- A run that is seen to be interrupted is cancelled. -/
theorem Sequence.cancelled (h : Sequence launch given steps m seen v)
    (hlooked : .looked true ∈ seen) : v = .error .cancelled := by
  induction h with
  | nil => exact absurd hlooked List.not_mem_nil
  | interrupted => rfl
  | stopped _ hs => exact hs.cancelled ((List.mem_cons.1 hlooked).resolve_left nofun)
  | cons _ hs _ ih =>
    rcases List.mem_append.1 ((List.mem_cons.1 hlooked).resolve_left nofun) with hmem | hmem
    · cases hs.cancelled hmem
    · exact ih hmem

/-- What is seen of a run that goes well ends with the good end of a command, if there is one. -/
theorem Sequence.ends_well (h : Sequence launch given steps m seen v) (hv : v = .ok ()) :
    seen = [] ∨ ∃ earlier, seen = earlier ++ [.ended (.status 0)] := by
  induction h with
  | nil => exact .inl rfl
  | interrupted => cases hv
  | stopped => cases hv
  | @cons m _ s sights sights' _ _ hs _ ih =>
    right
    rcases ih hv with rfl | ⟨earlier, rfl⟩
    · obtain ⟨-, earlier, rfl⟩ := hs.ended
      exact ⟨.looked false :: earlier, by simp⟩
    · exact ⟨.looked false :: (sights ++ earlier), by simp⟩

/-- Where a command is started, the run is cut into what is seen of the commands before it, a look,
what is seen of the command, and what is seen of the ones after it. -/
theorem Sequence.cut (h : Sequence launch given steps m seen v) {before after : List Sight}
    {g : List (String × String)} (hseen : seen = before ++ .started g s :: after) : g = given ∧
      ∃ done todo earlier, steps = done ++ s :: todo ∧ before = earlier ++ [.looked false] ∧
        Sequence launch given done m earlier (.ok ()) ∧
        ∃ sights rest u,
          Commanded launch given s (leaves launch given done m).looked
            (.started given s :: sights) u ∧
          after = sights ++ rest ∧ ∀ e, u = .error e → rest = [] ∧ v = .error e := by
  induction h generalizing before with
  | nil => simp at hseen
  | interrupted =>
    rcases before with _ | ⟨b, before⟩
    · cases hseen
    · simp at hseen
  | @stopped m hm s' sights e hs rest =>
    obtain ⟨tail, rfl, htail⟩ := hs.started
    rcases before with _ | ⟨b, _ | ⟨b', before⟩⟩
    · cases hseen
    · cases hseen
      exact ⟨rfl, [], rest, [], rfl, rfl, .nil m, _, [], .error e, hs, (List.append_nil _).symm,
        fun e' he => ⟨rfl, he⟩⟩
    · injection hseen with hb hseen
      injection hseen with hb' hseen
      exact nomatch htail (.started g s) (hseen ▸ List.mem_append_right _ List.mem_cons_self)
  | @cons m hm s' sights sights' rest v hs _ ih =>
    obtain ⟨tail, rfl, htail⟩ := hs.started
    have hnot : .started g s ∉ tail := fun hmem => nomatch htail _ hmem
    -- the start is that of `s'`, or it comes after all that is seen of `s'`
    rcases before with _ | ⟨b, _ | ⟨b', before⟩⟩
    · cases hseen
    · cases hseen
      exact ⟨rfl, [], rest, [], rfl, rfl, .nil m, tail, sights', .ok (), hs, rfl, nofun⟩
    · injection hseen with hb hseen
      injection hseen with hb' hseen
      obtain ⟨before', rfl, hafter⟩ := append_eq_append_cons _ hseen hnot
      obtain ⟨hg, done, todo, earlier, rfl, rfl, hdone, hafter⟩ := ih hafter
      refine ⟨hg, s' :: done, todo, _, rfl, ?_, .cons hm hs hdone, hafter⟩
      subst hb hb'
      simp

/-- Commands that are seen as a sequence are run in order, if nothing is seen after an interrupt. -/
theorem Sequence.inOrder (h : Sequence launch given steps m seen v)
    (hlast : ∀ {before after : List Sight}, seen = before ++ .looked true :: after → after = []) :
    InOrder launch given steps m seen v where
  first := h.started_prefix
  started hseen := by
    obtain ⟨hg, done, todo, earlier, hsteps, hbefore, hdone, hafter⟩ := h.cut hseen
    exact ⟨hg, done, todo, earlier, hsteps, hbefore, hdone, hdone.ends_well rfl, hafter⟩
  ok_iff := h.ok_iff
  interrupted hseen :=
    ⟨hlast hseen, h.cancelled (hseen ▸ List.mem_append_right _ List.mem_cons_self)⟩

end Sequence

/-! ## The commands of a recipe -/

namespace Watched

/-- After a look that saw an interrupt nothing more is seen. -/
theorem Heeded.unshown_eq_nil {o : Outcome Sight Machine Unit} (ho : Heeded o)
    {before after : List Sight} (hlog : unshown o.log = before ++ .looked true :: after) :
    after = [] := by
  obtain ⟨log, log', heq, -, hafter⟩ := List.filter_eq_append_iff.1 hlog
  obtain ⟨quiet, rest, rfl, -, -, rfl⟩ := List.filter_eq_cons_iff.1 hafter
  rw [← List.append_assoc] at heq
  obtain ⟨rfl, -⟩ := ho.eq_nil heq
  rfl

/-- After the last command there is only a message. -/
theorem run_seen (launch : Launcher) (p : Profile) (h : Host) (r : Recipe) (m : Machine) :
    unshown (run launch p h r m).log =
        unshown (runSteps launch (r.environment p h) r.steps m).log ∧
      (run launch p h r m).value = (runSteps launch (r.environment p h) r.steps m).value := by
  cases hv : (runSteps launch (r.environment p h) r.steps m).value with
  | error e =>
    rw [run, Work.bind_eq_of_error hv]
    exact ⟨rfl, rfl⟩
  | ok u =>
    rw [run, Work.bind_eq_of_ok hv, unshown_append, plain, unshown_map_shown, List.append_nil]
    exact ⟨rfl, rfl⟩

end Watched

/-- The commands of a recipe are run in order, with the variables of the recipe: what is seen is a
sequence of commands, with all that follows from it. The watched run, of which this is seen, is the
run itself. -/
theorem run_sequence (launch : Launcher) (p : Profile) (h : Host) (r : Recipe) (m : Machine) :
    let seen := Watched.unshown (Watched.run launch p h r m).log
    let v := (run launch p h r m).value
    Watched.forget (Watched.run launch p h r) = run launch p h r ∧
      Sequence launch (r.environment p h) r.steps m seen v ∧
      InOrder launch (r.environment p h) r.steps m seen v := by
  intro seen v
  have hsame : (run launch p h r m).value = (Watched.run launch p h r m).value := by
    rw [← Watched.forget_run]
    rfl
  obtain ⟨hlog, hvalue⟩ := Watched.run_seen launch p h r m
  have hsequence := Watched.runSteps_sequence launch (r.environment p h) r.steps m
  rw [← hlog, ← hvalue, ← hsame] at hsequence
  exact ⟨Watched.forget_run launch p h r, hsequence,
    hsequence.inOrder (Watched.run_heeds launch p h r m).unshown_eq_nil⟩

/-- The first of two commands ends badly, and the second is not started. -/
example :
    let child : Child := ⟨[], ⟨[], default, false⟩, .status 3⟩
    let steps : List Step := [⟨none, "exit 3"⟩, ⟨none, "true"⟩]
    let o := Watched.runSteps (fun _ _ _ => .ok child) [] steps default
    Watched.unshown o.log = [.looked false, .started [] ⟨none, "exit 3"⟩, .ended (.status 3)] ∧
      o.value = .error (.step "exit 3" "exited with exit status: 3") := by
  constructor <;> rfl

end Execution

end Provision
