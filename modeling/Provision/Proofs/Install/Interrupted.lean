import Provision.Proofs.Execution.Watched
import Provision.Proofs.Install.Decided
import Provision.Proofs.Install.Episodes
import Provision.Proofs.Install.Reports

/-!
# Nothing is installed after an interrupt

An installation never looks for an interrupt itself, and goes on when a recipe fails; that nothing
is installed after an interrupt is due to its services. `Services.Local` says which ones: recipes
are in a catalog, commands are run on the machine, and data is looked for from there, while the
other services may do anything but take an interrupt back. `Seen` puts together what is seen of all
executions of a journal. From the moment at which the machine is interrupted on, every call is
answered on an interrupted machine (`Replays.of_interrupted`); `Installing.install_interrupted` says
what follows for commands, validations and reports.
-/

namespace Provision

variable {ρ : Type} {launch : Launcher} {profile : Profile} {catalog : Catalog}
  {patience : Validation.Patience} {ask : String → Action Machine Validation}
  {s : Services (Machine × ρ)}

/-! ## Services on a machine -/

/-- Services that work on a machine, beside which they may keep what they like: recipes are looked
up in a catalog, commands are run for a profile, and data is asked for until the patience ends. The
other services may do anything, but they take no interrupt back. -/
structure Services.Local (s : Services (Machine × ρ)) (launch : Launcher) (profile : Profile)
    (catalog : Catalog) (patience : Validation.Patience)
    (ask : String → Action Machine Validation) : Prop where
  findRecipe : ∀ host name, s.findRecipe host name = besideReporter (catalog.find name)
  recommend : ∀ host, s.recommend host = besideReporter (catalog.recommend host)
  execute : ∀ h r, s.execute h r = besideReporter (Execution.run launch profile h r)
  validate : ∀ h r, s.validate h r = besideReporter (Validation.run profile patience ask h r)
  discover : Work.Keeps (·.1.Interrupted) s.discover
  loadFile : ∀ path, Work.Keeps (·.1.Interrupted) (s.loadFile path)
  fetchFile : ∀ url, Work.Keeps (·.1.Interrupted) (s.fetchFile url)
  findLogs : ∀ recipes, Work.Keeps (·.1.Interrupted) (s.findLogs recipes)
  confirm : ∀ watch, Work.Keeps (·.1.Interrupted) (s.confirm watch)
  report : ∀ report, Work.Keeps (·.1.Interrupted) (s.report report)

/-- The services of a machine for an account are such services, whatever is outside the program. -/
theorem Services.ofMachineWith_local (outside : Outside) (profile : Profile) (catalog : Catalog) :
    (ofMachineWith outside profile catalog).Local outside.launch profile catalog Services.patience
      (Validation.askServer outside.server profile) where
  findRecipe _ _ := rfl
  recommend _ := rfl
  execute _ _ := rfl
  validate _ _ := rfl
  discover := .zoom_fst (Machine.keeps_discover Machine.Interrupted.keeps_check)
  loadFile path := .zoom_fst (Recipe.keeps_loadFile path)
  fetchFile url := .zoom_fst (Recipe.keeps_fetchFile url)
  findLogs recipes := .zoom_fst (LogFiles.keeps_filter Machine.Interrupted.keeps_check recipes)
  confirm watch := .zoom_fst (Services.keeps_askOperator outside.operator watch)
  report := StatusFile.keeps_report

/-- An interrupt stays, whatever is called. -/
theorem Services.Local.keeps (hs : s.Local launch profile catalog patience ask) {c : Call}
    {os : List Output} {w w' : Machine × ρ} (hc : s.Gives w c os w') (hw : w.1.Interrupted) :
    w'.1.Interrupted := by
  cases hc with
  | discover => exact hs.discover w hw
  | loadFile path => exact hs.loadFile path w hw
  | fetchFile url => exact hs.fetchFile url w hw
  | findRecipe host name =>
    rw [hs.findRecipe]
    exact catalog.keeps_find Machine.Interrupted.keeps_check name w.1 hw
  | recommend host =>
    rw [hs.recommend]
    exact catalog.keeps_recommend Machine.Interrupted.keeps_check host w.1 hw
  | findLogs recipes => exact hs.findLogs recipes w hw
  | confirm watch => exact hs.confirm watch w hw
  | execute h r =>
    rw [hs.execute]
    exact Execution.keeps_run launch profile h r w.1 hw
  | validate h r =>
    rw [hs.validate]
    exact Validation.keeps_run profile patience ask h r w.1 hw
  | report report => exact hs.report report w hw

/-- An execution is the watched run of its recipe: it is answered with what the run ends in, shows
what the run shows, and leaves the machine as the run does. -/
theorem Services.Local.execute_watched (hs : s.Local launch profile catalog patience ask)
    {h : Host} {r : Recipe} {a : Except Failure Unit} {os : List Output} {w w' : Machine × ρ}
    (hc : s.Gives w (.execute h r a) os w') :
    let run := Execution.Watched.run launch profile h r w.1
    a = run.value ∧ os = run.log.filterMap Sight.output? ∧ w'.1 = run.world := by
  cases hc
  rw [hs.execute, ← Execution.Watched.forget_run]
  exact ⟨rfl, rfl, rfl⟩

/-- On an interrupted machine no recipe is executed that has commands. -/
theorem Services.Local.execute_cancelled (hs : s.Local launch profile catalog patience ask)
    {h : Host} {r : Recipe} {a : Except Failure Unit} {os : List Output} {w w' : Machine × ρ}
    (hc : s.Gives w (.execute h r a) os w') (hw : w.1.Interrupted) (hr : r.steps ≠ []) :
    a = .error .cancelled := by
  obtain ⟨-, -, hrun⟩ := Execution.Watched.run_interrupted hw launch profile h r
  obtain ⟨rfl, -, -⟩ := hs.execute_watched hc
  rw [hrun hr]

/-- On an interrupted machine no data is confirmed. -/
theorem Services.Local.validate_unconfirmed (hs : s.Local launch profile catalog patience ask)
    {h : Host} {r : Recipe} {a : Except Failure Validation} {os : List Output}
    {w w' : Machine × ρ} (hc : s.Gives w (.validate h r a) os w') (hw : w.1.Interrupted)
    {v : Validation} (ha : a = .ok v) : v.confirmed = false := by
  obtain ⟨found, hrun, hfound⟩ := Validation.run_interrupted hw profile patience ask h r
  cases hc
  rw [hs.validate] at ha
  exact hfound v ((congrArg Outcome.value hrun).symm.trans ha)

/-- An interrupt stays from one end of a journal to the other. -/
theorem Replays.keeps_interrupted (hs : s.Local launch profile catalog patience ask)
    {w w' : Machine × ρ} {l : List Entry} (h : Replays s w l w') (hw : w.1.Interrupted) :
    w'.1.Interrupted := by
  induction h with
  | nil => exact hw
  | shown o _ ih => exact ih hw
  | call hc _ ih => exact ih (hs.keeps hc hw)

/-- The calls of a journal that begins on an interrupted machine are all answered on one. -/
theorem Replays.of_interrupted (hs : s.Local launch profile catalog patience ask)
    {w w' : Machine × ρ} {l : List Entry} (h : Replays s w l w') (hw : w.1.Interrupted) {c : Call}
    (hc : c ∈ callsOf l) : ∃ w₁ os w₂, w₁.1.Interrupted ∧ s.Gives w₁ c os w₂ := by
  induction h with
  | nil => cases hc
  | shown o _ ih => exact ih hw hc
  | call hc' _ ih =>
    cases hc with
    | head => exact ⟨_, _, _, hw, hc'⟩
    | tail _ hc => exact ih (hs.keeps hc' hw) hc

/-! ## What is seen of the executions of a journal -/

/-- What is seen of the executions of a journal, which is written from a world on: each execution is
watched on the machine on which it is done. -/
inductive Seen (launch : Launcher) (profile : Profile) (s : Services (Machine × ρ)) :
    Machine × ρ → List Entry → List Sight → Prop
  | nil (w : Machine × ρ) : Seen launch profile s w [] []
  | shown {w : Machine × ρ} {l : List Entry} {seen : List Sight} (o : Output)
      (h : Seen launch profile s w l seen) : Seen launch profile s w (.shown o :: l) seen
  | execute {w w₁ : Machine × ρ} {host : Host} {r : Recipe} {a : Except Failure Unit}
      {os : List Output} {l : List Entry} {seen : List Sight}
      (hc : s.Gives w (.execute host r a) os w₁) (h : Seen launch profile s w₁ l seen) :
      Seen launch profile s w (.call (.execute host r a) os :: l)
        ((Execution.Watched.run launch profile host r w.1).log ++ seen)
  | call {w w₁ : Machine × ρ} {c : Call} {os : List Output} {l : List Entry} {seen : List Sight}
      (hn : c.isExecution = false) (hc : s.Gives w c os w₁)
      (h : Seen launch profile s w₁ l seen) : Seen launch profile s w (.call c os :: l) seen

/-- Something is seen of every journal. -/
theorem Replays.seen (launch : Launcher) (profile : Profile) {w w' : Machine × ρ} {l : List Entry}
    (h : Replays s w l w') : ∃ seen, Seen launch profile s w l seen := by
  induction h with
  | nil w => exact ⟨_, .nil w⟩
  | shown o _ ih =>
    obtain ⟨seen, h⟩ := ih
    exact ⟨seen, .shown o h⟩
  | @call _ _ _ c os l hc _ ih =>
    obtain ⟨seen, h⟩ := ih
    cases hn : c.isExecution with
    | false => exact ⟨seen, .call hn hc h⟩
    | true =>
      cases c with
      | execute host r a => exact ⟨_, .execute hc h⟩
      | _ => cases hn

namespace Seen

/-- On an interrupted machine no command is started, in whatever execution. -/
theorem no_start (hs : s.Local launch profile catalog patience ask) {w : Machine × ρ}
    {l : List Entry} {seen : List Sight} (h : Seen launch profile s w l seen)
    (hw : w.1.Interrupted) : ∀ x ∈ seen, x.isStart = false := by
  induction h with
  | nil => exact nofun
  | shown o _ ih => exact ih hw
  | call _ hc _ ih => exact ih (hs.keeps hc hw)
  | execute hc _ ih =>
    obtain ⟨hlog, -, -⟩ := Execution.Watched.run_interrupted hw launch profile _ _
    exact fun x hx => (List.mem_append.1 hx).elim (hlog x) (ih (hs.keeps hc hw) x)

/-- After a look that saw an interrupt no command is started, in this execution or a later one. -/
theorem no_start_after (hs : s.Local launch profile catalog patience ask) {w : Machine × ρ}
    {l : List Entry} {seen before after : List Sight} (h : Seen launch profile s w l seen)
    (hseen : seen = before ++ .looked true :: after) : ∀ x ∈ after, x.isStart = false := by
  induction h generalizing before with
  | nil => simp at hseen
  | shown o _ ih => exact ih hseen
  | call _ _ _ ih => exact ih hseen
  | @execute w w₁ host r a os l seen hc h ih =>
    -- The look is one of this execution, and then the last of it, or it is one of a later one.
    rcases List.append_eq_append_iff.1 hseen with ⟨rest, rfl, hrest⟩ | ⟨rest, hlog, hrest⟩
    · exact ih hrest
    · cases rest with
      | nil =>
        have hlater : seen = [] ++ .looked true :: after := hrest.symm
        exact ih hlater
      | cons x rest =>
        cases hrest
        obtain ⟨rfl, hw⟩ := (Execution.Watched.run_heeds launch profile host r w.1).eq_nil hlog
        obtain ⟨-, -, hworld⟩ := hs.execute_watched hc
        exact h.no_start hs (hworld ▸ hw)

end Seen

/-- A recipe that is reported as installed after calls that confirm no data was validated right
before them, and then there are no such calls. -/
theorem Episodes.validated_before {b : Bool} {pre mid rest : List Call} {r : Recipe}
    {message entity : String} {noted : Except Failure Unit}
    (h : Episodes b (pre ++ mid ++ .report (.installed r message entity) noted :: rest))
    (hmid : ∀ h r v, .validate h r (.ok v) ∈ mid → v.confirmed = false) :
    mid = [] ∧ ∃ cs h v, pre = cs ++ [.validate h r (.ok v)] ∧ v.confirmed = true := by
  obtain ⟨⟨cs, host, v, hcs, hv, -⟩, -⟩ := h.of_installed rfl
  rcases List.eq_nil_or_concat mid with rfl | ⟨mid, c, rfl⟩
  · exact ⟨rfl, cs, host, v, by simpa using hcs, hv⟩
  · rw [List.concat_eq_append, ← List.append_assoc] at hcs
    obtain ⟨-, hc⟩ := List.append_inj' hcs rfl
    cases hc
    have hunconfirmed := hmid host r v (by simp)
    rw [hv] at hunconfirmed
    cases hunconfirmed

namespace Installing

/-- Nothing is installed after an interrupt, though an installation goes on with the recipes that
are left. After a look that saw the interrupt no command is started. From any moment at which the
machine is interrupted on, it stays interrupted, no command is started, every execution of a recipe
that has commands is cancelled, no validation confirms data, and no recipe is reported as installed
but one whose validation was the last call before that moment. Still, once the preparation went well
all wanted recipes are tried. -/
theorem install_interrupted (hs : s.Local launch profile catalog patience ask) (p : Plan)
    (w : Machine × ρ) :
    (∃ seen, Seen launch profile s w (install s p w).log seen ∧
      ∀ before after, seen = before ++ .looked true :: after → ∀ x ∈ after, x.isStart = false) ∧
    (∀ pre post w₁, (install s p w).log = pre ++ post → Replays s w pre w₁ → w₁.1.Interrupted →
      (install s p w).world.1.Interrupted ∧
      (∀ seen, Seen launch profile s w₁ post seen → ∀ x ∈ seen, x.isStart = false) ∧
      (∀ h r a, .execute h r a ∈ callsOf post → r.steps ≠ [] → a = .error .cancelled) ∧
      (∀ h r v, .validate h r (.ok v) ∈ callsOf post → v.confirmed = false) ∧
      (∀ mid r message entity noted rest,
        callsOf post = mid ++ .report (.installed r message entity) noted :: rest →
        mid = [] ∧ ∃ cs h v, callsOf pre = cs ++ [.validate h r (.ok v)] ∧ v.confirmed = true)) ∧
    (∀ h wanted, (prepare s p w).value = .ok (h, wanted) → ∃ G,
      calls (install s p) w = calls (prepare s p) w ++ G ∧
      G.filterMap Call.executed? = if p.skipIntegrations then [] else wanted.map (h, ·)) := by
  obtain ⟨hreplays, D, A, I, L, G, hcalls, hphases⟩ := install_ensures s p w
  refine ⟨?_, fun pre post w₁ hlog hpre hw => ?_, fun h wanted hready => ?_⟩
  · obtain ⟨seen, hseen⟩ := hreplays.seen launch profile
    exact ⟨seen, hseen, fun before after => hseen.no_start_after hs⟩
  · rw [hlog] at hreplays
    obtain ⟨w₂, hpre₂, hpost⟩ := hreplays.split
    cases hpre.unique hpre₂
    have unconfirmed (h : Host) (r : Recipe) (v : Validation)
        (hc : .validate h r (.ok v) ∈ callsOf post) : v.confirmed = false := by
      obtain ⟨_, _, _, hw', hgives⟩ := hpost.of_interrupted hs hw hc
      exact hs.validate_unconfirmed hgives hw' rfl
    refine ⟨hpost.keeps_interrupted hs hw, fun seen hseen => hseen.no_start hs hw,
      fun h r a hc hr => ?_, unconfirmed, fun mid r message entity noted rest hreport => ?_⟩
    · obtain ⟨_, _, _, hw', hgives⟩ := hpost.of_interrupted hs hw hc
      exact hs.execute_cancelled hgives hw' hr
    · have hepisodes := hphases.episodes
      rw [← hcalls, Installing.calls, hlog, callsOf_append, hreport, ← List.append_assoc]
        at hepisodes
      refine hepisodes.validated_before fun h r v hc => unconfirmed h r v ?_
      rw [hreport]
      exact List.mem_append_left _ hc
  · obtain ⟨-, G, hcalls, hG⟩ := install_of_prepared hready
    exact ⟨G, hcalls, hG.executed⟩

/-- The services of a machine, but every recipe file holds the same, and reports are not kept. -/
def alwaysLoading (draft : Draft) : Services (Machine × StatusFile) :=
  { Services.ofMachine .none ⟨"/recipes"⟩ with
    loadFile := fun _ => pure draft
    report := fun _ => pure () }

/-- Those services work on a machine. -/
theorem alwaysLoading_local (draft : Draft) :
    (alwaysLoading draft).Local Shell.launch .none ⟨"/recipes"⟩ Services.patience
      (Validation.askNetwork .us) := by
  have hask : Validation.askServer .unreachable .none = Validation.askNetwork .us :=
    Validation.askServer_unreachable .none
  rw [← hask]
  exact { Services.ofMachineWith_local .offline .none ⟨"/recipes"⟩ with
    loadFile := fun _ => .pure _
    report := fun _ => .pure _ }

/-- The executions of an installation of the recipes of two files, on an interrupted machine. -/
theorem executed_alwaysLoading :
    let draft : Draft := ⟨"nginx", none, none, none, [], [], [], none, [⟨none, "true"⟩]⟩
    let w : Machine × StatusFile := ({ (default : Machine) with interrupt := .tripped }, default)
    let p : Plan := ⟨["nginx.yml", "redis.yml"], [], true, true, true, false, 0⟩
    let r := draft.toRecipe []
    (calls (install (alwaysLoading draft) p) w).filterMap Call.executed? =
      [(.unknown, r), (.unknown, r)] := rfl

/-- On a machine that was interrupted before, the recipes of both files are executed, and both
executions are cancelled. -/
theorem install_interrupted_before :
    let draft : Draft := ⟨"nginx", none, none, none, [], [], [], none, [⟨none, "true"⟩]⟩
    let w : Machine × StatusFile := ({ (default : Machine) with interrupt := .tripped }, default)
    let p : Plan := ⟨["nginx.yml", "redis.yml"], [], true, true, true, false, 0⟩
    let r := draft.toRecipe []
    let s := alwaysLoading draft
    s.Local Shell.launch .none ⟨"/recipes"⟩ Services.patience (Validation.askNetwork .us) ∧
      w.1.Interrupted ∧
      (calls (install s p) w).filterMap Call.executed? = [(.unknown, r), (.unknown, r)] ∧
      ∀ a, .execute .unknown r a ∈ calls (install s p) w → a = .error .cancelled := by
  intro draft w p r s
  have hs := alwaysLoading_local draft
  obtain ⟨-, hafter, -⟩ := install_interrupted hs p w
  obtain ⟨-, -, hcancelled, -⟩ := hafter [] _ w rfl (.nil w) rfl
  exact ⟨hs, rfl, executed_alwaysLoading, fun a ha => hcancelled .unknown r a ha nofun⟩

end Installing

end Provision
