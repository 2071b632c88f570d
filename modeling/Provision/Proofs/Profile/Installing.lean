import Provision.Proofs.Execution.Environment
import Provision.Proofs.Execution.InOrder
import Provision.Proofs.Failure
import Provision.Proofs.Install.Transcript
import Provision.Proofs.Machine.OnDisk
import Provision.Proofs.Profile.Selection

/-!
# One profile for a whole installation

An installation first finds its configuration folder and its profile (`Configuration.resolved`). If
there is none to be had, it fails before it does anything. Otherwise this one profile is what the
commands of all recipes are told (`Profile.ToldBy`), what goes along with every question to a server
(`Profile.Asks`) and what the good news name; so what commands or servers would do for another
profile makes no difference to the run (`Services.Outside.AgreesFor`), whatever the operator answers
when asked about log files. `Call.DoneBy` says of each
call of the run which catalog it reads and which files it may change, and `OneProfile` puts this
together for a journal.
-/

namespace Provision

open CommandLine
open Machine (OnDisk onDisk_check)

/-! ## The profile of a run -/

/-- The configuration folder and the profile of a run. If no profile is found, it is the one of a
run that has none. -/
def Configuration.resolved (configFolder requested : Option String) (m : Machine) :
    Except Failure (String × Profile) := do
  let folder ← Configuration.folder configFolder m
  let store ← (ProfileStore.load (Files.join folder profilesName) m).value
  let found ← store.resolve requested
  return (folder, (found.map Prod.snd).getD .none)

section
variable {α : Type} {configFolder requested : Option String} {path : String} {m : Machine}
  {e : Failure} {go : String → ProfileStore → Action Machine α}

/-- How the profile of a run is found or not: there may be no folder, or no store in it, and a store
need not have the profile that the run wants. -/
theorem Configuration.resolved_cases (configFolder requested : Option String) (m : Machine) :
    (∃ e, folder configFolder m = .error e ∧ resolved configFolder requested m = .error e) ∨
    (∃ path e, folder configFolder m = .ok path ∧
      (ProfileStore.load (Files.join path profilesName) m).value = .error e ∧
      resolved configFolder requested m = .error e) ∨
    ∃ path s, ReadsProfiles configFolder m path s ∧ resolved configFolder requested m =
      (s.resolve requested).map fun found => (path, (found.map Prod.snd).getD .none) := by
  cases hfolder : folder configFolder m with
  | error e => exact .inl ⟨e, rfl, by simp [resolved, hfolder, bind, Except.bind]⟩
  | ok path =>
    cases hstore : (ProfileStore.load (Files.join path profilesName) m).value with
    | error e =>
      refine .inr (.inl ⟨path, e, rfl, hstore, ?_⟩)
      simp [resolved, hfolder, hstore, bind, Except.bind]
    | ok s =>
      refine .inr (.inr ⟨path, s, ⟨hfolder, hstore⟩, ?_⟩)
      simp only [resolved, hfolder, hstore, bind, Except.bind]
      cases s.resolve requested <;> rfl

/-! ## Failing before anything is done -/

/-- A run that finds no configuration folder ends with status 1. -/
theorem Configuration.folder_error (h : folder configFolder m = .error e) : e.exitCode = 1 := by
  unfold folder at h
  split at h
  · cases h
  · split at h
    · cases h
    · cases h
      exact Failure.exitCode_of_not_heeds rfl

/-- A run whose profiles cannot be read ends with status 1. -/
theorem ProfileStore.load_error (h : (load path m).value = .error e) :
    e.exitCode = 1 := by
  rw [load_eq] at h
  split at h
  · cases hread : m.disk.readText path with
    | error p =>
      rw [hread] at h
      cases h
      exact Failure.exitCode_of_not_heeds rfl
    | ok text =>
      rw [hread] at h
      change (Yaml.read? ProfileStore.read text).mapError _ = _ at h
      cases hyaml : Yaml.read? ProfileStore.read text with
      | error reason =>
        rw [hyaml] at h
        cases h
        exact Failure.exitCode_of_not_heeds rfl
      | ok s =>
        rw [hyaml] at h
        cases h
  · cases h

/-- A run that gets no profile ends with status 1. -/
theorem Configuration.resolved_error (h : resolved configFolder requested m = .error e) :
    e.exitCode = 1 := by
  rcases resolved_cases configFolder requested m with
    ⟨e', hfolder, he⟩ | ⟨path, e', -, hstore, he⟩ | ⟨path, s, -, hs⟩
  · cases he.symm.trans h
    exact folder_error hfolder
  · cases he.symm.trans h
    exact ProfileStore.load_error hstore
  · rw [hs] at h
    cases hfound : s.resolve requested with
    | ok found =>
      rw [hfound] at h
      cases h
    | error e' =>
      rw [hfound] at h
      cases h
      obtain ⟨name, -, -, rfl⟩ := ProfileStore.resolve_eq_error.1 hfound
      exact Failure.exitCode_of_not_heeds rfl

/-- Without a folder no work with profiles is done. -/
theorem withProfiles_of_folder_error (h : Configuration.folder configFolder m = .error e) :
    withProfiles configFolder go m = ⟨.error e, [], m⟩ := by
  change (Work.ofExcept (Configuration.folder configFolder m) >>= fun folder =>
    ProfileStore.load (Files.join folder Configuration.profilesName) >>= go folder) m = _
  rw [h]
  rfl

/-- Without a store no work with profiles is done. -/
theorem withProfiles_of_load_error (hfolder : Configuration.folder configFolder m = .ok path)
    (h : (ProfileStore.load (Files.join path Configuration.profilesName) m).value = .error e) :
    withProfiles configFolder go m = ⟨.error e, readingLog path m, m⟩ := by
  have hload : (ProfileStore.load (Files.join path Configuration.profilesName) >>= go path) m =
      ⟨.error e, readingLog path m, m⟩ := by
    rw [Work.bind_eq_of_error h, ProfileStore.load_world]
    rfl
  change (Work.ofExcept (Configuration.folder configFolder m) >>= fun folder =>
    ProfileStore.load (Files.join folder Configuration.profilesName) >>= go folder) m = _
  rw [hfolder]
  exact hload

/-! ## Going on with the profile -/

/-- Nothing is printed while the profiles are read. -/
theorem isText_readingLog (folder : String) (m : Machine) :
    ∀ o ∈ readingLog folder m, o.isText = false := by
  rw [readingLog, ProfileStore.load_eq]
  split
  · exact nofun
  · rintro o ho
    exact List.mem_singleton.1 ho ▸ rfl

/-- What is said of the profile that a run gets. -/
def profileMessage : Option (String × Profile) → Message
  | some (name, p) => usedMessage name p
  | none => unusedMessage

/-- Work with the profile of a run is done after it is said which one that is. -/
theorem ProfileStore.using_eq (go : Profile → Action Machine Unit)
    (found : Option (String × Profile)) (m : Machine) :
    let r := go ((found.map Prod.snd).getD .none) m
    ProfileStore.using go found m =
      ⟨r.value, .message (profileMessage found) :: r.log, r.world⟩ := by
  cases found <;> rfl

/-- Work with the profile of a run fails as finding the profile does, and then nothing else is done;
otherwise it is done after something was said. -/
theorem withProfiles_resolved (configFolder requested : Option String) (m : Machine) :
    ∃ said : List Output, (∀ o ∈ said, o.isText = false) ∧
      ∀ go : String → Profile → Action Machine Unit,
        withProfiles configFolder (fun folder s => s.choose requested >>= go folder) m =
          match Configuration.resolved configFolder requested m with
          | .error e => ⟨.error e, said, m⟩
          | .ok (folder, p) =>
            ⟨(go folder p m).value, said ++ (go folder p m).log, (go folder p m).world⟩ := by
  rcases Configuration.resolved_cases configFolder requested m with
    ⟨e, hfolder, he⟩ | ⟨folder, e, hfolder, hstore, he⟩ | ⟨folder, s, hreads, hs⟩
  · refine ⟨[], nofun, fun go => ?_⟩
    rw [withProfiles_of_folder_error hfolder, he]
  · refine ⟨readingLog folder m, isText_readingLog folder m, fun go => ?_⟩
    rw [withProfiles_of_load_error hfolder hstore, he]
  · cases hfound : s.resolve requested with
    | error e =>
      refine ⟨readingLog folder m, isText_readingLog folder m, fun go => ?_⟩
      rw [withProfiles_of_reads hreads, ProfileStore.choose_bind, hs, hfound]
      exact congrArg (Outcome.mk _ · m) (List.append_nil _)
    | ok found =>
      refine ⟨readingLog folder m ++ [.message (profileMessage found)], ?_, fun go => ?_⟩
      · intro o ho
        rcases List.mem_append.1 ho with ho | ho
        · exact isText_readingLog folder m o ho
        · exact List.mem_singleton.1 ho ▸ rfl
      · rw [withProfiles_of_reads hreads, ProfileStore.choose_bind, hs, hfound]
        change Outcome.mk (ProfileStore.using (go folder) found m).value
          (readingLog folder m ++ (ProfileStore.using (go folder) found m).log)
          (ProfileStore.using (go folder) found m).world = _
        rw [ProfileStore.using_eq]
        exact congrArg (Outcome.mk _ · _) (List.append_cons ..)

end

/-! ## What is told of a profile -/

namespace Profile

/-- What commands are told of a profile, in variables. -/
def told (p : Profile) : List (String × String) :=
  [("INSTRUMENTOR_ACCOUNT_ID", toString p.accountId), ("INSTRUMENTOR_API_KEY", p.apiKey),
    ("INSTRUMENTOR_REGION", p.region.name)]

/-- Variables among which those that tell of a profile have the values of this one, and no others.
-/
def ToldBy (p : Profile) (given : List (String × String)) : Prop :=
  ∀ v ∈ p.told, ∀ value, (v.1, value) ∈ given ↔ value = v.2

/-- A question that goes to the server of a profile, with its key and for its account. -/
structure Asks (p : Profile) (i : Validation.Inquiry) : Prop where
  address : i.address = p.region.endpoint
  key : i.key = p.apiKey
  body : ∃ query, i.body = Validation.Inquiry.bodyFor p.accountId query

variable {p : Profile}

/-- The question of a query of a profile is one for this profile. -/
theorem asks_of (p : Profile) (query : String) : p.Asks (.of p query) := ⟨rfl, rfl, query, rfl⟩

/-- The commands of a recipe are told of the profile. -/
theorem toldBy_environment (p : Profile) (r : Recipe) (h : Host) :
    p.ToldBy (r.environment p h) := by
  intro v hv value
  have hnames : v.1 ∈ ["INSTRUMENTOR_ACCOUNT_ID", "INSTRUMENTOR_API_KEY", "INSTRUMENTOR_REGION"] :=
    List.mem_map_of_mem (f := Prod.fst) hv
  have hlogs : (v.1, value) ∉ (r.accepted.map fun w => (logFilesVariable, w.yaml)).toList := by
    intro hmem
    obtain ⟨w, -, hw⟩ := Option.map_eq_some_iff.1 (Option.mem_toList.1 hmem)
    have hname : logFilesVariable = v.1 := congrArg Prod.fst hw
    exact absurd (hname ▸ hnames) (by decide)
  simp only [told, List.mem_cons, List.not_mem_nil, or_false] at hv
  rw [Recipe.environment_eq, List.mem_append, or_iff_left hlogs]
  rcases hv with rfl | rfl | rfl <;> simp [Recipe.fixedVariables, Recipe.environment]

/-- A shell that starts with variables which tell of a profile sees its values, whatever the
environment of the machine says. -/
theorem ToldBy.start {given : List (String × String)} (h : p.ToldBy given) (m : Machine)
    {v : String × String} (hv : v ∈ p.told) :
    (Shell.Session.start given m).values.find? (·.name = v.1) =
      some ⟨v.1, some v.2, true, false⟩ := by
  have hfound : given.find? (·.1 = v.1) = some v := by
    cases hg : given.find? (·.1 = v.1) with
    | none =>
      have hnone := List.find?_eq_none.1 hg v ((h v hv v.2).2 rfl)
      exact absurd (decide_eq_true rfl) hnone
    | some g =>
      have hname : g.1 = v.1 := by simpa using List.find?_some hg
      have hvalue : g.2 = v.2 := (h v hv g.2).1 (hname ▸ List.mem_of_find?_eq_some hg)
      rw [Prod.ext hname hvalue]
  have hcomp : ((fun x : Shell.Variable => decide (x.name = v.1)) ∘ fun x : String × String =>
      (⟨x.1, some x.2, true, false⟩ : Shell.Variable)) = fun g => decide (g.1 = v.1) := rfl
  simp only [Shell.Session.start, List.find?_map, List.append_assoc, List.find?_append, hcomp,
    hfound, Option.some_or, Option.map_some]

end Profile

/-! ## What is outside the program -/

namespace Services

/-- Outsides that do the same for a profile: their commands for variables that tell of it, their
servers for its questions, and their operators for every question. -/
structure Outside.AgreesFor (outside' : Outside) (p : Profile) (outside : Outside) : Prop where
  launch : ∀ given, p.ToldBy given → outside'.launch given = outside.launch given
  answer : ∀ i, p.Asks i → outside'.server.answer i = outside.server.answer i
  operator : outside'.operator = outside.operator

end Services

/-- Commands are run alike if they are started alike. -/
theorem Execution.runSteps_congr {launch launch' : Launcher} {given : List (String × String)}
    (h : launch' given = launch given) (steps : List Step) :
    runSteps launch' given steps = runSteps launch given steps := by
  induction steps with
  | nil => rfl
  | cons s rest ih => simp only [runSteps, runStep, h, ih]

/-- The services for a profile do not depend on what is outside the program for others. -/
theorem Services.ofMachineWith_congr {outside outside' : Outside} {p : Profile}
    (h : outside'.AgreesFor p outside) (catalog : Catalog) :
    ofMachineWith outside' p catalog = ofMachineWith outside p catalog := by
  have hrun (host : Host) (r : Recipe) :
      Execution.run outside'.launch p host r = Execution.run outside.launch p host r := by
    unfold Execution.run
    rw [Execution.runSteps_congr (h.launch _ (p.toldBy_environment r host))]
  have hask : Validation.askServer outside'.server p = Validation.askServer outside.server p := by
    funext query
    unfold Validation.askServer
    rw [h.answer _ (p.asks_of query)]
  simp only [ofMachineWith, hrun, hask, h.operator]

/-! ## The calls of an installation -/

/-- How a call is done from one machine to another by an installation with a profile. Recipes are
looked up in a catalog, and the operator is asked which log files may be watched. Commands are told
of the profile when they are started, and the files are left as they were or as a command left them.
Data is asked for with questions for the profile. A report writes the status file, if its path
starts from a folder, and no other call touches a file.
-/
def Call.DoneBy (outside : Services.Outside) (p : Profile) (catalog : Catalog) (status : String)
    (m m' : Machine) : Call → Prop
  | .findRecipe _ name answer => answer = (catalog.find name m).value ∧ m'.disk = m.disk
  | .recommend host answer => answer = (catalog.recommend host m).value ∧ m'.disk = m.disk
  | .confirm w answer =>
    answer = (Services.askOperator outside.operator w m).value ∧ m'.disk = m.disk
  | .execute h r answer =>
    answer = (Execution.run outside.launch p h r m).value ∧
    (∀ given s, .started given s ∈ (Execution.Watched.run outside.launch p h r m).log →
      p.ToldBy given) ∧
    (m'.disk = m.disk ∨ ∃ given, p.ToldBy given ∧ Execution.LeftBy outside.launch given m'.disk)
  | .validate h r answer =>
    answer = (Validation.run p Services.patience (Validation.askServer outside.server p) h r
      m).value ∧ m'.disk = m.disk
  | .report .. =>
    m.disk.root.HasFolder (m.disk.start status).reverse → m.disk.OnlyWrites status m'.disk
  | _ => m'.disk = m.disk

/-- All commands of a recipe are started with the variables of its environment. -/
theorem Execution.Watched.eq_environment {launch : Launcher} {p : Profile} {h : Host} {r : Recipe}
    {m : Machine} {given : List (String × String)} {s : Step}
    (hstarted : .started given s ∈ (run launch p h r m).log) : given = r.environment p h := by
  have hseen : .started given s ∈ unshown (run launch p h r m).log :=
    List.mem_filter.2 ⟨hstarted, rfl⟩
  rw [(run_seen launch p h r m).1] at hseen
  have hfirst :=
    Sequence.started_prefix (runSteps_sequence launch (r.environment p h) r.steps m)
  obtain ⟨_, -, hgiven⟩ := List.mem_map.1 (hfirst.subset (List.mem_filterMap.2 ⟨_, hseen, rfl⟩))
  exact (congrArg Prod.fst hgiven).symm

section
variable {outside : Services.Outside} {p : Profile} {catalog : Catalog}
  {w w' : Machine × StatusFile} {c : Call} {shown : List Output} {l : List Entry}

/-- Every call of an installation on a machine is done like this. -/
theorem Services.Gives.doneBy (h : (ofMachineWith outside p catalog).Gives w c shown w') :
    c.DoneBy outside p catalog w.2.path w.1 w'.1 := by
  cases h with
  | discover => exact Machine.keeps_discover onDisk_check w.1 rfl
  | loadFile path => exact Recipe.keeps_loadFile (P := OnDisk w.1.disk) path w.1 rfl
  | fetchFile url => exact Recipe.keeps_fetchFile (P := OnDisk w.1.disk) url w.1 rfl
  | findRecipe host name => exact ⟨rfl, catalog.keeps_find onDisk_check name w.1 rfl⟩
  | recommend host => exact ⟨rfl, catalog.keeps_recommend onDisk_check host w.1 rfl⟩
  | findLogs recipes => exact LogFiles.keeps_filter onDisk_check recipes w.1 rfl
  | confirm watch =>
    exact ⟨rfl, Services.keeps_askOperator (P := OnDisk w.1.disk) outside.operator watch w.1 rfl⟩
  | execute h r =>
    have htold := p.toldBy_environment r h
    refine ⟨rfl, fun given s hs => Execution.Watched.eq_environment hs ▸ htold, ?_⟩
    exact (Execution.run_onDisk outside.launch p h r w.1).imp_right fun hleft => ⟨_, htold, hleft⟩
  | validate h r =>
    have hask (query : String) := Validation.onDisk_askServer (d := w.1.disk) outside.server p query
    exact ⟨rfl, Validation.onDisk_run hask p _ h r w.1 rfl⟩
  | report r => exact StatusFile.write_onlyWrites _

/-- No call changes the path of the status file. -/
theorem Services.Gives.path (h : (ofMachineWith outside p catalog).Gives w c shown w') :
    w'.2.path = w.2.path := by
  cases h <;> rfl

/-- The path of the status file is the same at the end of a journal. -/
theorem Replays.path (h : Replays (Services.ofMachineWith outside p catalog) w l w') :
    w'.2.path = w.2.path := by
  induction h with
  | nil => rfl
  | shown _ _ ih => exact ih
  | call hc _ ih => exact ih.trans hc.path

end

/-- A journal that an installation with a profile writes, from one machine to another. -/
structure OneProfile (outside : Services.Outside) (p : Profile) (catalog : Catalog)
    (status : String) (m m' : Machine) (v : Except Failure Unit) (journal : List Entry) : Prop where
  /-- The installation itself prints a greeting and, if it succeeds, the good news for the account
  of the profile. -/
  news : ∃ work, (∀ o ∈ shownIn work, o.isText = false) ∧
    journal = .shown Banner.welcome :: (work ++ match v with
      | .ok () => [.shown (Banner.success p.accountId)]
      | .error _ => [])
  /-- The calls are done one after the other, each on the machine that the ones before it leave. -/
  calls : ∃ file, Replays (Services.ofMachineWith outside p catalog) (m, .new status) journal
      (m', file) ∧
    ∀ before c shown after, journal = before ++ .call c shown :: after → ∃ w w',
      Replays (Services.ofMachineWith outside p catalog) (m, .new status) before w ∧
      (Services.ofMachineWith outside p catalog).Gives w c shown w' ∧
      Replays (Services.ofMachineWith outside p catalog) w' after (m', file) ∧
      c.DoneBy outside p catalog status w.1 w'.1

namespace CommandLine.InstallOrder

/-- An installation picks its profile from the stored ones and goes on with it. -/
theorem performWith_eq (outside : Services.Outside) (o : InstallOrder)
    (configFolder requested : Option String) : o.performWith outside configFolder requested =
      withProfiles configFolder fun folder s =>
        s.choose requested >>= o.proceedWith outside folder :=
  rfl

/-- Once the profile is known, an installation says where its files are, and then keeps a journal
with this profile. -/
theorem proceedWith_oneProfile (outside : Services.Outside) (o : InstallOrder) (folder : String)
    (p : Profile) (m : Machine) :
    let run := o.proceedWith outside folder p m
    ∃ said : Message, ∃ journal, run.log = .message said :: journal.flatMap Entry.outputs ∧
      OneProfile outside p ⟨o.catalog.getD (Files.join folder Configuration.catalogName)⟩
        (o.statusFile.getD (Files.join folder Configuration.statusName)) m run.world run.value
        journal := by
  intro run
  let services := Services.ofMachineWith outside p
    ⟨o.catalog.getD (Files.join folder Configuration.catalogName)⟩
  let start := (m, StatusFile.new (o.statusFile.getD (Files.join folder Configuration.statusName)))
  have hinstall := Installing.install_log services (o.plan p.accountId) start
  obtain ⟨G, hlog, hG, -⟩ := Installing.phases_log services (o.plan p.accountId) start
  have hwork := (Installing.prepare_transcribes services (o.plan p.accountId) start).append hG
  obtain ⟨hj, -⟩ := Installing.install_ensures services (o.plan p.accountId) start
  refine ⟨_, (Installing.install services (o.plan p.accountId) start).log, rfl, ?_, ?_⟩
  · rw [hlog] at hinstall
    refine ⟨_, hwork.silent, hinstall.trans ?_⟩
    have hvalue : run.value = (Installing.install services (o.plan p.accountId) start).value := rfl
    rw [hvalue]
    cases (Installing.install services (o.plan p.accountId) start).value <;> rfl
  · refine ⟨_, hj, fun before c shown after hcut => ?_⟩
    rw [hcut] at hj
    obtain ⟨w, hbefore, hrest⟩ := hj.split
    cases hrest with
    | call hc hafter =>
      have hpath : w.2.path = o.statusFile.getD (Files.join folder Configuration.statusName) :=
        hbefore.path
      exact ⟨w, _, hbefore, hc, hafter, hpath ▸ hc.doneBy⟩

/-- Commands that show which one was started and what it is told of a profile and of log files. -/
def tellingLauncher : Launcher := fun given command m =>
  let told := given.filter fun v => v.1 ∈ logFilesVariable :: Profile.none.told.map Prod.fst
  let shown := .stdout (String.intercalate " " (command :: told.map Prod.snd))
  .ok ⟨[], ⟨[shown], m.disk, false⟩, .status 0⟩

/-- Servers that answer every question with the count of one. -/
def countingServer : Validation.Server where
  answer i := pure (some ⟨200, "OK", i.address, Text.bytesOf
    ("\x7b\"data\":\x7b\"actor\":\x7b\"account\":\x7b\"nrql\":" ++
      "\x7b\"results\":[\x7b\"count\":1\x7d]\x7d\x7d\x7d\x7d\x7d")⟩)
  keepsDisk _ _ := rfl

/-- A machine with two profiles, a recipe file that has a step, a query and a log file that is
there, and a catalog with the recipe that sets up logging. -/
def machineWithRecipes : Machine :=
  machineAt [("profiles.yaml", twoProfiles),
    ("r.yml", .file (Text.bytesOf ("name: r\nlogMatch:\n- name: l\n  file: /l\n" ++
      "validationNrql: q\ninstall:\n  steps:\n  - run: s\n"))),
    ("l", .file []),
    ("recipes", .folder [("logs.yml",
      .file (Text.bytesOf "name: Logs integration\ninstall:\n  steps:\n  - run: t\n"))])]

end CommandLine.InstallOrder

end Provision
