import Provision.Proofs.Install.Attempt

/-!
# The phases of an installation

An installation asks for things in a fixed order: about the host, for the wanted recipes, for the
agent, for logging, and for the wanted recipes again to install them. One relation for each phase
says what the phase may ask for and what it ends in, and `Phases` puts them in order: once a phase
has failed, nothing more is asked for, and its failure is that of the installation.
`Installing.install_ensures` proves this of every run. What is known of all calls of a run, such as
that they fall into episodes, follows from `Phases` alone.
-/

namespace Provision

variable {σ : Type}

/-! ## What each phase may ask for -/

/-- Discovery: one question about the host, unless it is left out. -/
inductive DiscoveryPhase : (skip : Bool) → List Call → Except Failure (Option Host) → Prop
  | skipped : DiscoveryPhase true [] (.ok none)
  | found (h : Host) : DiscoveryPhase false [.discover (.ok h)] (.ok (some h))
  | failed (e : Failure) :
      DiscoveryPhase false [.discover (.error e)] (.error (.discovery e.message))

/-- The draft of a recipe file that was named: fetched if the name is an address, else loaded. -/
inductive DraftRead (named : String) : Call → Except Failure Draft → Prop
  | fetched {u : Url} (hl : Location.ofText named = .url u) (d : Draft) :
      DraftRead named (.fetchFile u (.ok d)) (.ok d)
  | notFetched {u : Url} (hl : Location.ofText named = .url u) (e : Failure) :
      DraftRead named (.fetchFile u (.error e)) (.error (.fetching named e.message))
  | loaded {path : String} (hl : Location.ofText named = .path path) (d : Draft) :
      DraftRead named (.loadFile path (.ok d)) (.ok d)
  | notLoaded {path : String} (hl : Location.ofText named = .path path) (e : Failure) :
      DraftRead named (.loadFile path (.error e)) (.error (.loading named e.message))

/-- Recipe files, one call each, up to the first that cannot be read or is no recipe. -/
inductive FilesRead : List String → List Call → Except Failure (List Recipe) → Prop
  | nil : FilesRead [] [] (.ok [])
  | unread {named : String} {c : Call} {e : Failure} (rest : List String)
      (hd : DraftRead named c (.error e)) : FilesRead (named :: rest) [c] (.error e)
  | invalid {named : String} {c : Call} {d : Draft} {e : Failure} (rest : List String)
      (hd : DraftRead named c (.ok d)) (hr : d.check = .error e) :
      FilesRead (named :: rest) [c] (.error e)
  | cons {named : String} {c : Call} {d : Draft} {r : Recipe} {rest : List String}
      {cs : List Call} {v : Except Failure (List Recipe)} (hd : DraftRead named c (.ok d))
      (hr : d.check = .ok r) (h : FilesRead rest cs v) :
      FilesRead (named :: rest) (c :: cs) (v.map (r :: ·))

/-- Recipes looked up by name, one call each; those that are not found are left out. -/
inductive NamesFound (host : Option Host) : List String → List Call → List Recipe → Prop
  | nil : NamesFound host [] [] []
  | found {rest : List String} {cs : List Call} {rs : List Recipe} (name : String) (r : Recipe)
      (h : NamesFound host rest cs rs) :
      NamesFound host (name :: rest) (.findRecipe host name (.ok (some r)) :: cs) (r :: rs)
  | missing {rest : List String} {cs : List Call} {rs : List Recipe} (name : String)
      (h : NamesFound host rest cs rs) :
      NamesFound host (name :: rest) (.findRecipe host name (.ok none) :: cs) rs
  | broken {rest : List String} {cs : List Call} {rs : List Recipe} (name : String) (e : Failure)
      (h : NamesFound host rest cs rs) :
      NamesFound host (name :: rest) (.findRecipe host name (.error e) :: cs) rs

/-- Acquisition: files if the plan has any, else names if it has any, else recommendations, which
are reported as available. -/
inductive AcquisitionPhase (p : Plan) (host : Option Host) :
    List Call → Except Failure (List Recipe) → Prop
  | files {cs : List Call} {v : Except Failure (List Recipe)} (hp : p.paths ≠ [])
      (h : FilesRead p.paths cs v) : AcquisitionPhase p host cs v
  | named {cs : List Call} {rs : List Recipe} (hp : p.paths = []) (hn : p.names ≠ [])
      (h : NamesFound host p.names cs rs) : AcquisitionPhase p host cs (.ok rs)
  | recommended (hp : p.paths = []) (hn : p.names = []) (rs : List Recipe)
      (noted : Except Failure Unit) :
      AcquisitionPhase p host [.recommend host (.ok rs), .report (.available rs) noted] (.ok rs)
  | notRecommended (hp : p.paths = []) (hn : p.names = []) (e : Failure) :
      AcquisitionPhase p host [.recommend host (.error e)] (.error (.recommendation e.message))

/-- A recipe looked up that has to be there. -/
inductive Looked (host : Option Host) (name : String) : Call → Except Failure Recipe → Prop
  | found (r : Recipe) : Looked host name (.findRecipe host name (.ok (some r))) (.ok r)
  | missing : Looked host name (.findRecipe host name (.ok none)) (.error (.unknownRecipe name))
  | broken (e : Failure) :
      Looked host name (.findRecipe host name (.error e)) (.error (.retrieval name e.message))

/-- The agent: it is looked up and attempted, unless it is left out. -/
inductive AgentPhase (host : Option Host) (h : Host) :
    (skip : Bool) → List Call → Except Failure Unit → Prop
  | skipped : AgentPhase host h true [] (.ok ())
  | unknown {c : Call} {e : Failure} (hl : Looked host agentRecipe c (.error e)) :
      AgentPhase host h false [c] (.error e)
  | attempted {c : Call} {r : Recipe} {cs : List Call} {v : Except Failure Bool}
      (hl : Looked host agentRecipe c (.ok r)) (ha : Attempted h r cs v) :
      AgentPhase host h false (c :: cs) (decided r v)

/-- Questions to the operator, one for each log file, and what was accepted. -/
inductive Consented : List LogWatch → List Call → List LogWatch → Prop
  | nil : Consented [] [] []
  | accepted {rest : List LogWatch} {cs : List Call} {ws : List LogWatch} (w : LogWatch)
      (h : Consented rest cs ws) : Consented (w :: rest) (.confirm w (.ok true) :: cs) (w :: ws)
  | declined {rest : List LogWatch} {cs : List Call} {ws : List LogWatch} (w : LogWatch)
      {a : Except Failure Bool} (ha : a ≠ .ok true) (h : Consented rest cs ws) :
      Consented (w :: rest) (.confirm w a :: cs) ws

/-- Logging: its recipe is looked up, log files are searched for, the operator is asked about each,
and the recipe is attempted with those that were accepted. -/
inductive LoggingPhase (host : Option Host) (h : Host) (wanted : List Recipe) :
    (skip : Bool) → List Call → Except Failure Unit → Prop
  | skipped : LoggingPhase host h wanted true [] (.ok ())
  | unknown {c : Call} {e : Failure} (hl : Looked host loggingRecipe c (.error e)) :
      LoggingPhase host h wanted false [c] (.error e)
  | unsearched {c : Call} {r : Recipe} (hl : Looked host loggingRecipe c (.ok r)) (e : Failure) :
      LoggingPhase host h wanted false [c, .findLogs wanted (.error e)]
        (.error (.logSearch e.message))
  | attempted {c : Call} {r : Recipe} {found ws : List LogWatch} {cs ds : List Call}
      {v : Except Failure Bool} (hl : Looked host loggingRecipe c (.ok r))
      (hc : Consented found cs ws) (ha : Attempted h (r.withAccepted ⟨ws⟩) ds v) :
      LoggingPhase host h wanted false (c :: .findLogs wanted (.ok found) :: (cs ++ ds))
        (decided (r.withAccepted ⟨ws⟩) v)

/-- Attempts at recipes one after the other, whatever becomes of each. -/
inductive AllAttempted (h : Host) : List Recipe → List Call → Prop
  | nil : AllAttempted h [] []
  | cons {r : Recipe} {rs : List Recipe} {cs ds : List Call} {v : Except Failure Bool}
      (ha : Attempted h r cs v) (hs : AllAttempted h rs ds) : AllAttempted h (r :: rs) (cs ++ ds)

/-- The wanted recipes are attempted, unless that is left out. -/
inductive IntegrationPhase (h : Host) (wanted : List Recipe) : (skip : Bool) → List Call → Prop
  | skipped : IntegrationPhase h wanted true []
  | run {cs : List Call} (ha : AllAttempted h wanted cs) : IntegrationPhase h wanted false cs

/-- The calls of the five phases of a plan, and what the installation ends in: after the first
phase that fails the others ask for nothing, and the installation fails with it. -/
inductive Phases (p : Plan) : (D A I L G : List Call) → Except Failure Unit → Prop
  | noHost {D : List Call} {e : Failure} (hD : DiscoveryPhase p.skipDiscovery D (.error e)) :
      Phases p D [] [] [] [] (.error e)
  | noRecipes {D A : List Call} {host : Option Host} {e : Failure}
      (hD : DiscoveryPhase p.skipDiscovery D (.ok host))
      (hA : AcquisitionPhase p host A (.error e)) : Phases p D A [] [] [] (.error e)
  | noAgent {D A I : List Call} {host : Option Host} {wanted : List Recipe} {e : Failure}
      (hD : DiscoveryPhase p.skipDiscovery D (.ok host))
      (hA : AcquisitionPhase p host A (.ok wanted))
      (hI : AgentPhase host (host.getD .unknown) p.skipAgent I (.error e)) :
      Phases p D A I [] [] (.error e)
  | noLogging {D A I L : List Call} {host : Option Host} {wanted : List Recipe} {e : Failure}
      (hD : DiscoveryPhase p.skipDiscovery D (.ok host))
      (hA : AcquisitionPhase p host A (.ok wanted))
      (hI : AgentPhase host (host.getD .unknown) p.skipAgent I (.ok ()))
      (hL : LoggingPhase host (host.getD .unknown) wanted p.skipLogging L (.error e)) :
      Phases p D A I L [] (.error e)
  | done {D A I L G : List Call} {host : Option Host} {wanted : List Recipe}
      (hD : DiscoveryPhase p.skipDiscovery D (.ok host))
      (hA : AcquisitionPhase p host A (.ok wanted))
      (hI : AgentPhase host (host.getD .unknown) p.skipAgent I (.ok ()))
      (hL : LoggingPhase host (host.getD .unknown) wanted p.skipLogging L (.ok ()))
      (hG : IntegrationPhase (host.getD .unknown) wanted p.skipIntegrations G) :
      Phases p D A I L G (.ok ())

/-- The calls of the phases before the integrations, and what these end in: the failure of the one
that failed, or the host and the wanted recipes. -/
inductive Prepared (p : Plan) :
    (D A I L : List Call) → Except Failure (Host × List Recipe) → Prop
  | failed {D A I L : List Call} {e : Failure} (h : Phases p D A I L [] (.error e)) :
      Prepared p D A I L (.error e)
  | ready {D A I L : List Call} {host : Option Host} {wanted : List Recipe}
      (hD : DiscoveryPhase p.skipDiscovery D (.ok host))
      (hA : AcquisitionPhase p host A (.ok wanted))
      (hI : AgentPhase host (host.getD .unknown) p.skipAgent I (.ok ()))
      (hL : LoggingPhase host (host.getD .unknown) wanted p.skipLogging L (.ok ())) :
      Prepared p D A I L (.ok (host.getD .unknown, wanted))

/-! ## What the phases tell of the calls -/

/-- Whether a call reads a recipe file. -/
def Call.readsFile : Call → Bool
  | loadFile .. | fetchFile .. => true
  | _ => false

/-- Whether a call can be made before anything is attempted. -/
def Call.prepares : Call → Bool
  | discover .. | loadFile .. | fetchFile .. | findRecipe .. | recommend .. => true
  | report (.available _) _ => true
  | _ => false

/-- The name of the recipe that a call looks up. -/
def Call.soughtName? : Call → Option String
  | findRecipe _ name _ => some name
  | _ => none

/-- Discovery asks once, unless it is left out. -/
theorem DiscoveryPhase.calls_eq {skip : Bool} {D : List Call} {d : Except Failure (Option Host)}
    (h : DiscoveryPhase skip D d) :
    skip = true ∧ D = [] ∨ skip = false ∧ ∃ a, D = [.discover a] := by
  cases h with
  | skipped => exact .inl ⟨rfl, rfl⟩
  | found | failed => exact .inr ⟨rfl, _, rfl⟩

/-- Files are acquired by nothing but reading files. -/
theorem FilesRead.readsFile {paths : List String} {cs : List Call}
    {v : Except Failure (List Recipe)} (h : FilesRead paths cs v) :
    ∀ c ∈ cs, c.readsFile = true := by
  have one {named c v} (hd : DraftRead named c v) : c.readsFile = true := by cases hd <;> rfl
  induction h with
  | nil => exact fun _ hc => nomatch hc
  | unread _ hd | invalid _ hd _ => exact fun c hc => List.mem_singleton.1 hc ▸ one hd
  | cons hd _ _ ih =>
    intro c hc
    rcases List.mem_cons.1 hc with rfl | hc
    · exact one hd
    · exact ih c hc

/-- Each name is looked up once, in order, and nothing else is asked for. -/
theorem NamesFound.soughtNames {host : Option Host} {names : List String} {cs : List Call}
    {rs : List Recipe} (h : NamesFound host names cs rs) :
    cs.map Call.soughtName? = names.map some := by
  induction h with
  | nil => rfl
  | found name _ _ ih | missing name _ ih | broken name _ _ ih =>
    exact congrArg (some name :: ·) ih

/-- What is looked up is the recipe of the name. -/
theorem Looked.eq_findRecipe {host : Option Host} {name : String} {c : Call}
    {v : Except Failure Recipe} (h : Looked host name c v) : ∃ a, c = .findRecipe host name a := by
  cases h <;> exact ⟨_, rfl⟩

/-- The agent's phase begins with looking the agent up, unless it is left out. -/
theorem AgentPhase.calls_eq {host : Option Host} {h : Host} {skip : Bool} {I : List Call}
    {v : Except Failure Unit} (hI : AgentPhase host h skip I v) :
    skip = true ∧ I = [] ∨ skip = false ∧ ∃ a cs, I = .findRecipe host agentRecipe a :: cs := by
  cases hI with
  | skipped => exact .inl ⟨rfl, rfl⟩
  | unknown hl | attempted hl _ =>
    obtain ⟨a, rfl⟩ := hl.eq_findRecipe
    exact .inr ⟨rfl, a, _, rfl⟩

/-- Logging begins with looking its recipe up, unless it is left out. -/
theorem LoggingPhase.calls_eq {host : Option Host} {h : Host} {wanted : List Recipe} {skip : Bool}
    {L : List Call} {v : Except Failure Unit} (hL : LoggingPhase host h wanted skip L v) :
    skip = true ∧ L = [] ∨ skip = false ∧ ∃ a cs, L = .findRecipe host loggingRecipe a :: cs := by
  cases hL with
  | skipped => exact .inl ⟨rfl, rfl⟩
  | unknown hl | unsearched hl _ | attempted hl _ _ =>
    obtain ⟨a, rfl⟩ := hl.eq_findRecipe
    exact .inr ⟨rfl, a, _, rfl⟩

/-- Acquisition keeps to one family of calls: it reads files, or looks up the names, or asks for
recommendations and reports those it gets. -/
theorem AcquisitionPhase.family {p : Plan} {host : Option Host} {A : List Call}
    {v : Except Failure (List Recipe)} (h : AcquisitionPhase p host A v) :
    (p.paths ≠ [] ∧ ∀ c ∈ A, c.readsFile = true) ∨
      (p.paths = [] ∧ p.names ≠ [] ∧ A.map Call.soughtName? = p.names.map some) ∨
      (p.paths = [] ∧ p.names = [] ∧ ((∃ e, A = [.recommend host (.error e)]) ∨
        ∃ rs noted, A = [.recommend host (.ok rs), .report (.available rs) noted])) := by
  cases h with
  | files hp h => exact .inl ⟨hp, h.readsFile⟩
  | named hp hn h => exact .inr (.inl ⟨hp, hn, h.soughtNames⟩)
  | recommended hp hn rs noted => exact .inr (.inr ⟨hp, hn, .inr ⟨rs, noted, rfl⟩⟩)
  | notRecommended hp hn e => exact .inr (.inr ⟨hp, hn, .inl ⟨e, rfl⟩⟩)

/-- Discovery prepares the installation. -/
theorem DiscoveryPhase.prepares {skip : Bool} {D : List Call} {d : Except Failure (Option Host)}
    (h : DiscoveryPhase skip D d) : ∀ c ∈ D, c.prepares = true := by
  cases h with
  | skipped => exact fun _ hc => nomatch hc
  | found | failed => exact fun c hc => List.mem_singleton.1 hc ▸ rfl

/-- Acquiring recipes prepares the installation. -/
theorem AcquisitionPhase.prepares {p : Plan} {host : Option Host} {A : List Call}
    {v : Except Failure (List Recipe)} (h : AcquisitionPhase p host A v) :
    ∀ c ∈ A, c.prepares = true := by
  intro c hc
  rcases h.family with ⟨-, hf⟩ | ⟨-, -, hn⟩ | ⟨-, -, ⟨e, rfl⟩ | ⟨rs, noted, rfl⟩⟩
  · have := hf c hc
    cases c <;> first | rfl | cases this
  · have : c.soughtName? ∈ p.names.map some := hn ▸ List.mem_map_of_mem hc
    cases c <;> first | rfl | simp [Call.soughtName?] at this
  · exact List.mem_singleton.1 hc ▸ rfl
  · simp only [List.mem_cons, List.not_mem_nil, or_false] at hc
    rcases hc with rfl | rfl <;> rfl

section
variable {p : Plan} {D A I L G : List Call} {v : Except Failure Unit}

/-- The calls of an installation begin with those of the discovery. -/
theorem Phases.discovery (h : Phases p D A I L G v) : ∃ d, DiscoveryPhase p.skipDiscovery D d := by
  cases h with
  | noHost hD | noRecipes hD _ | noAgent hD _ _ | noLogging hD _ _ _ | done hD _ _ _ _ =>
    exact ⟨_, hD⟩

/-- Recipes are acquired, or the run failed before. -/
theorem Phases.acquisition (h : Phases p D A I L G v) :
    (∃ host a, AcquisitionPhase p host A a) ∨
      A = [] ∧ I = [] ∧ L = [] ∧ G = [] ∧ ∃ e, v = .error e := by
  cases h with
  | noHost => exact .inr ⟨rfl, rfl, rfl, rfl, _, rfl⟩
  | noRecipes _ hA | noAgent _ hA _ | noLogging _ hA _ _ | done _ hA _ _ _ =>
    exact .inl ⟨_, _, hA⟩

/-- Discovery and acquisition only prepare. -/
theorem Phases.prepares (h : Phases p D A I L G v) : ∀ c ∈ D ++ A, c.prepares = true := by
  obtain ⟨d, hD⟩ := h.discovery
  intro c hc
  rcases List.mem_append.1 hc with hc | hc
  · exact hD.prepares c hc
  · rcases h.acquisition with ⟨host, a, hA⟩ | ⟨rfl, -⟩
    · exact hA.prepares c hc
    · cases hc

/-- The agent has its phase, or the run failed before. -/
theorem Phases.agent (h : Phases p D A I L G v) :
    (∃ host i, AgentPhase host (host.getD .unknown) p.skipAgent I i) ∨
      I = [] ∧ L = [] ∧ G = [] ∧ ∃ e, v = .error e := by
  cases h with
  | noHost | noRecipes => exact .inr ⟨rfl, rfl, rfl, _, rfl⟩
  | noAgent _ _ hI | noLogging _ _ hI _ | done _ _ hI _ _ => exact .inl ⟨_, _, hI⟩

/-- Logging has its phase, or the run failed before. -/
theorem Phases.logging (h : Phases p D A I L G v) :
    (∃ host wanted l, LoggingPhase host (host.getD .unknown) wanted p.skipLogging L l) ∨
      L = [] ∧ G = [] ∧ ∃ e, v = .error e := by
  cases h with
  | noHost | noRecipes | noAgent => exact .inr ⟨rfl, rfl, _, rfl⟩
  | noLogging _ _ _ hL | done _ _ _ hL _ => exact .inl ⟨_, _, _, hL⟩

/-- The wanted recipes are attempted, or the run failed before; then it succeeds. -/
theorem Phases.integrations (h : Phases p D A I L G v) :
    (v = .ok () ∧ ∃ h wanted, IntegrationPhase h wanted p.skipIntegrations G) ∨
      G = [] ∧ ∃ e, v = .error e := by
  cases h with
  | noHost | noRecipes | noAgent | noLogging => exact .inr ⟨rfl, _, rfl⟩
  | done _ _ _ _ hG => exact .inl ⟨rfl, _, _, hG⟩

end

/-! ## What each piece of an installation ensures -/

namespace Installing

variable (s : Services σ)

/-- Discovery makes the one call of its phase. -/
theorem discover_ensures : Ensures s (discover s) fun cs v =>
    DiscoveryPhase false cs (v.map some) := by
  refine .ask_bind (fun _ => .discover) fun a => .present_bind ?_
  cases a with
  | ok h => exact .pure (.found h)
  | error e => exact .fail (.failed e)

/-- Reading a file makes one call, and the draft that it brings is checked. -/
theorem readFile_ensures (named : String) : Ensures s (readFile s named) fun cs v =>
    ∃ c d, cs = [c] ∧ DraftRead named c d ∧ v = d.bind Draft.check := by
  unfold readFile
  cases hl : Location.ofText named with
  | url u =>
    refine .ask_bind (fun _ => .fetchFile u) fun a => .orStop_bind ?_ ?_
    · rintro d rfl
      exact .ofExcept ⟨_, _, rfl, .fetched hl d, rfl⟩
    · rintro e rfl
      exact ⟨_, _, rfl, .notFetched hl e, rfl⟩
  | path path =>
    refine .ask_bind (fun _ => .loadFile path) fun a => .orStop_bind ?_ ?_
    · rintro d rfl
      exact .ofExcept ⟨_, _, rfl, .loaded hl d, rfl⟩
    · rintro e rfl
      exact ⟨_, _, rfl, .notLoaded hl e, rfl⟩

/-- Files are read one after the other, up to the first that fails. -/
theorem readFiles_ensures (paths : List String) :
    Ensures s (readFiles s paths) (FilesRead paths) := by
  induction paths with
  | nil => exact .pure .nil
  | cons named rest ih =>
    refine .bind (readFile_ensures s named) ?_ ?_
    · rintro _ r ⟨c, d, rfl, hd, hr⟩
      cases d with
      | error e => cases hr
      | ok d =>
        refine .bind ih (fun cs rs h => .pure ?_) (fun cs e h => .cons hd hr.symm h)
        exact cs.append_nil.symm ▸ .cons hd hr.symm h
    · rintro _ e ⟨c, d, rfl, hd, hr⟩
      cases d with
      | error e => cases hr; exact .unread rest hd
      | ok d => exact .invalid rest hd hr.symm

/-- Names are looked up one after the other, and this does not fail. -/
theorem findAll_ensures (host : Option Host) (names : List String) :
    Ensures s (findAll s host names) fun cs v =>
      ∃ rs, v = .ok rs ∧ NamesFound host names cs rs := by
  induction names with
  | nil => exact .pure ⟨_, rfl, .nil⟩
  | cons name rest ih =>
    refine .ask_bind (fun _ => .findRecipe host name) fun a => ?_
    match a with
    | .ok (some r) =>
      refine .bind ih ?_ ?_
      · rintro cs rs ⟨_, ⟨⟩, h⟩
        exact .pure ⟨_, rfl, cs.append_nil.symm ▸ .found name r h⟩
      · rintro _ _ ⟨_, ⟨⟩, -⟩
    | .ok none => exact .present_bind (ih.mono fun cs v ⟨rs, hv, h⟩ => ⟨rs, hv, .missing name h⟩)
    | .error e => exact .present_bind (ih.mono fun cs v ⟨rs, hv, h⟩ => ⟨rs, hv, .broken name e h⟩)

/-- The wanted recipes are acquired as the plan says. -/
theorem acquire_ensures (p : Plan) (host : Option Host) :
    Ensures s (acquire s host p.selection) (AcquisitionPhase p host) := by
  unfold Plan.selection
  split
  · next hp => exact (readFiles_ensures s _).mono fun cs v h => .files (by simpa using hp) h
  next hp =>
  have hp : p.paths = [] := by simpa using hp
  split
  · next hn =>
    refine (findAll_ensures s host _).mono ?_
    rintro cs _ ⟨rs, rfl, h⟩
    exact .named hp (by simpa using hn) h
  next hn =>
  have hn : p.names = [] := by simpa using hn
  refine .ask_bind (fun _ => .recommend host) fun a => .present_bind (.orStop_bind ?_ ?_)
  · rintro rs rfl
    refine .bind (reportOrSay_ensures s (.available rs) _) ?_ ?_
    · rintro _ _ ⟨-, noted, rfl⟩
      exact .pure (.recommended hp hn rs noted)
    · rintro _ _ ⟨⟨⟩, -⟩
  · rintro e rfl
    exact .notRecommended hp hn e

/-- A recipe that has to be there is looked up once. -/
theorem findOrStop_ensures (host : Option Host) (name : String) :
    Ensures s (findOrStop s host name) fun cs v => ∃ c, cs = [c] ∧ Looked host name c v := by
  refine .ask_bind (fun _ => .findRecipe host name) fun a => .orStop_bind ?_ ?_
  · rintro found rfl
    cases found with
    | some r => exact .pure ⟨_, rfl, .found r⟩
    | none => exact .fail ⟨_, rfl, .missing⟩
  · rintro e rfl
    exact ⟨_, rfl, .broken e⟩

/-- Installing the agent makes the calls of its phase. -/
theorem installAgent_ensures (host : Option Host) (h : Host) :
    Ensures s (installAgent s host h) (AgentPhase host h false) := by
  refine .bind (findOrStop_ensures s host agentRecipe) ?_ ?_
  · rintro _ r ⟨c, rfl, hl⟩
    refine (attemptOrStop_ensures s h r).mono ?_
    rintro cs _ ⟨v, rfl, ha⟩
    exact .attempted hl ha
  · rintro _ e ⟨c, rfl, hl⟩
    exact .unknown hl

/-- The operator is asked about every log file, and this does not fail. -/
theorem askConsent_ensures (found : List LogWatch) :
    Ensures s (askConsent s found) fun cs v => ∃ ws, v = .ok ws ∧ Consented found cs ws := by
  induction found with
  | nil => exact .pure ⟨_, rfl, .nil⟩
  | cons w rest ih =>
    refine .ask_bind (fun _ => .confirm w) fun a => ?_
    match a with
    | .ok true =>
      refine .bind ih ?_ ?_
      · rintro cs ws ⟨_, ⟨⟩, h⟩
        exact .pure ⟨_, rfl, cs.append_nil.symm ▸ .accepted w h⟩
      · rintro _ _ ⟨_, ⟨⟩, -⟩
    | .ok false => exact ih.mono fun cs v ⟨ws, hv, h⟩ => ⟨ws, hv, .declined w nofun h⟩
    | .error e => exact ih.mono fun cs v ⟨ws, hv, h⟩ => ⟨ws, hv, .declined w nofun h⟩

/-- What the operator accepts is a list of log watches. -/
theorem accepted_ensures (found : List LogWatch) :
    Ensures s (accepted s found) fun cs v => ∃ ws, v = .ok ⟨ws⟩ ∧ Consented found cs ws := by
  refine .bind (askConsent_ensures s found) ?_ ?_
  · rintro cs ws ⟨_, ⟨⟩, h⟩
    exact .pure ⟨_, rfl, cs.append_nil.symm ▸ h⟩
  · rintro _ _ ⟨_, ⟨⟩, -⟩

/-- Setting up logging makes the calls of its phase. -/
theorem installLogging_ensures (host : Option Host) (h : Host) (wanted : List Recipe) :
    Ensures s (installLogging s host h wanted) (LoggingPhase host h wanted false) := by
  refine .bind (findOrStop_ensures s host loggingRecipe) ?_ ?_
  · rintro _ r ⟨c, rfl, hl⟩
    refine .ask_bind (fun _ => .findLogs wanted) fun a => .orStop_bind ?_ ?_
    · rintro found rfl
      refine .bind (accepted_ensures s found) ?_ ?_
      · rintro cs _ ⟨ws, ⟨⟩, hc⟩
        refine .present_bind ((attemptOrStop_ensures s h _).mono ?_)
        rintro ds _ ⟨v, rfl, ha⟩
        exact .attempted hl hc ha
      · rintro _ _ ⟨_, ⟨⟩, -⟩
    · rintro e rfl
      exact .unsearched hl e
  · rintro _ e ⟨c, rfl, hl⟩
    exact .unknown hl

/-- All wanted recipes are attempted, and this does not fail. -/
theorem installAll_ensures (h : Host) (wanted : List Recipe) :
    Ensures s (installAll s h wanted) fun cs v => v = .ok () ∧ AllAttempted h wanted cs := by
  induction wanted with
  | nil => exact .pure ⟨rfl, .nil⟩
  | cons r rest ih =>
    refine .bind (attemptOrWarn_ensures s h r) ?_ ?_
    · rintro cs _ ⟨-, v, ha⟩
      exact ih.mono fun ds v ⟨hv, hs⟩ => ⟨hv, .cons ha hs⟩
    · rintro _ _ ⟨⟨⟩, -⟩

/-! ## The whole installation -/

/-- Discovery as a plan asks for it. -/
theorem discovery_ensures (skip : Bool) :
    Ensures s (if skip then pure none else some <$> discover s) (DiscoveryPhase skip) := by
  cases skip with
  | true => exact .pure .skipped
  | false => exact .map (discover_ensures s)

/-- The agent as a plan asks for it. -/
theorem agent_ensures (skip : Bool) (host : Option Host) (h : Host) :
    Ensures s (if !skip then installAgent s host h else pure ()) (AgentPhase host h skip) := by
  cases skip with
  | true => exact .pure .skipped
  | false => exact installAgent_ensures s host h

/-- Logging as a plan asks for it. -/
theorem logging_ensures (skip : Bool) (host : Option Host) (h : Host) (wanted : List Recipe) :
    Ensures s (if !skip then installLogging s host h wanted else pure ())
      (LoggingPhase host h wanted skip) := by
  cases skip with
  | true => exact .pure .skipped
  | false => exact installLogging_ensures s host h wanted

/-- The integrations as a plan asks for them. -/
theorem integrations_ensures (skip : Bool) (h : Host) (wanted : List Recipe) :
    Ensures s (if !skip then installAll s h wanted else pure ()) fun cs v =>
      v = .ok () ∧ IntegrationPhase h wanted skip cs := by
  cases skip with
  | true => exact .pure ⟨rfl, .skipped⟩
  | false => exact (installAll_ensures s h wanted).mono fun cs v ⟨hv, ha⟩ => ⟨hv, .run ha⟩

/-- The phases of an installation before the integrations. They end in what the integrations are
for: the host and the wanted recipes. -/
def prepare (p : Plan) : Installing σ (Host × List Recipe) := do
  let host ← if p.skipDiscovery then pure none else some <$> discover s
  let h := host.getD .unknown
  let wanted ← acquire s host p.selection
  if !p.skipAgent then installAgent s host h
  if !p.skipLogging then installLogging s host h wanted
  return (h, wanted)

/-- The integrations, unless they are left out. -/
def integrate (p : Plan) (h : Host) (wanted : List Recipe) : Installing σ Unit :=
  if !p.skipIntegrations then installAll s h wanted else pure ()

/-- The phases are the preparation and then the integrations. -/
theorem phases_eq (p : Plan) : phases s p = prepare s p >>= fun a => integrate s p a.1 a.2 := by
  unfold phases prepare integrate
  cases p.skipDiscovery <;> cases p.skipAgent <;> cases p.skipLogging <;>
    cases p.skipIntegrations <;> simp

/-- The phases before the integrations make the calls of each, in order. -/
theorem prepare_ensures (p : Plan) : Ensures s (prepare s p) fun cs v =>
    ∃ D A I L, cs = D ++ A ++ I ++ L ∧ Prepared p D A I L v := by
  refine .ite_bind (.bind (discovery_ensures s p.skipDiscovery) ?_ ?_)
  · intro D host hD
    refine .bind (acquire_ensures s p host) ?_ ?_
    · intro A wanted hA
      refine .when_bind (.bind (agent_ensures s p.skipAgent host _) ?_ ?_)
      · intro I _ hI
        refine .when_bind (.bind (logging_ensures s p.skipLogging host _ wanted) ?_ ?_)
        · intro L _ hL
          exact .pure ⟨D, A, I, L, by simp, .ready hD hA hI hL⟩
        · intro L e hL
          exact ⟨D, A, I, L, by simp, .failed (.noLogging hD hA hI hL)⟩
      · intro I e hI
        exact ⟨D, A, I, [], by simp, .failed (.noAgent hD hA hI)⟩
    · intro A e hA
      exact ⟨D, A, [], [], by simp, .failed (.noRecipes hD hA)⟩
  · intro D e hD
    exact ⟨D, [], [], [], by simp, .failed (.noHost hD)⟩

/-- The calls of the five phases of a plan, one phase after the other. -/
def InPhases (p : Plan) (cs : List Call) (v : Except Failure Unit) : Prop :=
  ∃ D A I L G, cs = D ++ A ++ I ++ L ++ G ∧ Phases p D A I L G v

/-- The phases of an installation make the calls of each, in order. -/
theorem phases_ensures (p : Plan) : Ensures s (phases s p) (InPhases p) := by
  rw [phases_eq]
  refine .bind (prepare_ensures s p) ?_ ?_
  · rintro _ _ ⟨D, A, I, L, rfl, hp⟩
    cases hp with
    | ready hD hA hI hL =>
      refine (integrations_ensures s p.skipIntegrations _ _).mono ?_
      rintro G _ ⟨rfl, hG⟩
      exact ⟨D, A, I, L, G, rfl, .done hD hA hI hL hG⟩
  · rintro _ _ ⟨D, A, I, L, rfl, hp⟩
    cases hp with
    | failed h => exact ⟨D, A, I, L, [], by simp, h⟩

/-- A whole installation goes through its phases. -/
theorem install_ensures (p : Plan) : Ensures s (install s p) (InPhases p) := by
  refine .present_bind (.bind (phases_ensures s p) ?_ ?_)
  · rintro cs _ h
    exact .present (cs.append_nil.symm ▸ h)
  · exact fun _ _ h => h

/-- The calls of an installation are those of discovery, acquisition, the agent, logging and the
integrations, one after the other. Discovery is one question unless it is left out; acquisition
keeps to files, to names or to recommendations; the agent and logging begin with looking up their
recipes unless they are left out; and what comes after a phase that failed is empty, while the
installation fails as that phase did. -/
theorem install_phases (p : Plan) (w : σ) : ∃ D A I L G : List Call,
    calls (install s p) w = D ++ A ++ I ++ L ++ G ∧
    Phases p D A I L G (install s p w).value ∧
    (p.skipDiscovery = true ∧ D = [] ∨ p.skipDiscovery = false ∧ ∃ a, D = [.discover a]) ∧
    ((p.paths ≠ [] ∧ ∀ c ∈ A, c.readsFile = true) ∨
      (p.paths = [] ∧ p.names ≠ [] ∧ A.map Call.soughtName? = p.names.map some) ∨
      (p.paths = [] ∧ p.names = [] ∧ ((∃ host e, A = [.recommend host (.error e)]) ∨
        ∃ host rs noted, A = [.recommend host (.ok rs), .report (.available rs) noted])) ∨
      A = [] ∧ I = [] ∧ L = [] ∧ G = [] ∧ ∃ e, (install s p w).value = .error e) ∧
    (p.skipAgent = true ∧ I = [] ∨
      (p.skipAgent = false ∧ ∃ host a cs, I = .findRecipe host agentRecipe a :: cs) ∨
      I = [] ∧ L = [] ∧ G = [] ∧ ∃ e, (install s p w).value = .error e) ∧
    (p.skipLogging = true ∧ L = [] ∨
      (p.skipLogging = false ∧ ∃ host a cs, L = .findRecipe host loggingRecipe a :: cs) ∨
      L = [] ∧ G = [] ∧ ∃ e, (install s p w).value = .error e) ∧
    (p.skipIntegrations = true → G = []) ∧
    (∀ e, (install s p w).value = .error e → G = []) := by
  obtain ⟨D, A, I, L, G, hc, h⟩ := (install_ensures s p w).2
  obtain ⟨d, hD⟩ := h.discovery
  refine ⟨D, A, I, L, G, hc, h, hD.calls_eq, ?_, ?_, ?_, fun hs => ?_, fun e he => ?_⟩
  · rcases h.acquisition with ⟨host, a, hA⟩ | hf
    · rcases hA.family with hp | hn | ⟨hp, hn, ⟨e, hA⟩ | ⟨rs, noted, hA⟩⟩
      · exact .inl hp
      · exact .inr (.inl hn)
      · exact .inr (.inr (.inl ⟨hp, hn, .inl ⟨host, e, hA⟩⟩))
      · exact .inr (.inr (.inl ⟨hp, hn, .inr ⟨host, rs, noted, hA⟩⟩))
    · exact .inr (.inr (.inr hf))
  · rcases h.agent with ⟨host, i, hI⟩ | hf
    · exact hI.calls_eq.imp id fun ⟨hs, a, cs, hI⟩ => .inl ⟨hs, host, a, cs, hI⟩
    · exact .inr (.inr hf)
  · rcases h.logging with ⟨host, wanted, l, hL⟩ | hf
    · exact hL.calls_eq.imp id fun ⟨hs, a, cs, hL⟩ => .inl ⟨hs, host, a, cs, hL⟩
    · exact .inr (.inr hf)
  · rcases h.integrations with ⟨-, h, wanted, hG⟩ | ⟨hG, -⟩
    · rw [hs] at hG
      cases hG
      rfl
    · exact hG
  · rcases h.integrations with ⟨hv, -⟩ | ⟨hG, -⟩
    · rw [hv] at he
      cases he
    · exact hG

end Installing

end Provision
