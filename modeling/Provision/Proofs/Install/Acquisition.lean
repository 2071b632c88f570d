import Provision.Proofs.Install.Decided

/-!
# Recipe files are acquired all or not at all

The recipe files of a plan are read one after the other, up to the first that cannot be read or is
no recipe (`AllOrNothing`). If there is none, the recipes are those of the files, one for each name,
in order. If there is one, the run has made no other calls than discovery and the readings up to it,
and fails as that file did (`Installing.install_files`).
-/

namespace Provision

variable {σ : Type}

/-! ## Reading one file -/

/-- A recipe file that was named, and what came of reading it. -/
structure Reading where
  named : String
  answer : Except Failure Draft

namespace Reading

/-- The call that reads a file: it is fetched if its name is an address, else loaded. -/
def call (r : Reading) : Call :=
  match Location.ofText r.named with
  | .url u => .fetchFile u r.answer
  | .path path => .loadFile path r.answer

/-- The recipe of a file, or why the installation fails with it. -/
def result (r : Reading) : Except Failure Recipe :=
  match r.answer, Location.ofText r.named with
  | .ok d, _ => d.check
  | .error e, .url _ => .error (.fetching r.named e.message)
  | .error e, .path _ => .error (.loading r.named e.message)

/-- Why an installation fails with a file: it could not be read, and the failure has the file as it
was named, or it is no recipe, and the failure has the name in the file. -/
inductive Fails : Reading → Failure → Prop
  | fetching {named : String} {u : Url} (hl : Location.ofText named = .url u) (e : Failure) :
      Fails ⟨named, .error e⟩ (.fetching named e.message)
  | loading {named path : String} (hl : Location.ofText named = .path path) (e : Failure) :
      Fails ⟨named, .error e⟩ (.loading named e.message)
  | invalid {named : String} {d : Draft} {reason : String}
      (hd : d.check = .error (.invalidRecipe d.name reason)) :
      Fails ⟨named, .ok d⟩ (.invalidRecipe d.name reason)

/-- A file that is no recipe fails with the name in it. -/
theorem check_eq_error {d : Draft} {e : Failure} (h : d.check = .error e) :
    ∃ reason, e = .invalidRecipe d.name reason := by
  unfold Draft.check at h
  split at h
  · cases h
    exact ⟨_, rfl⟩
  · split at h
    · cases h
      exact ⟨_, rfl⟩
    · cases h

/-- A reading fails with what its result fails with. -/
theorem fails_iff {r : Reading} {e : Failure} : r.Fails e ↔ r.result = .error e := by
  obtain ⟨named, answer⟩ := r
  constructor
  · intro h
    cases h with
    | fetching hl | loading hl => simp only [result, hl]
    | invalid hd => exact hd
  · intro h
    cases answer with
    | ok d =>
      have hd : d.check = .error e := h
      obtain ⟨reason, rfl⟩ := check_eq_error hd
      exact .invalid hd
    | error problem =>
      cases hl : Location.ofText named with
      | url u =>
        simp only [result, hl] at h
        cases h
        exact .fetching hl problem
      | path path =>
        simp only [result, hl] at h
        cases h
        exact .loading hl problem

end Reading

/-- A draft that was read is the answer to the call that reads the file. -/
theorem DraftRead.reading {named : String} {c : Call} {d : Except Failure Draft}
    (h : DraftRead named c d) : ∃ answer, c = (Reading.mk named answer).call ∧
      (Reading.mk named answer).result = d.bind Draft.check := by
  cases h with
  | fetched hl d => exact ⟨.ok d, by simp only [Reading.call, hl], rfl⟩
  | loaded hl d => exact ⟨.ok d, by simp only [Reading.call, hl], rfl⟩
  | notFetched hl e | notLoaded hl e =>
    refine ⟨.error e, by simp only [Reading.call, hl], ?_⟩
    simp only [Reading.result, hl, Except.bind]

/-! ## Reading files one after the other -/

/-- The calls that read recipe files, and what comes of them: the recipes of all files in order, or
the failure of the first one that fails, after which nothing is read. -/
inductive AllOrNothing (paths : List String) : List Call → Except Failure (List Recipe) → Prop
  | all (rs : List Reading) {recipes : List Recipe} (hnamed : paths = rs.map Reading.named)
      (hall : rs.map Reading.result = recipes.map Except.ok) :
      AllOrNothing paths (rs.map Reading.call) (.ok recipes)
  | nothing (before : List Reading) {last : Reading} {rest : List String} {e : Failure}
      (hnamed : paths = before.map Reading.named ++ last.named :: rest)
      (hbefore : ∀ r ∈ before, ∃ recipe, r.result = .ok recipe) (hlast : last.Fails e) :
      AllOrNothing paths (before.map Reading.call ++ [last.call]) (.error e)

/-- One more file that is a recipe, before the others. -/
theorem AllOrNothing.cons {paths : List String} {cs : List Call}
    {v : Except Failure (List Recipe)} (h : AllOrNothing paths cs v) {r : Reading} {recipe : Recipe}
    (hr : r.result = .ok recipe) :
    AllOrNothing (r.named :: paths) (r.call :: cs) (v.map (recipe :: ·)) := by
  cases h with
  | all rs hnamed hall =>
    exact .all (r :: _) (by rw [hnamed]; rfl) (by rw [List.map_cons, hr, hall]; rfl)
  | nothing before hnamed hbefore hlast =>
    exact .nothing (r :: _) (by rw [hnamed]; rfl)
      (List.forall_mem_cons.2 ⟨⟨recipe, hr⟩, hbefore⟩) hlast

/-- Files are read all, or up to the first that fails. -/
theorem FilesRead.allOrNothing {paths : List String} {cs : List Call}
    {v : Except Failure (List Recipe)} (h : FilesRead paths cs v) : AllOrNothing paths cs v := by
  induction h with
  | nil => exact .all [] rfl rfl
  | unread rest hd =>
    obtain ⟨answer, rfl, hr⟩ := hd.reading
    exact .nothing [] rfl nofun (Reading.fails_iff.2 hr)
  | invalid rest hd hcheck =>
    obtain ⟨answer, rfl, hr⟩ := hd.reading
    exact .nothing [] rfl nofun (Reading.fails_iff.2 (hr.trans hcheck))
  | cons hd hcheck _ ih =>
    obtain ⟨answer, rfl, hr⟩ := hd.reading
    exact ih.cons (hr.trans hcheck)

/-! ## After the files -/

/-- Whether a call may be made once the recipes are acquired: no recipe file is read any more, and
log files are only searched for these recipes. -/
def Call.Follows (wanted : List Recipe) : Call → Prop
  | loadFile .. | fetchFile .. => False
  | findLogs recipes _ => recipes = wanted
  | _ => True

section
variable {wanted : List Recipe}

/-- Looking up a recipe may come after the files. -/
theorem Looked.follows {host : Option Host} {name : String} {c : Call} {v : Except Failure Recipe}
    (h : Looked host name c v) : c.Follows wanted := by
  cases h <;> trivial

/-- The calls of an attempt may come after the files. -/
theorem Attempted.follows {h : Host} {r : Recipe} {cs : List Call} {v : Except Failure Bool}
    (ha : Attempted h r cs v) : ∀ c ∈ cs, c.Follows wanted := by
  cases ha with
  | intro he =>
    refine List.forall_mem_cons.2 ⟨trivial, ?_⟩
    cases he with
    | failed => exact fun c hc => List.mem_singleton.1 hc ▸ trivial
    | blank => exact fun _ hc => nomatch hc
    | broken | unconfirmed | confirmed =>
      exact List.forall_mem_cons.2 ⟨trivial, fun c hc => List.mem_singleton.1 hc ▸ trivial⟩

/-- The calls of the agent may come after the files. -/
theorem AgentPhase.follows {host : Option Host} {h : Host} {skip : Bool} {I : List Call}
    {v : Except Failure Unit} (hI : AgentPhase host h skip I v) : ∀ c ∈ I, c.Follows wanted := by
  cases hI with
  | skipped => exact fun _ hc => nomatch hc
  | unknown hl => exact fun c hc => List.mem_singleton.1 hc ▸ hl.follows
  | attempted hl ha => exact List.forall_mem_cons.2 ⟨hl.follows, ha.follows⟩

/-- The questions to the operator may come after the files. -/
theorem Consented.follows {found ws : List LogWatch} {cs : List Call} (h : Consented found cs ws) :
    ∀ c ∈ cs, c.Follows wanted := by
  induction h with
  | nil => exact fun _ hc => nomatch hc
  | accepted _ _ ih | declined _ _ _ ih => exact List.forall_mem_cons.2 ⟨trivial, ih⟩

/-- The calls of the logging may come after the files. -/
theorem LoggingPhase.follows {host : Option Host} {h : Host} {skip : Bool} {L : List Call}
    {v : Except Failure Unit} (hL : LoggingPhase host h wanted skip L v) :
    ∀ c ∈ L, c.Follows wanted := by
  cases hL with
  | skipped => exact fun _ hc => nomatch hc
  | unknown hl => exact fun c hc => List.mem_singleton.1 hc ▸ hl.follows
  | unsearched hl _ =>
    exact List.forall_mem_cons.2 ⟨hl.follows, fun c hc => List.mem_singleton.1 hc ▸ rfl⟩
  | attempted hl hc ha =>
    refine List.forall_mem_cons.2 ⟨hl.follows, List.forall_mem_cons.2 ⟨rfl, ?_⟩⟩
    exact List.forall_mem_append.2 ⟨hc.follows, ha.follows⟩

/-- The calls of attempts may come after the files. -/
theorem AllAttempted.follows {h : Host} {rs : List Recipe} {cs : List Call}
    (ha : AllAttempted h rs cs) : ∀ c ∈ cs, c.Follows wanted := by
  induction ha with
  | nil => exact fun _ hc => nomatch hc
  | cons ha _ ih => exact List.forall_mem_append.2 ⟨ha.follows, ih⟩

/-- The calls of the integrations may come after the files. -/
theorem IntegrationPhase.follows {h : Host} {rs : List Recipe} {skip : Bool} {G : List Call}
    (hG : IntegrationPhase h rs skip G) : ∀ c ∈ G, c.Follows wanted := by
  cases hG with
  | skipped => exact fun _ hc => nomatch hc
  | run ha => exact ha.follows

end

/-! ## The whole installation -/

/-- A plan with files acquires them all or not at all. -/
theorem AcquisitionPhase.allOrNothing {p : Plan} (hp : p.paths ≠ []) {host : Option Host}
    {A : List Call} {a : Except Failure (List Recipe)} (h : AcquisitionPhase p host A a) :
    AllOrNothing p.paths A a := by
  cases h with
  | files _ h => exact h.allOrNothing
  | named hnone | recommended hnone | notRecommended hnone => exact absurd hnone hp

namespace Installing

/-- An installation of recipe files acquires them all or not at all, by the answers of the services.
If one cannot be read or is no recipe, the run reads the files up to it, each once and in order,
asks for nothing else after discovery, and fails as this file does. If all are recipes, no file is
read any more, log files are only searched for these recipes, and a run that goes well executes just
these in the end, unless the integrations are left out. -/
theorem install_files (s : Services σ) (p : Plan) (hp : p.paths ≠ []) :
    (∀ host w, AllOrNothing p.paths (calls (acquire s host p.selection) w)
      (acquire s host p.selection w).value) ∧
    ∀ w, Replays s w (install s p w).log (install s p w).world ∧
      ∃ D d, DiscoveryPhase p.skipDiscovery D d ∧
      ((∃ e, d = .error e ∧ calls (install s p) w = D ∧ (install s p w).value = .error e) ∨
        (∃ host A e, d = .ok host ∧ AllOrNothing p.paths A (.error e) ∧
          calls (install s p) w = D ++ A ∧ (install s p w).value = .error e) ∨
        ∃ host A recipes rest, d = .ok host ∧ AllOrNothing p.paths A (.ok recipes) ∧
          calls (install s p) w = D ++ A ++ rest ∧ (∀ c ∈ rest, c.Follows recipes) ∧
          ((install s p w).value = .ok () → ∃ B G, rest = B ++ G ∧
            G.filterMap Call.executed? =
              if p.skipIntegrations then [] else recipes.map (host.getD .unknown, ·))) := by
  refine ⟨fun host w => (acquire_ensures s p host w).2.allOrNothing hp, fun w => ?_⟩
  obtain ⟨hreplays, D, A, I, L, G, hcalls, hphases⟩ := install_ensures s p w
  refine ⟨hreplays, ?_⟩
  rw [hcalls]
  generalize (install s p w).value = v at hphases
  cases hphases with
  | noHost hD => exact ⟨D, _, hD, .inl ⟨_, rfl, by simp, rfl⟩⟩
  | noRecipes hD hA =>
    exact ⟨D, _, hD, .inr (.inl ⟨_, A, _, rfl, hA.allOrNothing hp, by simp, rfl⟩)⟩
  | noAgent hD hA hI =>
    refine ⟨D, _, hD, .inr (.inr ⟨_, A, _, I, rfl, hA.allOrNothing hp, by simp, ?_, nofun⟩)⟩
    exact hI.follows
  | noLogging hD hA hI hL =>
    refine ⟨D, _, hD, .inr (.inr ⟨_, A, _, I ++ L, rfl, hA.allOrNothing hp, by simp, ?_, nofun⟩)⟩
    exact List.forall_mem_append.2 ⟨hI.follows, hL.follows⟩
  | done hD hA hI hL hG =>
    refine ⟨D, _, hD, .inr (.inr ⟨_, A, _, (I ++ L) ++ G, rfl, hA.allOrNothing hp, by simp, ?_,
      fun _ => ⟨I ++ L, G, rfl, hG.executed⟩⟩)⟩
    exact List.forall_mem_append.2 ⟨List.forall_mem_append.2 ⟨hI.follows, hL.follows⟩, hG.follows⟩

/-- A file that cannot be read is the end. -/
theorem install_files_unread :
    let p : Plan := ⟨["a.yml", "b.yml"], [], true, true, true, true, 0⟩
    p.paths ≠ [] ∧ AllOrNothing p.paths [.loadFile "a.yml" (.error .cancelled)]
      (.error (.loading "a.yml" "Operation cancelled")) := by
  intro p
  have hp : p.paths ≠ [] := by decide
  exact ⟨hp, (install_files Services.interrupted p hp).1 none ()⟩

end Installing

end Provision
