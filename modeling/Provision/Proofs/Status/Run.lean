import Provision.Install.Local
import Provision.Proofs.Install.Trials

/-!
# The status of a run

An installation may report to a status file (`Services.withStatusFile`), as that of a machine does
(`Services.ofMachineWith_eq`). Then the list in memory is at any moment that of what was reported so
far (`Replays.file`), whatever becomes of saving it. With what is known of the reports of a run this
fixes the entry of every recipe (`Installing.install_status`).
-/

namespace Provision

variable {τ : Type}

/-! ## Services that report to a status file -/

/-- Work on a world beside a status file. -/
def besideFile {α : Type} (x : Action τ α) : Action (τ × StatusFile) α :=
  Work.zoom Prod.fst (fun w v => (w, v.2)) x

/-- Services whose reports go to a status file, which they have a way to save. -/
def Services.withStatusFile (s : Services τ) (save : String → StatusList → Action τ Unit) :
    Services (τ × StatusFile) where
  discover := besideFile s.discover
  loadFile path := besideFile (s.loadFile path)
  fetchFile url := besideFile (s.fetchFile url)
  findRecipe host name := besideFile (s.findRecipe host name)
  recommend host := besideFile (s.recommend host)
  findLogs recipes := besideFile (s.findLogs recipes)
  confirm watch := besideFile (s.confirm watch)
  execute host recipe := besideFile (s.execute host recipe)
  validate host recipe := besideFile (s.validate host recipe)
  report := StatusFile.reportWith save

/-- The services of a machine report to a status file, whatever is outside the program. -/
theorem Services.ofMachineWith_eq (outside : Outside) (p : Profile) (catalog : Catalog) :
    ∃ s : Services Machine, ofMachineWith outside p catalog = s.withStatusFile StatusFile.write :=
  ⟨{  discover := Machine.discover
      loadFile := Recipe.loadFile
      fetchFile := Recipe.fetchFile
      findRecipe := fun _ name => catalog.find name
      recommend := catalog.recommend
      findLogs := LogFiles.filter
      confirm := askOperator outside.operator
      execute := Execution.run outside.launch p
      validate := Validation.run p patience (Validation.askServer outside.server p)
      report := fun _ => pure () }, rfl⟩

section
variable {s : Services τ} {save : String → StatusList → Action τ Unit}

/-- A call changes the list in memory by what it reports, and nothing else of the status file. -/
theorem Services.Gives.file {w w' : τ × StatusFile} {c : Call} {os : List Output}
    (h : (s.withStatusFile save).Gives w c os w') :
    w'.2 = ⟨w.2.path, c.mentions.foldl StatusList.mention w.2.list⟩ := by
  cases h with
  | report r => exact congrArg (StatusFile.mk w.2.path) (w.2.list.update_eq r)
  | _ => rfl

/-- At the end of a journal the list in memory has taken note of all that was reported. -/
theorem Replays.file {w w' : τ × StatusFile} {l : List Entry}
    (h : Replays (s.withStatusFile save) w l w') :
    w'.2 = ⟨w.2.path, (mentionsIn (callsOf l)).foldl StatusList.mention w.2.list⟩ := by
  induction h with
  | nil => rfl
  | shown o h ih => exact ih
  | call hc h ih => rw [ih, hc.file, callsOf_call, mentionsIn_cons, List.foldl_append]

end

/-! ## The entries at the end of a run -/

/-- The entry of a name in the list of a run: its state, its error and its entity are those of the
latest verdict on the name, and without a verdict those of a recommendation. -/
theorem Phases.find?_statuses {p : Plan} {D A I L G : List Call} {v : Except Failure Unit}
    (h : Phases p D A I L G v) {cs : List Call} (hcs : cs = D ++ A ++ I ++ L ++ G) (n : String) :
    ((StatusList.ofMentions (mentionsIn cs)).statuses.find? (·.name = n)).map
        (fun e => (e.state, e.error, e.entity)) =
      ((latestVerdict n (trials cs)).or (if n ∈ (recommendedIn cs).map Recipe.name
        then some ⟨.available, "", ""⟩ else none)).map
          fun v => (v.state, textUnlessEmpty v.message, textUnlessEmpty v.entity) := by
  rw [hcs, ← h.latest_mentionsIn, StatusList.find?_ofMentions, Option.map_map, Option.map_map]
  rfl

/-- A recipe that a list shows as installed was confirmed by a validation. -/
theorem Episodes.confirmed_of_installed {b : Bool} {cs ds : List Call}
    (h : Episodes b (cs ++ ds)) {e : RecipeStatus}
    (he : e ∈ (StatusList.ofMentions (mentionsIn cs)).statuses) (hs : e.state = .installed) :
    ∃ host r v, .validate host r (.ok v) ∈ cs ∧ r.name = e.name ∧ v.confirmed = true := by
  obtain ⟨m, hm, rfl⟩ := StatusList.latest_of_mem he
  obtain ⟨c, hc, hmc⟩ := List.mem_flatMap.1 (Mention.mem_of_latest hm).1
  obtain ⟨pre, post, rfl⟩ := List.append_of_mem hc
  rw [List.append_assoc] at h
  cases c with
  | report r noted =>
    cases r with
    | available rs =>
      obtain ⟨r, -, rfl⟩ := List.mem_map.1 hmc
      cases hs
    | failed r message entity =>
      cases List.mem_singleton.1 hmc
      cases hs
    | installed r message entity =>
      cases List.mem_singleton.1 hmc
      obtain ⟨⟨pre', host, v, rfl, hv, -⟩, -⟩ := h.of_installed rfl
      exact ⟨host, r, v, by simp, rfl, hv⟩
  | _ => cases hmc

/-- What a list shows of the recipe of a name, by the latest verdict on it and by whether it was
recommended. -/
structure Shows (entry : Option RecipeStatus) (verdict : Option Verdict) (offered : Prop) :
    Prop where
  installed : (∃ e ∈ entry, e.state = .installed) ↔ ∃ v ∈ verdict, v.state = .installed
  failed : (∃ e ∈ entry, e.state = .failed) ↔ ∃ v ∈ verdict, v.state = .failed
  available : (∃ e ∈ entry, e.state = .available) ↔ verdict = none ∧ offered
  absent : entry = none ↔ verdict = none ∧ ¬ offered
  noError : ∀ e ∈ entry, e.state = .installed → e.error = none
  error : ∀ e ∈ entry, ∀ v ∈ verdict, v.state = .failed → e.error = some v.message
  entity : ∀ e ∈ entry, ∀ v ∈ verdict,
    e.entity = if v.entity = "" then none else some v.entity

/-- The list shows just what the equation of `Phases.find?_statuses` gives. -/
theorem Shows.of_map_eq {entry : Option RecipeStatus} {n : String} {ts : List Trial}
    {offered : Prop} [Decidable offered]
    (h : entry.map (fun e => (e.state, e.error, e.entity)) =
      ((latestVerdict n ts).or (if offered then some ⟨.available, "", ""⟩ else none)).map
        fun v => (v.state, textUnlessEmpty v.message, textUnlessEmpty v.entity)) :
    Shows entry (latestVerdict n ts) offered := by
  cases hv : latestVerdict n ts with
  | some v =>
    have hcases : v.state = .installed ∧ v.message = "" ∨ v.state = .failed ∧ v.message ≠ "" := by
      obtain ⟨t, -, ht⟩ := List.mem_filterMap.1 (List.mem_of_getLast? hv)
      exact Trial.verdict?_cases ht
    rw [hv, Option.some_or, Option.map_some, Option.map_eq_some_iff] at h
    obtain ⟨e, rfl, he⟩ := h
    obtain ⟨hs, hm, hg⟩ : e.state = v.state ∧ e.error = textUnlessEmpty v.message ∧
      e.entity = textUnlessEmpty v.entity := by simpa using he
    rcases hcases with ⟨hstate, hmessage⟩ | ⟨hstate, hmessage⟩
    · constructor <;> simp [hs, hm, hg, hstate, hmessage, textUnlessEmpty]
    · constructor <;> simp [hs, hm, hg, hstate, hmessage, textUnlessEmpty]
  | none =>
    rw [hv, Option.none_or] at h
    by_cases ho : offered
    · rw [if_pos ho, Option.map_some, Option.map_eq_some_iff] at h
      obtain ⟨e, rfl, he⟩ := h
      have hs : e.state = .available := congrArg Prod.fst he
      constructor <;> simp [hs, ho]
    · rw [if_neg ho, Option.map_none, Option.map_eq_none_iff] at h
      subst h
      constructor <;> simp [ho]

namespace Installing

/-- The status of a run. At its end, however it ends, no two entries have one name, and the list
shows for every name the latest verdict of a trial of it: that it is installed with the entity of
the validation, or that it failed with the message; without a verdict, that it is available if it
was recommended, and else nothing. A trial is without a verdict just if the recipe ran and has no
query; then nothing is reported, and the status file stays as it was. And at no moment does the list
show a recipe as installed that no validation has confirmed. -/
theorem install_status (s : Services τ) (save : String → StatusList → Action τ Unit) (p : Plan)
    (path : String) (w : τ) :
    let services := s.withStatusFile save
    let start := (w, StatusFile.new path)
    let run := install services p start
    let cs := callsOf run.log
    (run.world.2.list.statuses.map RecipeStatus.name).Nodup ∧
    (∀ n, Shows (run.world.2.list.statuses.find? (·.name = n)) (latestVerdict n (trials cs))
      (n ∈ (recommendedIn cs).map Recipe.name)) ∧
    (∀ t ∈ trials cs,
      t.verdict? = none ↔ t.executed = .ok () ∧ Text.isBlank t.recipe.query = true) ∧
    (∀ pre host r shown post, run.log = pre ++ .call (.execute host r (.ok ())) shown :: post →
      Text.isBlank r.query = true →
      (∀ c ∈ (callsOf post).head?, c.isSequel = false) ∧
      ∃ w₁ w₂, Replays services start pre w₁ ∧
        services.Gives w₁ (.execute host r (.ok ())) shown w₂ ∧
        Replays services w₂ post run.world ∧ w₂.2 = w₁.2) ∧
    (∀ pre post, run.log = pre ++ post →
      ∃ w₁, Replays services start pre w₁ ∧ Replays services w₁ post run.world ∧
        ∀ e ∈ w₁.2.list.statuses, e.state = .installed →
          ∃ host r v, .validate host r (.ok v) ∈ callsOf pre ∧ r.name = e.name ∧
            v.confirmed = true) := by
  intro services start run cs
  obtain ⟨hj, D, A, I, L, G, hc, h⟩ := install_ensures services p start
  have hcs : cs = D ++ A ++ I ++ L ++ G := hc
  have hepisodes : Episodes true cs := hcs ▸ h.episodes
  have hlist : run.world.2.list = .ofMentions (mentionsIn cs) := by
    rw [hj.file]
    rfl
  refine ⟨?_, ?_, hepisodes.trials_sound.1, ?_, ?_⟩
  · rw [hlist]
    exact StatusList.nodup_names _
  · intro n
    rw [hlist]
    exact .of_map_eq (h.find?_statuses hcs n)
  · intro pre host r shown post hlog hq
    have hcut : cs = callsOf pre ++ .execute host r (.ok ()) :: callsOf post := by
      simp only [cs, hlog, callsOf_append, callsOf_call]
    obtain ⟨events, rest, v, hrest, he, hsequel⟩ := hepisodes.of_execute hcut
    have hevents : events = [] := by
      cases he with
      | blank => rfl
      | broken hq' | unconfirmed hq' | confirmed hq' => exact absurd hq (by simp [hq'])
    rw [hevents, List.nil_append] at hrest
    refine ⟨hrest ▸ hsequel, ?_⟩
    rw [hlog] at hj
    obtain ⟨w₁, hpre, hpost⟩ := hj.split
    cases hpost with
    | call hgives hpost => exact ⟨w₁, _, hpre, hgives, hpost, hgives.file⟩
  · intro pre post hlog
    rw [hlog] at hj
    obtain ⟨w₁, hpre, hpost⟩ := hj.split
    refine ⟨w₁, hpre, hpost, fun e he hs => ?_⟩
    have hcut : cs = callsOf pre ++ callsOf post := by simp only [cs, hlog, callsOf_append]
    have hmoment : w₁.2.list = .ofMentions (mentionsIn (callsOf pre)) := by
      rw [hpre.file]
      rfl
    rw [hmoment] at he
    exact Episodes.confirmed_of_installed (hcut ▸ hepisodes) he hs

end Installing

end Provision
