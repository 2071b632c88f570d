import Provision.Proofs.Install.Episodes
import Provision.Proofs.Status.Latest

/-!
# Trials and what is reported of them

The calls of a run tell which recipes were tried and how each trial went (`trials`). A trial has a
verdict unless its recipe ran and was not validated (`Trial.verdict?`). What a run reports is fixed
by its trials: first the recipes that were recommended, if any, as available, and then the verdicts
of the trials in order (`Phases.mentionsIn_eq`). So the latest mention of a recipe is the latest
verdict on it, and without one a recommendation (`latest_mentionsIn`).
-/

namespace Provision

/-! ## What calls report and recommend -/

/-- What a call reports. -/
def Call.mentions : Call → List Mention
  | report r _ => r.mentions
  | _ => []

/-- What calls report, in order. -/
def mentionsIn (cs : List Call) : List Mention := cs.flatMap Call.mentions

/-- No calls mention nothing. -/
@[simp] theorem mentionsIn_nil : mentionsIn [] = [] := rfl

/-- The mentions of the first call come before those of the others. -/
@[simp] theorem mentionsIn_cons (c : Call) (cs : List Call) :
    mentionsIn (c :: cs) = c.mentions ++ mentionsIn cs := rfl

/-- The mentions of some calls come before those of later ones. -/
@[simp] theorem mentionsIn_append (cs ds : List Call) :
    mentionsIn (cs ++ ds) = mentionsIn cs ++ mentionsIn ds := List.flatMap_append

/-- The recipes that a call recommends. -/
def Call.recommends : Call → List Recipe
  | recommend _ (.ok rs) => rs
  | _ => []

/-- The recipes that calls recommend. -/
def recommendedIn (cs : List Call) : List Recipe := cs.flatMap Call.recommends

/-- What the first call recommends comes before what the others do. -/
@[simp] theorem recommendedIn_cons (c : Call) (cs : List Call) :
    recommendedIn (c :: cs) = c.recommends ++ recommendedIn cs := rfl

/-- What some calls recommend comes before what later ones do. -/
@[simp] theorem recommendedIn_append (cs ds : List Call) :
    recommendedIn (cs ++ ds) = recommendedIn cs ++ recommendedIn ds := List.flatMap_append

/-! ## Trials -/

/-- A trial of a recipe: how its execution went, and how its validation went if there was one. -/
structure Trial where
  recipe : Recipe
  executed : Except Failure Unit
  validated : Option (Except Failure Validation)

/-- The answer of a validation. -/
def Call.validated? : Call → Option (Except Failure Validation)
  | validate _ _ a => some a
  | _ => none

/-- The trials that calls make, in order. -/
def trials : List Call → List Trial
  | [] => []
  | .execute _ r a :: cs => ⟨r, a, cs.head?.bind Call.validated?⟩ :: trials cs
  | _ :: cs => trials cs

/-- What is found of a recipe: the state, the message and the entity that are reported. -/
structure Verdict where
  state : RecipeState
  message : String
  entity : String
  deriving DecidableEq

/-- The verdict of a trial, if it has one. -/
def Trial.verdict? (t : Trial) : Option Verdict :=
  match t.executed, t.validated with
  | .error e, _ =>
    some ⟨.failed, "encountered an error while executing " ++ t.recipe.name ++ ": " ++
      e.message, ""⟩
  | .ok (), none => none
  | .ok (), some (.error e) =>
    some ⟨.failed, "encountered an error while validating receipt of data for " ++ t.recipe.name ++
      ": " ++ e.message, ""⟩
  | .ok (), some (.ok v) =>
    if v.confirmed then some ⟨.installed, "", v.entity⟩
    else some ⟨.failed, "could not validate recipe data", v.entity⟩

/-- A verdict is that a recipe is installed, without a message, or that it failed, with one. -/
theorem Trial.verdict?_cases {t : Trial} {v : Verdict} (h : t.verdict? = some v) :
    v.state = .installed ∧ v.message = "" ∨ v.state = .failed ∧ v.message ≠ "" := by
  unfold Trial.verdict? at h
  split at h
  · cases h; exact .inr ⟨rfl, by simp⟩
  · cases h
  · cases h; exact .inr ⟨rfl, by simp⟩
  · split at h
    · cases h; exact .inl ⟨rfl, rfl⟩
    · cases h; exact .inr ⟨rfl, by simp⟩

/-- The latest verdict on a recipe of a name. -/
def latestVerdict (n : String) (ts : List Trial) : Option Verdict :=
  ((ts.filter (·.recipe.name = n)).filterMap Trial.verdict?).getLast?

/-- What is reported of a recipe. -/
def Verdict.mention (r : Recipe) (v : Verdict) : Mention := ⟨r, v.state, v.message, v.entity⟩

/-- What is reported of a trial. -/
def Trial.mention? (t : Trial) : Option Mention := t.verdict?.map (Verdict.mention t.recipe)

/-- What a mention says of its recipe. -/
def Mention.verdict (m : Mention) : Verdict := ⟨m.state, m.message, m.entity⟩

/-- The mention of a recipe that is recommended. -/
def Recipe.offered (r : Recipe) : Mention := ⟨r, .available, "", ""⟩

/-! ## What trials report -/

/-- Calls that execute nothing make no trials. -/
theorem trials_append {cs : List Call} (h : ∀ c ∈ cs, c.isExecution = false) (ds : List Call) :
    trials (cs ++ ds) = trials ds := by
  induction cs with
  | nil => rfl
  | cons c cs ih =>
    have hc := h c List.mem_cons_self
    have hcs := ih fun d hd => h d (List.mem_cons_of_mem _ hd)
    cases c <;> first | exact hcs | cases hc

/-- A trial is without a verdict just if its recipe ran and has no query. -/
def Trial.Sound (t : Trial) : Prop :=
  t.verdict? = none ↔ t.executed = .ok () ∧ Text.isBlank t.recipe.query = true

/-- An attempt is one trial, and reports its verdict. -/
theorem Attempted.trials_append {h : Host} {r : Recipe} {cs ds : List Call}
    {v : Except Failure Bool} (ha : Attempted h r cs v)
    (hd : ∀ c ∈ ds.head?, c.isSequel = false) :
    ∃ t : Trial, t.Sound ∧ trials (cs ++ ds) = t :: trials ds ∧
      mentionsIn cs = t.mention?.toList ∧ recommendedIn cs = [] := by
  cases ha with
  | intro he =>
    cases he with
    | failed e noted =>
      exact ⟨⟨r, .error e, none⟩, by simp [Trial.Sound, Trial.verdict?], rfl, rfl, rfl⟩
    | blank hq =>
      -- A validation would be the next call, but that one belongs to another episode.
      have hnone : ds.head?.bind Call.validated? = none := by
        rw [Option.bind_eq_none_iff]
        intro c hc
        have hs := hd c hc
        cases c <;> first | rfl | cases hs
      refine ⟨⟨r, .ok (), none⟩, by simp [Trial.Sound, Trial.verdict?, hq], ?_, rfl, rfl⟩
      rw [List.singleton_append, trials, hnone]
    | broken hq e noted =>
      exact ⟨⟨r, .ok (), some (.error e)⟩, by simp [Trial.Sound, Trial.verdict?, hq], rfl, rfl, rfl⟩
    | unconfirmed hq v hv noted =>
      have hsound : Trial.Sound ⟨r, .ok (), some (.ok v)⟩ := by
        simp [Trial.Sound, Trial.verdict?, hq, hv]
      refine ⟨_, hsound, rfl, ?_, rfl⟩
      simp [Trial.mention?, Trial.verdict?, hv, Verdict.mention, Call.mentions, Report.mentions]
    | confirmed hq v hv noted =>
      have hsound : Trial.Sound ⟨r, .ok (), some (.ok v)⟩ := by
        simp [Trial.Sound, Trial.verdict?, hq, hv]
      refine ⟨_, hsound, rfl, ?_, rfl⟩
      simp [Trial.mention?, Trial.verdict?, hv, Verdict.mention, Call.mentions, Report.mentions]

/-- A plain call neither reports nor recommends nor executes. -/
theorem Call.isPlain_mentions {c : Call} (h : c.isPlain = true) :
    c.mentions = [] ∧ c.recommends = [] ∧ c.isExecution = false := by
  cases c with
  | recommend host a =>
    cases a with
    | error e => exact ⟨rfl, rfl, rfl⟩
    | ok rs => cases h
  | execute | validate | report => cases h
  | _ => exact ⟨rfl, rfl, rfl⟩

/-- Every trial of a run is sound; and where nothing is recommended, what is reported are the
verdicts of the trials. -/
theorem Episodes.trials_sound {b : Bool} {cs : List Call} (h : Episodes b cs) :
    (∀ t ∈ trials cs, t.Sound) ∧ (b = false →
      mentionsIn cs = (trials cs).filterMap Trial.mention? ∧ recommendedIn cs = []) := by
  induction h with
  | nil => exact ⟨(fun _ ht => nomatch ht), fun _ => ⟨rfl, rfl⟩⟩
  | @plain _ c cs hc h ih =>
    obtain ⟨hm, hr, hx⟩ := Call.isPlain_mentions hc
    have ht : trials (c :: cs) = trials cs :=
      @trials_append [c] (fun d hd => List.mem_singleton.1 hd ▸ hx) cs
    rw [ht, mentionsIn_cons, recommendedIn_cons, hm, hr]
    exact ih
  | recommended host rs noted h ih => exact ⟨ih.1, nofun⟩
  | @attempted b host r cs ds v ha h ih =>
    have hd : ∀ c ∈ ds.head?, c.isSequel = false := by
      cases ds with
      | nil => exact fun _ hc => nomatch hc
      | cons d ds => exact fun c hc => Option.some.inj hc ▸ h.head_not_sequel
    obtain ⟨t, hsound, ht, hm, hr⟩ := ha.trials_append hd
    rw [ht, mentionsIn_append, recommendedIn_append, hm, hr]
    refine ⟨List.forall_mem_cons.2 ⟨hsound, ih.1⟩, fun hb => ?_⟩
    rw [(ih.2 hb).1, (ih.2 hb).2]
    refine ⟨?_, rfl⟩
    cases hv : t.mention? with
    | none => rw [List.filterMap_cons_none hv]; rfl
    | some m => rw [List.filterMap_cons_some hv]; rfl

/-- Where nothing is executed, what is reported is what is recommended. -/
theorem Episodes.offered {b : Bool} {cs : List Call} (h : Episodes b cs)
    (hx : ∀ c ∈ cs, c.isExecution = false) :
    mentionsIn cs = (recommendedIn cs).map Recipe.offered := by
  induction h with
  | nil => rfl
  | plain hc h ih =>
    obtain ⟨hm, hr, -⟩ := Call.isPlain_mentions hc
    rw [mentionsIn_cons, recommendedIn_cons, hm, hr]
    exact ih fun d hd => hx d (List.mem_cons_of_mem _ hd)
  | recommended host rs noted h ih =>
    have hcs := ih fun d hd => hx d (List.mem_cons_of_mem _ (List.mem_cons_of_mem _ hd))
    simp [Call.mentions, Report.mentions, Call.recommends, Recipe.offered, hcs]
  | attempted ha h ih =>
    cases ha with
    | intro he => cases hx _ List.mem_cons_self

section
variable {p : Plan} {D A I L G : List Call} {v : Except Failure Unit}

/-- Nothing is executed before the agent. -/
theorem Phases.preparation_executes (h : Phases p D A I L G v) :
    ∀ c ∈ D ++ A, c.isExecution = false := by
  intro c hc
  have := h.prepares c hc
  cases c <;> first | rfl | cases this

/-- A run reports what was recommended, and then the verdicts of its trials. -/
theorem Phases.mentionsIn_eq (h : Phases p D A I L G v) :
    mentionsIn (D ++ A ++ I ++ L ++ G) =
      (recommendedIn (D ++ A ++ I ++ L ++ G)).map Recipe.offered ++
        (trials (D ++ A ++ I ++ L ++ G)).filterMap Trial.mention? := by
  -- What comes before the agent only offers, and what comes after only tries.
  have hcs : D ++ A ++ I ++ L ++ G = (D ++ A) ++ (I ++ L ++ G) := by simp
  obtain ⟨hm, hr⟩ := (h.attempts (b := false)).trials_sound.2 rfl
  rw [hcs, mentionsIn_append, recommendedIn_append, trials_append h.preparation_executes, hm, hr,
    h.preparation.offered h.preparation_executes, List.append_nil]

end

/-! ## The latest mention of a recipe -/

/-- A trial is mentioned under the name of its recipe. -/
theorem Trial.mention?_name {t : Trial} {m : Mention} (h : t.mention? = some m) :
    m.name = t.recipe.name := by
  obtain ⟨v, -, rfl⟩ := Option.map_eq_some_iff.1 h
  rfl

/-- The verdict that is mentioned of a trial is its own. -/
theorem Trial.map_mention? (t : Trial) : t.mention?.map Mention.verdict = t.verdict? := by
  rw [Trial.mention?]
  cases t.verdict? <;> rfl

/-- The mentions of a name are those of the trials of recipes with that name. -/
theorem filter_filterMap_mention? (n : String) (ts : List Trial) :
    (ts.filterMap Trial.mention?).filter (·.name = n) =
      (ts.filter (·.recipe.name = n)).filterMap Trial.mention? := by
  induction ts with
  | nil => rfl
  | cons t ts ih =>
    cases hm : t.mention? with
    | none =>
      rw [List.filterMap_cons_none hm, ih, List.filter_cons]
      split
      · rw [List.filterMap_cons_none hm]
      · rfl
    | some m =>
      rw [List.filterMap_cons_some hm, List.filter_cons, List.filter_cons, ih,
        Trial.mention?_name hm]
      split
      · rw [List.filterMap_cons_some hm]
      · rfl

/-- The latest mention of a name among those of trials says what the latest verdict is. -/
theorem latest_filterMap (n : String) (ts : List Trial) :
    (Mention.latest n (ts.filterMap Trial.mention?)).map Mention.verdict = latestVerdict n ts := by
  rw [Mention.latest, filter_filterMap_mention?, ← List.getLast?_map, List.map_filterMap,
    latestVerdict]
  simp only [Trial.map_mention?]

/-- The latest mention of a name among recommendations says that it is available. -/
theorem latest_offered (n : String) (rs : List Recipe) :
    (Mention.latest n (rs.map Recipe.offered)).map Mention.verdict =
      if n ∈ rs.map Recipe.name then some ⟨.available, "", ""⟩ else none := by
  cases hl : Mention.latest n (rs.map Recipe.offered) with
  | none =>
    have hn : n ∉ rs.map Recipe.name := by
      intro hn
      obtain ⟨r, hr, hname⟩ := List.mem_map.1 hn
      exact Mention.latest_eq_none.1 hl _ (List.mem_map_of_mem hr) hname
    rw [if_neg hn]
    rfl
  | some m =>
    obtain ⟨hm, hname⟩ := Mention.mem_of_latest hl
    obtain ⟨r, hr, rfl⟩ := List.mem_map.1 hm
    rw [if_pos (List.mem_map.2 ⟨r, hr, hname⟩)]
    rfl

/-- The latest mention of a name in a run is the latest verdict on it, and without a verdict a
recommendation. -/
theorem Phases.latest_mentionsIn {p : Plan} {D A I L G : List Call} {v : Except Failure Unit}
    (h : Phases p D A I L G v) (n : String) :
    (Mention.latest n (mentionsIn (D ++ A ++ I ++ L ++ G))).map Mention.verdict =
      (latestVerdict n (trials (D ++ A ++ I ++ L ++ G))).or
        (if n ∈ (recommendedIn (D ++ A ++ I ++ L ++ G)).map Recipe.name
          then some ⟨.available, "", ""⟩ else none) := by
  rw [h.mentionsIn_eq, Mention.latest_append, Option.map_or, latest_filterMap, latest_offered]

end Provision
