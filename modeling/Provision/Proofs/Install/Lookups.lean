import Provision.Proofs.Install.Decided
import Provision.Proofs.Install.Transcript

/-!
# Recipes by name are acquired as far as they are found

Names are looked up one after the other. A `Lookup` is a name with the answer to it: the recipe that
was found, or else the warning that is shown. What is acquired for names, and what is shown on the
way, is put together from their lookups (`Installing.findAll_lookups`), and no lookup touches the
others: the names after a cut fare as they do alone (`Installing.findAll_append`). So the
acquisition never fails, and the installation goes on with whatever was found
(`Installing.install_names`).
-/

namespace Provision

variable {σ : Type}

/-- A name that was looked up, with the answer and what the service showed. -/
structure Lookup where
  name : String
  answer : Except Failure (Option Recipe)
  shown : List Output

namespace Lookup

/-- The call of a lookup. -/
def call (host : Option Host) (l : Lookup) : Call := .findRecipe host l.name l.answer

/-- The recipe that was found. -/
def recipe? (l : Lookup) : Option Recipe :=
  match l.answer with
  | .ok found => found
  | .error _ => none

/-- What is warned of after a lookup: that there is no such recipe, or why none was found. -/
def warning? (l : Lookup) : Option Output :=
  match l.answer with
  | .ok (some _) => none
  | .ok none => some (.warning ("Recipe " ++ l.name ++ " not found. Skipping installation."))
  | .error e =>
    some (.warning ("Could not install " ++ l.name ++ ". Error retrieving recipe: " ++ e.message))

/-- The journal of a lookup: the call, and then the warning. -/
def journal (host : Option Host) (l : Lookup) : List Entry :=
  .call (l.call host) l.shown :: l.warning?.toList.map .shown

/-- A lookup finds a recipe or is warned about. -/
theorem found_or_warned (l : Lookup) : l.recipe?.toList.length + l.warning?.toList.length = 1 := by
  unfold recipe? warning?
  match l.answer with
  | .ok (some _) | .ok none | .error _ => rfl

/-! ### Several lookups -/

/-- The calls of lookups are one for each. -/
theorem callsOf_journals (host : Option Host) (ls : List Lookup) :
    callsOf (ls.flatMap (journal host)) = ls.map (call host) := by
  induction ls with
  | nil => rfl
  | cons l ls ih =>
    rw [List.flatMap_cons, callsOf_append, ih, journal, callsOf_call, callsOf_map_shown,
      List.map_cons, List.singleton_append]

/-- What lookups show are their warnings. -/
theorem shownIn_journals (host : Option Host) (ls : List Lookup) :
    shownIn (ls.flatMap (journal host)) = ls.filterMap warning? := by
  induction ls with
  | nil => rfl
  | cons l ls ih =>
    rw [List.flatMap_cons, shownIn_append, ih, journal, shownIn_call, shownIn_map_shown]
    cases hl : l.warning? with
    | none => rw [List.filterMap_cons_none hl, Option.toList_none, List.nil_append]
    | some o => rw [List.filterMap_cons_some hl, Option.toList_some, List.singleton_append]

/-- Of so many lookups each finds a recipe or is warned about. -/
theorem length_found_add_warned (ls : List Lookup) :
    (ls.filterMap recipe?).length + (ls.filterMap warning?).length = ls.length := by
  induction ls with
  | nil => rfl
  | cons l ls ih =>
    have hl := l.found_or_warned
    rw [List.length_cons, ← ih]
    cases hr : l.recipe? <;> cases hw : l.warning? <;>
      simp only [hr, hw, Option.toList_none, Option.toList_some, List.length_nil,
        List.length_singleton] at hl <;>
      simp only [List.filterMap_cons, hr, hw, List.length_cons] <;> omega

end Lookup

namespace Installing

variable (s : Services σ)

/-! ## Looking up names -/

/-- The lookup of a name in a world. -/
def lookup (host : Option Host) (name : String) (w : σ) : Lookup :=
  ⟨name, (s.findRecipe host name w).value, (s.findRecipe host name w).log⟩

/-- Work after a call goes on in the world that the call leaves. -/
theorem ask_bind_apply {α β : Type} (call : Except Failure α → Call) (service : Action σ α)
    (f : Except Failure α → Installing σ β) (w : σ) :
    (ask call service >>= f) w =
      let r := f (service w).value (service w).world
      ⟨r.value, .call (call (service w).value) (service w).log :: r.log, r.world⟩ := rfl

/-- The first of some names is looked up, and then the others, whatever came of it. -/
theorem findAll_cons (host : Option Host) (name : String) (rest : List String) (w : σ) :
    findAll s host (name :: rest) w =
      ⟨(findAll s host rest (s.findRecipe host name w).world).value.map
          ((lookup s host name w).recipe?.toList ++ ·),
        (lookup s host name w).journal host ++
          (findAll s host rest (s.findRecipe host name w).world).log,
        (findAll s host rest (s.findRecipe host name w).world).world⟩ := by
  rw [findAll, ask_bind_apply]
  simp only [lookup, Lookup.journal, Lookup.call, Lookup.recipe?, Lookup.warning?]
  generalize (s.findRecipe host name w).world = w₁
  cases (s.findRecipe host name w).value with
  | error e =>
    simp only [Option.toList_none, map_nil_append]
    rfl
  | ok found =>
    cases found with
    | none =>
      simp only [Option.toList_none, map_nil_append]
      rfl
    | some r =>
      cases hrest : (findAll s host rest w₁).value with
      | error e =>
        simp only [Work.bind_eq_of_error hrest]
        rfl
      | ok rs =>
        simp only [Work.bind_eq_of_ok hrest, Work.pure_apply, List.append_nil]
        rfl

/-- What is acquired for names, and the journal on the way, are put together from their lookups. -/
theorem findAll_lookups (host : Option Host) (names : List String) (w : σ) :
    ∃ ls : List Lookup, ls.map Lookup.name = names ∧
      (findAll s host names w).value = .ok (ls.filterMap Lookup.recipe?) ∧
      (findAll s host names w).log = ls.flatMap (Lookup.journal host) := by
  induction names generalizing w with
  | nil => exact ⟨[], rfl, rfl, rfl⟩
  | cons name rest ih =>
    obtain ⟨ls, hnames, hvalue, hlog⟩ := ih (s.findRecipe host name w).world
    refine ⟨lookup s host name w :: ls, ?_, ?_, ?_⟩
    · rw [List.map_cons, hnames]
      rfl
    · rw [findAll_cons, hvalue]
      cases hr : (lookup s host name w).recipe? with
      | none => rw [List.filterMap_cons_none hr]; rfl
      | some r => rw [List.filterMap_cons_some hr]; rfl
    · rw [findAll_cons, hlog, List.flatMap_cons]

/-- Names after others fare as they do alone in the world that the others leave, whatever came of
these. -/
theorem findAll_append (host : Option Host) (names more : List String) (w : σ) :
    ∃ rs rs', (findAll s host names w).value = .ok rs ∧
      (findAll s host more (findAll s host names w).world).value = .ok rs' ∧
      findAll s host (names ++ more) w = ⟨.ok (rs ++ rs'),
        (findAll s host names w).log ++ (findAll s host more (findAll s host names w).world).log,
        (findAll s host more (findAll s host names w).world).world⟩ := by
  induction names generalizing w with
  | nil =>
    obtain ⟨ls, -, hvalue, -⟩ := findAll_lookups s host more w
    refine ⟨[], _, rfl, hvalue, ?_⟩
    rw [List.nil_append, List.nil_append, ← hvalue]
    rfl
  | cons name rest ih =>
    obtain ⟨rs, rs', hrs, hrs', happend⟩ := ih (s.findRecipe host name w).world
    rw [List.cons_append, findAll_cons, findAll_cons]
    simp only
    refine ⟨_, rs', by rw [hrs]; rfl, hrs', ?_⟩
    rw [happend, List.append_assoc, List.append_assoc]
    rfl

/-! ## The whole installation -/

/-- What an installation finds out about the host, unless that is left out. -/
def lookAround (p : Plan) : Installing σ (Option Host) :=
  if p.skipDiscovery then pure none else some <$> discover s

/-- What an installation does with the recipes that it acquired. -/
def proceed (p : Plan) (host : Option Host) (recipes : List Recipe) : Installing σ Unit := do
  if !p.skipAgent then installAgent s host (host.getD .unknown)
  if !p.skipLogging then installLogging s host (host.getD .unknown) recipes
  if !p.skipIntegrations then installAll s (host.getD .unknown) recipes

/-- An installation finds out about the host, acquires recipes and proceeds with them. -/
theorem phases_eq_proceed (p : Plan) : phases s p =
    lookAround s p >>= fun host => acquire s host p.selection >>= proceed s p host := by
  unfold phases lookAround proceed
  cases p.skipDiscovery <;> rfl

/-- Recipes that a plan names are acquired as far as they are found. Each name is looked up once, in
order, and nothing else is asked for; the recipes are those that were found, and what is shown are
the warnings about the other names, each after its lookup, so that there is a recipe or a warning
for every name. The names after a cut fare as if they alone were asked for, whatever came of those
before. An installation that gets as far as the lookups goes on with the recipes that were found. -/
theorem install_names (p : Plan) (hpaths : p.paths = []) (hnames : p.names ≠ []) :
    (∀ host w, ∃ ls : List Lookup, ls.map Lookup.name = p.names ∧
      Replays s w (acquire s host p.selection w).log (acquire s host p.selection w).world ∧
      calls (acquire s host p.selection) w = ls.map (Lookup.call host) ∧
      (acquire s host p.selection w).value = .ok (ls.filterMap Lookup.recipe?) ∧
      (acquire s host p.selection w).log = ls.flatMap (Lookup.journal host) ∧
      shownIn (acquire s host p.selection w).log = ls.filterMap Lookup.warning? ∧
      (ls.filterMap Lookup.recipe?).length + (ls.filterMap Lookup.warning?).length =
        p.names.length) ∧
    (∀ host before after, p.names = before ++ after → ∀ w, ∃ rs rs',
      (findAll s host before w).value = .ok rs ∧
      (findAll s host after (findAll s host before w).world).value = .ok rs' ∧
      acquire s host p.selection w = ⟨.ok (rs ++ rs'),
        (findAll s host before w).log ++ (findAll s host after (findAll s host before w).world).log,
        (findAll s host after (findAll s host before w).world).world⟩) ∧
    ∀ w host, (lookAround s p w).value = .ok host → ∃ ls : List Lookup, ∃ w₁,
      ls.map Lookup.name = p.names ∧
      Replays s (lookAround s p w).world (ls.flatMap (Lookup.journal host)) w₁ ∧
      (install s p w).value = (proceed s p host (ls.filterMap Lookup.recipe?) w₁).value ∧
      (install s p w).log = .shown Banner.welcome :: ((lookAround s p w).log ++
        (ls.flatMap (Lookup.journal host) ++
          (proceed s p host (ls.filterMap Lookup.recipe?) w₁).log) ++
        farewell p (install s p w).value) := by
  have hselection : p.selection = .named p.names := by simp [Plan.selection, hpaths, hnames]
  rw [hselection]
  refine ⟨fun host w => ?_, fun host before after hcut w => ?_, fun w host hhost => ?_⟩
  · obtain ⟨ls, hls, hvalue, hlog⟩ := findAll_lookups s host p.names w
    have hreplays := (findAll_ensures s host p.names w).1
    refine ⟨ls, hls, hreplays, ?_, hvalue, hlog, ?_, ?_⟩
    · rw [calls, acquire, hlog, Lookup.callsOf_journals]
    · rw [acquire, hlog, Lookup.shownIn_journals]
    · rw [Lookup.length_found_add_warned, ← hls, List.length_map]
  · rw [hcut]
    exact findAll_append s host before after w
  · obtain ⟨ls, hls, hvalue, hlog⟩ := findAll_lookups s host p.names (lookAround s p w).world
    have hreplays := (findAll_ensures s host p.names (lookAround s p w).world).1
    rw [hlog] at hreplays
    have hacquire : (acquire s host (.named p.names) (lookAround s p w).world).value = _ := hvalue
    refine ⟨ls, _, hls, hreplays, ?_, ?_⟩
    · rw [(install_eq_phases s p w).1, phases_eq_proceed, hselection, Work.bind_eq_of_ok hhost,
        Work.bind_eq_of_ok hacquire]
      rfl
    · rw [install_log, phases_eq_proceed, hselection, Work.bind_eq_of_ok hhost,
        Work.bind_eq_of_ok hacquire, ← hlog]
      rfl

/-- A recipe that does nothing. -/
def idleRecipe (name : String) : Recipe := ⟨name, name, none, [], [], [], "", [], none⟩

/-- Services that only find the recipe of one name, do not know another, and fail for the rest. -/
def findingOnly (known missing : String) : Services Unit where
  __ := Services.interrupted
  findRecipe _ name :=
    if name = known then pure (some (idleRecipe name))
    else if name = missing then pure none
    else Work.fail (.io "unreadable")

/-- One name is found, one is not, and one cannot be looked up. -/
theorem install_names_mixed :
    let p : Plan := ⟨[], ["mysql", "nginx", "redis"], true, true, true, true, 0⟩
    let s := findingOnly "nginx" "mysql"
    p.paths = [] ∧ p.names ≠ [] ∧ (acquire s none p.selection ()).value = .ok [idleRecipe "nginx"] ∧
      ∃ ls : List Lookup, ls.map Lookup.name = p.names ∧
        ls.filterMap Lookup.recipe? = [idleRecipe "nginx"] ∧
        ls.filterMap Lookup.warning? =
          [.warning "Recipe mysql not found. Skipping installation.",
            .warning "Could not install redis. Error retrieving recipe: IO error: unreadable"] := by
  intro p s
  have hpaths : p.paths = [] := rfl
  have hnames : p.names ≠ [] := by decide
  obtain ⟨ls, hls, -, -, hvalue, -, hshown, -⟩ := (install_names s p hpaths hnames).1 none ()
  have hfound : (acquire s none p.selection ()).value = .ok [idleRecipe "nginx"] := rfl
  exact ⟨hpaths, hnames, hfound, ls, hls, (Except.ok.inj (hvalue.symm.trans hfound)), hshown.symm⟩

end Installing

end Provision
