import Mathlib.Data.List.Forall2
import Provision.Proofs.Lists
import Provision.Recipe.Check

/-!
# Drafts without faults

A draft has four kinds of faults: a blank name, blank commands, log patterns without a file, and
process patterns that are none. The check of a draft accepts just the drafts that have none of them
(`Draft.Valid`), and their recipes hold what the drafts say (`Draft.Finished`). Of any other draft
it tells the first fault (`Draft.FirstFault`), and never fails in another way (`Draft.check_valid`).

None of this depends on which texts are process patterns and what they mean, so the check is looked
at with any reader of patterns (`Draft.checkWith`).
-/

namespace Provision.Draft

/-- A reader of process patterns, which may say why a text is none. -/
abbrev Reader := String → Except Pattern.Problem Pattern

section
variable {read : Reader} {d : Draft}

/-! ## The check with any reader of patterns -/

/-- Process patterns, read in order. -/
def readWith (read : Reader) : List String → Except (String × Pattern.Problem) (List Pattern)
  | [] => .ok []
  | source :: rest =>
    match read source with
    | .error problem => .error (source, problem)
    | .ok p => (readWith read rest).map (p :: ·)

/-- The recipe of a draft, or the first fault of the draft. -/
def checkWith (read : Reader) (d : Draft) : Except Failure Recipe :=
  match d.fault? with
  | some reason => .error (.invalidRecipe d.name reason)
  | none =>
    match readWith read d.processPatterns with
    | .error (source, problem) =>
      .error (.invalidRecipe d.name ("invalid process match '" ++ source ++ "': " ++ problem))
    | .ok patterns => .ok (d.toRecipe patterns)

/-- The patterns of a draft are read by the reader of patterns. -/
theorem readPatterns_eq (sources : List String) :
    readPatterns sources = readWith Pattern.ofText sources := by
  induction sources with
  | nil => rfl
  | cons source rest ih =>
    unfold readPatterns readWith
    cases Pattern.ofText source with
    | error problem => rfl
    | ok p => exact congrArg (fun read => read.map (p :: ·)) ih

/-- A check reads patterns as they are read everywhere. -/
theorem check_eq (d : Draft) : d.check = d.checkWith Pattern.ofText := by
  have hread := readPatterns_eq d.processPatterns
  unfold check checkWith
  generalize readPatterns d.processPatterns = patterns at hread ⊢
  subst hread
  rfl

/-- Patterns are read if each of them is. -/
theorem readWith_eq_ok {sources : List String} {patterns : List Pattern} :
    readWith read sources = .ok patterns ↔
      List.Forall₂ (fun source p => read source = .ok p) sources patterns := by
  induction sources generalizing patterns with
  | nil =>
    rw [readWith, List.forall₂_nil_left_iff, Except.ok.injEq, eq_comm]
  | cons source rest ih =>
    rw [readWith, List.forall₂_cons_left_iff]
    cases hsource : read source with
    | error problem => simp
    | ok p =>
      cases hrest : readWith read rest with
      | error e => simp [← ih, hrest, Except.map]
      | ok ps => simp [← ih, hrest, Except.map, eq_comm]

/-- The first text that is no pattern is told. -/
theorem readWith_eq_error {sources : List String} {source : String} {problem : Pattern.Problem} :
    readWith read sources = .error (source, problem) ↔
      ∃ before after, sources = before ++ source :: after ∧
        (∀ s ∈ before, ∃ p, read s = .ok p) ∧ read source = .error problem := by
  induction sources with
  | nil => simp [readWith]
  | cons s rest ih =>
    rw [readWith]
    constructor
    · intro h
      cases hs : read s with
      | error e =>
        rw [hs] at h
        cases h
        exact ⟨[], rest, rfl, nofun, hs⟩
      | ok p =>
        simp only [hs] at h
        cases hrest : readWith read rest with
        | ok ps => rw [hrest] at h; cases h
        | error e =>
          rw [hrest] at h
          cases h
          obtain ⟨before, after, rfl, hbefore, hsource⟩ := ih.1 hrest
          exact ⟨s :: before, after, rfl, List.forall_mem_cons.2 ⟨⟨p, hs⟩, hbefore⟩, hsource⟩
    · rintro ⟨before, after, hsplit, hbefore, hsource⟩
      cases before with
      | nil =>
        cases hsplit
        rw [hsource]
      | cons b before =>
        cases hsplit
        obtain ⟨⟨p, hp⟩, hbefore⟩ := List.forall_mem_cons.1 hbefore
        rw [hp]
        simp only [ih.2 ⟨before, after, rfl, hbefore, hsource⟩, Except.map]

/-! ## Faults -/

/-- A draft without faults: it has a name, every command says something, every log pattern has a
file, and every process pattern is one. -/
structure Valid (read : Reader) (d : Draft) : Prop where
  name : Text.isBlank d.name = false
  steps : ∀ s ∈ d.steps, Text.isBlank s.run = false
  logWatches : ∀ w ∈ d.logWatches, Text.isBlank w.file = false
  patterns : ∀ source ∈ d.processPatterns, ∃ p, read source = .ok p

/-- The first fault of a draft, as it is told. Name, commands, log patterns and process patterns are
looked at in this order, and what comes before the fault has none. -/
inductive FirstFault (read : Reader) (d : Draft) : String → Prop
  | name (hname : Text.isBlank d.name = true) : FirstFault read d "recipe name is required"
  | step (hname : Text.isBlank d.name = false) {before after : List Step} {s : Step}
      (hsteps : d.steps = before ++ s :: after)
      (hbefore : ∀ t ∈ before, Text.isBlank t.run = false) (hs : Text.isBlank s.run = true) :
      FirstFault read d ("install step " ++ toString (before.length + 1) ++ " has no command")
  | logWatch (hname : Text.isBlank d.name = false)
      (hsteps : ∀ s ∈ d.steps, Text.isBlank s.run = false) {before after : List LogWatch}
      {w : LogWatch} (hwatches : d.logWatches = before ++ w :: after)
      (hbefore : ∀ v ∈ before, Text.isBlank v.file = false) (hw : Text.isBlank w.file = true) :
      FirstFault read d ("log match '" ++ w.name ++ "' has no file pattern")
  | pattern (hname : Text.isBlank d.name = false)
      (hsteps : ∀ s ∈ d.steps, Text.isBlank s.run = false)
      (hwatches : ∀ w ∈ d.logWatches, Text.isBlank w.file = false) {before after : List String}
      {source : String} {problem : Pattern.Problem}
      (hpatterns : d.processPatterns = before ++ source :: after)
      (hbefore : ∀ s ∈ before, ∃ p, read s = .ok p) (hsource : read source = .error problem) :
      FirstFault read d ("invalid process match '" ++ source ++ "': " ++ problem)

/-- A draft with a fault is not without faults. -/
theorem FirstFault.not_valid {reason : String} (h : d.FirstFault read reason) :
    ¬ d.Valid read := by
  intro hv
  cases h with
  | name hname => exact absurd (hname.symm.trans hv.name) (by decide)
  | step _ hsteps _ hs =>
    have hmem := hv.steps _ (hsteps ▸ List.mem_append_right _ List.mem_cons_self)
    exact absurd (hs.symm.trans hmem) (by decide)
  | logWatch _ _ hwatches _ hw =>
    have hmem := hv.logWatches _ (hwatches ▸ List.mem_append_right _ List.mem_cons_self)
    exact absurd (hw.symm.trans hmem) (by decide)
  | pattern _ _ _ hpatterns _ hsource =>
    obtain ⟨p, hp⟩ := hv.patterns _ (hpatterns ▸ List.mem_append_right _ List.mem_cons_self)
    cases hsource.symm.trans hp

/-- A draft has no fault if its name, its commands and its log patterns all say something. -/
theorem fault?_eq_none : d.fault? = none ↔ Text.isBlank d.name = false ∧
    (∀ s ∈ d.steps, Text.isBlank s.run = false) ∧
      ∀ w ∈ d.logWatches, Text.isBlank w.file = false := by
  have hsteps : (∀ s ∈ d.steps, Text.isBlank s.run = false) ↔
      d.steps.findIdx? (fun s => Text.isBlank s.run) = none := List.findIdx?_eq_none_iff.symm
  rw [hsteps, fault?]
  cases Text.isBlank d.name <;> cases d.steps.findIdx? fun s => Text.isBlank s.run <;> simp

/-- A fault that is not one of the process patterns is the first one. -/
theorem firstFault_of_fault? {reason : String} (h : d.fault? = some reason) :
    d.FirstFault read reason := by
  unfold fault? at h
  cases hname : Text.isBlank d.name with
  | true =>
    rw [hname] at h
    cases h
    exact .name hname
  | false =>
    simp only [hname, Bool.false_eq_true, if_false] at h
    cases hsteps : d.steps.findIdx? fun s => Text.isBlank s.run with
    | some i =>
      simp only [hsteps] at h
      cases h
      obtain ⟨before, s, after, hsplit, rfl, hs, hbefore⟩ := findIdx?_eq_some_iff_append.1 hsteps
      exact .step hname hsplit hbefore hs
    | none =>
      simp only [hsteps] at h
      obtain ⟨w, hw, rfl⟩ := Option.map_eq_some_iff.1 h
      obtain ⟨hblank, before, after, hsplit, hbefore⟩ := List.find?_eq_some_iff_append.1 hw
      exact .logWatch hname (List.findIdx?_eq_none_iff.1 hsteps) hsplit
        (fun v hv => by simpa using hbefore v hv) hblank

/-- The first fault of a draft is what the check tells. -/
theorem FirstFault.checkWith {reason : String} (h : d.FirstFault read reason) :
    d.checkWith read = .error (.invalidRecipe d.name reason) := by
  unfold Draft.checkWith
  cases h with
  | name hname =>
    rw [fault?, hname]
    rfl
  | step hname hsteps hbefore hs =>
    have hfirst := findIdx?_eq_some_iff_append.2 ⟨_, _, _, hsteps, rfl, hs, hbefore⟩
    simp only [fault?, hname, Bool.false_eq_true, if_false, hfirst]
  | @logWatch hname hsteps before after w hwatches hbefore hw =>
    have hfind : d.logWatches.find? (fun w => Text.isBlank w.file) = some w := by
      refine List.find?_eq_some_iff_append.2 ⟨hw, before, after, hwatches, fun v hv => ?_⟩
      rw [hbefore v hv, Bool.not_false]
    have hnone : d.steps.findIdx? (fun s => Text.isBlank s.run) = none :=
      List.findIdx?_eq_none_iff.2 hsteps
    simp only [fault?, hname, Bool.false_eq_true, if_false, hnone, hfind, Option.map_some]
  | pattern hname hsteps hwatches hpatterns hbefore hsource =>
    have hread := readWith_eq_error.2 ⟨_, _, hpatterns, hbefore, hsource⟩
    simp only [fault?_eq_none.2 ⟨hname, hsteps, hwatches⟩, hread]

/-! ## What is checked -/

/-- The recipe of a draft says what the draft says. It is displayed by its name and has an empty
query if the draft says nothing else, and no log files were accepted for it yet. -/
structure Finished (read : Reader) (d : Draft) (r : Recipe) : Prop where
  name : r.name = d.name
  displayName : r.displayName = d.displayName.getD d.name
  description : r.description = d.description
  targets : r.targets = d.targets
  patterns : List.Forall₂ (fun source p => read source = .ok p) d.processPatterns r.processPatterns
  logWatches : r.logWatches = d.logWatches
  query : r.query = d.query.getD ""
  steps : r.steps = d.steps
  accepted : r.accepted = none

/-- A recipe is the finished one of a draft if it is made from the draft and its patterns. -/
theorem finished_iff {r : Recipe} : d.Finished read r ↔ ∃ patterns,
    List.Forall₂ (fun source p => read source = .ok p) d.processPatterns patterns ∧
      r = d.toRecipe patterns := by
  constructor
  · intro h
    refine ⟨r.processPatterns, h.patterns, ?_⟩
    obtain ⟨name, displayName, description, targets, patterns, logWatches, query, steps,
      accepted⟩ := r
    obtain ⟨rfl, rfl, rfl, rfl, -, rfl, rfl, rfl, rfl⟩ := h
    rfl
  · rintro ⟨patterns, hpatterns, rfl⟩
    exact ⟨rfl, rfl, rfl, rfl, hpatterns, rfl, rfl, rfl, rfl⟩

/-- Of a draft without faults only one recipe says the same, and the check gives it. -/
theorem Finished.checkWith {r : Recipe} (h : d.Finished read r) (hv : d.Valid read) :
    d.checkWith read = .ok r := by
  obtain ⟨patterns, hpatterns, rfl⟩ := finished_iff.1 h
  simp only [Draft.checkWith, fault?_eq_none.2 ⟨hv.name, hv.steps, hv.logWatches⟩,
    readWith_eq_ok.2 hpatterns]

/-- A check either gives a recipe of a draft without faults, or tells the first fault. -/
theorem checkWith_cases (read : Reader) (d : Draft) :
    (∃ r, d.checkWith read = .ok r ∧ d.Valid read ∧ d.Finished read r) ∨
      ∃ reason, d.FirstFault read reason := by
  cases hfault : d.fault? with
  | some reason => exact .inr ⟨reason, firstFault_of_fault? hfault⟩
  | none =>
    obtain ⟨hname, hsteps, hwatches⟩ := fault?_eq_none.1 hfault
    cases hread : readWith read d.processPatterns with
    | error e =>
      obtain ⟨before, after, hsplit, hbefore, hsource⟩ := readWith_eq_error.1 hread
      exact .inr ⟨_, .pattern hname hsteps hwatches hsplit hbefore hsource⟩
    | ok patterns =>
      have hpatterns := readWith_eq_ok.1 hread
      refine .inl ⟨d.toRecipe patterns, by simp only [checkWith, hfault, hread],
        ⟨hname, hsteps, hwatches, fun source hsource => ?_⟩, finished_iff.2 ⟨_, hpatterns, rfl⟩⟩
      obtain ⟨i, hi, rfl⟩ := List.getElem_of_mem hsource
      exact ⟨_, (List.forall₂_iff_get.1 hpatterns).2 i hi (hpatterns.length_eq ▸ hi)⟩

/-- A check with its failures turned into those of an invalid recipe, as far as they are none. -/
def finalized (read : Reader) (d : Draft) : Except Failure Recipe :=
  match d.checkWith read with
  | .ok r => .ok r
  | .error (.invalidRecipe name reason) => .error (.invalidRecipe name reason)
  | .error e => .error (.invalidRecipe d.name e.message)

/-- The check accepts just the drafts without faults, and gives recipes that say what the drafts
say. If it fails, the recipe is invalid, under the name in the draft, and the reason is the first
fault; so no failure is left to be turned into one of this kind. This holds whatever reads the
process patterns. -/
theorem check_valid (d : Draft) : d.check = d.checkWith Pattern.ofText ∧ ∀ read : Reader,
    ((∃ r, d.checkWith read = .ok r) ↔ d.Valid read) ∧
    (∀ r, d.checkWith read = .ok r ↔ d.Valid read ∧ d.Finished read r) ∧
    (∀ e, d.checkWith read = .error e ↔
      ∃ reason, d.FirstFault read reason ∧ e = .invalidRecipe d.name reason) ∧
    d.finalized read = d.checkWith read := by
  refine ⟨check_eq d, fun read => ?_⟩
  rcases checkWith_cases read d with ⟨r, hr, hvalid, hfinished⟩ | ⟨reason, hfault⟩
  · have hfault (reason : String) : ¬ d.FirstFault read reason := fun h => h.not_valid hvalid
    rw [finalized, hr]
    refine ⟨⟨fun _ => hvalid, fun _ => ⟨r, rfl⟩⟩, fun s => ⟨?_, ?_⟩, by simp [hfault], rfl⟩
    · rintro ⟨⟩
      exact ⟨hvalid, hfinished⟩
    · rintro ⟨-, hs⟩
      exact hr.symm.trans (hs.checkWith hvalid)
  · have herror := hfault.checkWith
    rw [finalized, herror]
    refine ⟨by simp [hfault.not_valid], by simp [hfault.not_valid], fun e => ⟨?_, ?_⟩, rfl⟩
    · rintro ⟨⟩
      exact ⟨reason, hfault, rfl⟩
    · rintro ⟨reason', hfault', rfl⟩
      exact herror.symm.trans hfault'.checkWith

/-- Of two faults the one of the commands comes first. -/
example : check { (default : Draft) with
    name := "nginx", processPatterns := ["("], steps := [⟨none, "true"⟩, ⟨some "start", " "⟩] } =
      .error (.invalidRecipe "nginx" "install step 2 has no command") := rfl

end

end Provision.Draft
