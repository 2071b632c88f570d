import Mathlib.Data.List.Forall2
import Mathlib.Logic.Relation
import Provision.Proofs.Catalog.Loading

/-!
# Recommending is monotone

A recipe is recommended for a host that it suits (`Recipe.suits`): a target admits the host, or
there is no target at all, and a process pattern occurs in a process. More processes, more patterns
and fewer properties asked for only ever add recommendations, and so do more targets as long as
there is one. The first target is the exception: it takes back what held without any.

What may be done to a recipe that suits a host is collected in `Recipe.Widened`, and
`Catalog.recommend_monotone` says what follows for a catalog.
-/

namespace Provision

/-! ## Targets -/

namespace Target

variable {t t' : Target} {h h' : Host}

/-- A target asks for no property that another one does not ask for. -/
structure Relaxes (t' t : Target) : Prop where
  os : t'.os = none ∨ t'.os = t.os
  platform : t'.platform = none ∨ t'.platform = t.platform
  platformVersion : t'.platformVersion = none ∨ t'.platformVersion = t.platformVersion
  kernelArch : t'.kernelArch = none ∨ t'.kernelArch = t.kernelArch

/-- A target admits a host if all that it says of the host is right. -/
theorem admits_iff : t.admits h = true ↔ agrees t.os h.os = true ∧
    agrees t.platform h.platform = true ∧ agrees t.kernelArch h.kernelArch = true ∧
    ∀ v, t.platformVersion = some v →
      Text.startsWith v.toList h.platformVersion.toList = true := by
  unfold admits
  cases t.platformVersion <;> simp [and_assoc]

/-- An expectation that is dropped or stays is still met. -/
theorem agrees_of_relaxed {expected expected' : Option String} {actual : String}
    (hr : expected' = none ∨ expected' = expected) (ha : agrees expected actual = true) :
    agrees expected' actual = true := by
  rcases hr with rfl | rfl
  · rfl
  · exact ha

/-- A target still admits a host if some of its properties are no longer asked for. -/
theorem Relaxes.admits (hr : t'.Relaxes t) (ha : t.admits h = true) : t'.admits h = true := by
  obtain ⟨hos, hplatform, harch, hversion⟩ := admits_iff.1 ha
  refine admits_iff.2 ⟨agrees_of_relaxed hr.os hos, agrees_of_relaxed hr.platform hplatform,
    agrees_of_relaxed hr.kernelArch harch, fun v hv => ?_⟩
  rcases hr.platformVersion with hnone | hsame
  · rw [hnone] at hv
    cases hv
  · exact hversion v (hsame ▸ hv)

/-- Targets that differ only in the case of ASCII letters, and not in the platform version. -/
structure SameLetters (t t' : Target) : Prop where
  os : Option.Rel (fun a b => Text.sameLetters a b = true) t.os t'.os
  platform : Option.Rel (fun a b => Text.sameLetters a b = true) t.platform t'.platform
  platformVersion : t.platformVersion = t'.platformVersion
  kernelArch : Option.Rel (fun a b => Text.sameLetters a b = true) t.kernelArch t'.kernelArch

end Target

/-- Hosts that targets could only tell apart by the case of ASCII letters, with the same
processes. -/
structure Host.SameLetters (h h' : Host) : Prop where
  os : Text.sameLetters h.os h'.os = true
  platform : Text.sameLetters h.platform h'.platform = true
  platformVersion : h.platformVersion = h'.platformVersion
  kernelArch : Text.sameLetters h.kernelArch h'.kernelArch = true
  processes : h.processes = h'.processes

namespace Target

variable {t t' : Target} {h h' : Host}

/-- Expectations and values may be written in another case. -/
theorem agrees_congr {expected expected' : Option String} {actual actual' : String}
    (he : Option.Rel (fun a b => Text.sameLetters a b = true) expected expected')
    (ha : Text.sameLetters actual actual' = true) :
    agrees expected actual = agrees expected' actual' := by
  cases he with
  | none => rfl
  | some hsame =>
    rw [agrees, agrees, Bool.eq_iff_iff, Text.sameLetters_iff, Text.sameLetters_iff,
      Text.sameLetters_iff.1 hsame, Text.sameLetters_iff.1 ha]

/-- The case of the letters does not matter, on either side. -/
theorem SameLetters.admits (ht : t.SameLetters t') (hh : h.SameLetters h') :
    t.admits h = t'.admits h' := by
  rw [Target.admits, Target.admits, agrees_congr ht.os hh.os, agrees_congr ht.platform hh.platform,
    agrees_congr ht.kernelArch hh.kernelArch, ht.platformVersion, hh.platformVersion]

end Target

/-! ## Recipes -/

/-- A host with the properties that targets ask for in common with another one, whose processes
have all the texts of its own. -/
structure Host.RunsWithin (h h' : Host) : Prop where
  os : h.os = h'.os
  platform : h.platform = h'.platform
  platformVersion : h.platformVersion = h'.platformVersion
  kernelArch : h.kernelArch = h'.kernelArch
  processes : ∀ p ∈ h.processes, ∃ p' ∈ h'.processes, p'.matchText = p.matchText

namespace Recipe

variable {r r' : Recipe} {h h' : Host}

/-- Whether a recipe is one to recommend for a host. -/
def suits (r : Recipe) (h : Host) : Bool := r.targetsHost h && r.concernsHost h

/-- A recipe suits a host if one of its targets admits it, or it has none, and one of its patterns
occurs in a process there. -/
theorem suits_iff : r.suits h = true ↔
    (r.targets = [] ∨ ∃ t ∈ r.targets, t.admits h = true) ∧
      ∃ p ∈ r.processPatterns, ∃ q ∈ h.processes, p.occursIn q.matchText = true := by
  simp [suits, targetsHost, concernsHost]

/-- More processes do no harm. -/
theorem suits_of_runsWithin (hh : h.RunsWithin h') (hr : r.suits h = true) :
    r.suits h' = true := by
  obtain ⟨htargets, p, hp, q, hq, hoccurs⟩ := suits_iff.1 hr
  have hadmits : ∀ t : Target, t.admits h = t.admits h' := by
    intro t
    rw [Target.admits, Target.admits, hh.os, hh.platform, hh.kernelArch, hh.platformVersion]
  simp only [hadmits] at htargets
  obtain ⟨q', hq', htext⟩ := hh.processes q hq
  exact suits_iff.2 ⟨htargets, p, hp, q', hq', htext ▸ hoccurs⟩

/-- One thing done to a recipe after which it suits no host less: patterns are added or change
places, a property of a target is no longer asked for, targets change places, further targets are
added, or all of them are removed. -/
inductive Widened (r : Recipe) : Recipe → Prop
  | patterns (ps : List Pattern) (hps : ∀ p ∈ r.processPatterns, p ∈ ps) :
      Widened r { r with processPatterns := ps }
  | unset (before after : List Target) {t t' : Target} (htargets : r.targets = before ++ t :: after)
      (ht : t'.Relaxes t) : Widened r { r with targets := before ++ t' :: after }
  | permuted (ts : List Target) (hts : r.targets.Perm ts) : Widened r { r with targets := ts }
  | added (ts : List Target) (hne : r.targets ≠ []) (hts : ∀ t ∈ r.targets, t ∈ ts) :
      Widened r { r with targets := ts }
  | removed : Widened r { r with targets := [] }

/-- Other targets do as well if there are none before or after, or one of them admits the host. -/
theorem suits_of_targets {ts : List Target} (hr : r.suits h = true)
    (hnone : r.targets = [] → ts = [])
    (hsome : ∀ t ∈ r.targets, t.admits h = true → ts = [] ∨ ∃ t' ∈ ts, t'.admits h = true) :
    { r with targets := ts }.suits h = true := by
  obtain ⟨htargets, hprocesses⟩ := suits_iff.1 hr
  refine suits_iff.2 ⟨?_, hprocesses⟩
  rcases htargets with hempty | ⟨t, ht, hadmits⟩
  · exact .inl (hnone hempty)
  · exact hsome t ht hadmits

/-- A recipe that suits a host still does after one such thing. -/
theorem Widened.suits (hw : r.Widened r') (hr : r.suits h = true) : r'.suits h = true := by
  cases hw with
  | patterns ps hps =>
    obtain ⟨htargets, p, hp, hoccurs⟩ := suits_iff.1 hr
    exact suits_iff.2 ⟨htargets, p, hps p hp, hoccurs⟩
  | @unset before after t t' htargets ht =>
    refine suits_of_targets hr (fun hempty => by simp [hempty] at htargets) fun s hs hadmits => ?_
    rw [htargets, List.mem_append, List.mem_cons] at hs
    rcases hs with hs | rfl | hs
    · exact .inr ⟨s, List.mem_append_left _ hs, hadmits⟩
    · exact .inr ⟨t', List.mem_append_right _ List.mem_cons_self, ht.admits hadmits⟩
    · exact .inr ⟨s, List.mem_append_right _ (List.mem_cons_of_mem _ hs), hadmits⟩
  | permuted ts hts =>
    exact suits_of_targets hr (fun hempty => List.nil_perm.1 (hempty ▸ hts))
      fun t ht hadmits => .inr ⟨t, hts.subset ht, hadmits⟩
  | added ts hne hts =>
    exact suits_of_targets hr (fun hempty => absurd hempty hne)
      fun t ht hadmits => .inr ⟨t, hts t ht, hadmits⟩
  | removed => exact suits_of_targets hr (fun _ => rfl) fun _ _ _ => .inl rfl

/-- The case of the letters in targets and hosts does not matter. -/
theorem suits_of_sameLetters {ts : List Target} (hts : List.Forall₂ Target.SameLetters r.targets ts)
    (hh : h.SameLetters h') : { r with targets := ts }.suits h' = r.suits h := by
  have hany : ts.any (·.admits h') = r.targets.any (·.admits h) := by
    generalize r.targets = targets at hts
    induction hts with
    | nil => rfl
    | cons ht _ ih => rw [List.any_cons, List.any_cons, ih, ht.admits hh]
  have hempty : ts.isEmpty = r.targets.isEmpty := by
    generalize r.targets = targets at hts
    cases hts <;> rfl
  rw [suits, suits, targetsHost, targetsHost, concernsHost, concernsHost, hany, hempty,
    hh.processes]

end Recipe

/-! ## Catalogs -/

namespace Catalog

variable {c : Catalog} {m : Machine} {rs : List Recipe}

/-- Recommending is monotone. A host with more processes is recommended what it was and perhaps
more, in the same order, so the order of the processes and how often each is there do not matter. A
recipe of the catalog is recommended if it suits the host, and it still suits it however it is
widened. Letter case matters neither in targets nor in hosts, and a recipe without process patterns
suits no host. -/
theorem recommend_monotone (hload : (c.load m).value = .ok rs) :
    (∀ h h' : Host, h.RunsWithin h' → ∃ few more, (c.recommend (some h) m).value = .ok few ∧
      (c.recommend (some h') m).value = .ok more ∧ few.Sublist more) ∧
    (∀ h h' : Host, h.RunsWithin h' → h'.RunsWithin h →
      (c.recommend (some h) m).value = (c.recommend (some h') m).value) ∧
    (∀ h, ∃ recommended, (c.recommend (some h) m).value = .ok recommended ∧
      ∀ r, r ∈ recommended ↔ r ∈ rs ∧ r.suits h = true) ∧
    (∀ (r r' : Recipe) (h : Host), Relation.ReflTransGen Recipe.Widened r r' →
      r.suits h = true → r'.suits h = true) ∧
    (∀ (r : Recipe) (ts : List Target) (h h' : Host),
      List.Forall₂ Target.SameLetters r.targets ts → h.SameLetters h' →
      { r with targets := ts }.suits h' = r.suits h) ∧
    ∀ (r : Recipe) (h : Host), r.processPatterns = [] → r.suits h = false := by
  have hvalue (h : Host) : (c.recommend (some h) m).value = .ok (rs.filter (·.suits h)) :=
    recommend_eq_of_load hload (some h)
  refine ⟨fun h h' hh => ⟨_, _, hvalue h, hvalue h', ?_⟩, fun h h' hh hh' => ?_,
    fun h => ⟨_, hvalue h, fun r => List.mem_filter⟩, fun r r' h hw hr => ?_,
    fun r ts h h' => Recipe.suits_of_sameLetters, fun r h hnone => ?_⟩
  · exact List.monotone_filter_right rs fun r => Recipe.suits_of_runsWithin hh
  · have hsame (r : Recipe) : r.suits h = r.suits h' :=
      Bool.eq_iff_iff.2 ⟨Recipe.suits_of_runsWithin hh, Recipe.suits_of_runsWithin hh'⟩
    rw [hvalue, hvalue, funext hsame]
  · induction hw with
    | refl => exact hr
    | tail _ hlast ih => exact hlast.suits ih
  · rw [Recipe.suits, Recipe.concernsHost, hnone, List.any_nil, Bool.and_false]

/-- A second process does not take back what is recommended for the first. -/
theorem recommend_monotone_process :
    let c : Catalog := ⟨slashed 0⟩
    let m := machineWith [("a.yml", .file (Text.bytesOf "name: a\nprocessMatch: [a]\n"))]
    let h := { Host.unknown with processes := [⟨1, "a", ""⟩] }
    let h' := { Host.unknown with processes := [⟨2, "init", ""⟩, ⟨3, "", "a"⟩] }
    (∃ rs, (c.load m).value = .ok rs) ∧ h.RunsWithin h' ∧
      ∃ few more, (c.recommend (some h) m).value = .ok few ∧
        (c.recommend (some h') m).value = .ok more ∧ few.Sublist more ∧
        more.map Recipe.name = ["a"] := by
  intro c m h h'
  have hrecommend : (c.recommend (some h') m).value.toOption.map (·.map Recipe.name) =
      some ["a"] := by decide +kernel
  have hh : h.RunsWithin h' := ⟨rfl, rfl, rfl, rfl, by simp [h, h', Process.matchText]⟩
  cases hload : (c.load m).value with
  | error e =>
    have hloads : (c.load m).value.toOption.isSome = true := by decide +kernel
    rw [hload] at hloads
    cases hloads
  | ok rs =>
    obtain ⟨few, more, hfew, hmore, hsub⟩ := (recommend_monotone hload).1 h h' hh
    rw [hmore] at hrecommend
    exact ⟨⟨rs, rfl⟩, hh, few, more, hfew, hmore, hsub, Option.some.inj hrecommend⟩

end Catalog

end Provision
