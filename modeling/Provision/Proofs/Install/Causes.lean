import Provision.Proofs.Failure
import Provision.Proofs.Install.Phases

/-!
# What a failed installation tells of its cause

An installation that fails does so by its last call, reports apart (`EndedBy`): the call failed, or
it read a recipe file that is no recipe, or what it should have found was not there. The failure of
the installation ends with the text of the failure of that call, however often it was wrapped on the
way, and an interrupt keeps the exit status of one (`EndedBy.tells`). The other way round, no
failure of a call before the integrations is passed over, except where wanted recipes are looked up
by name. `Installing.install_cause` says both of every run.
-/

namespace Provision

variable {σ α β : Type}

open Installing (executionError validationError)

/-! ## Failures of calls -/

namespace Call

/-- The recipe file that a call read. -/
def draft? : Call → Option Draft
  | loadFile _ (.ok d) | fetchFile _ (.ok d) => some d
  | _ => none

/-- The failure that a call brings: that of its answer, or that of the recipe file that it read. For
reports and questions to the operator a failure is just another answer. -/
def failure? : Call → Option Failure
  | discover (.error e) | loadFile _ (.error e) | fetchFile _ (.error e) | findRecipe _ _ (.error e)
  | recommend _ (.error e) | findLogs _ (.error e) | execute _ _ (.error e)
  | validate _ _ (.error e) => some e
  | loadFile _ (.ok d) | fetchFile _ (.ok d) =>
    match d.check with
    | .error e => some e
    | .ok _ => none
  | _ => none

/-- Whether a call is of a service that can be interrupted. -/
def heedsInterrupts : Call → Bool
  | discover .. | findRecipe .. | recommend .. | findLogs .. | execute .. | validate .. => true
  | _ => false

/-- A report brings no failure. -/
theorem failure?_of_isReport {c : Call} (h : c.isReport = true) : c.failure? = none := by
  cases c with
  | report => rfl
  | _ => cases h

end Call

/-- The failure of an installation by the call that it ends with. -/
inductive EndedBy : Call → Failure → Prop
  | discovery (e : Failure) : EndedBy (.discover (.error e)) (.discovery e.message)
  | fetching (named : String) (u : Url) (e : Failure) :
      EndedBy (.fetchFile u (.error e)) (.fetching named e.message)
  | loading (named path : String) (e : Failure) :
      EndedBy (.loadFile path (.error e)) (.loading named e.message)
  | fetchedInvalid (u : Url) {d : Draft} {e : Failure} (hd : d.check = .error e) :
      EndedBy (.fetchFile u (.ok d)) e
  | loadedInvalid (path : String) {d : Draft} {e : Failure} (hd : d.check = .error e) :
      EndedBy (.loadFile path (.ok d)) e
  | recommendation (host : Option Host) (e : Failure) :
      EndedBy (.recommend host (.error e)) (.recommendation e.message)
  | retrieval (host : Option Host) (name : String) (e : Failure) :
      EndedBy (.findRecipe host name (.error e)) (.retrieval name e.message)
  | unknown (host : Option Host) (name : String) :
      EndedBy (.findRecipe host name (.ok none)) (.unknownRecipe name)
  | logSearch (recipes : List Recipe) (e : Failure) :
      EndedBy (.findLogs recipes (.error e)) (.logSearch e.message)
  | execution (h : Host) (r : Recipe) (e : Failure) :
      EndedBy (.execute h r (.error e)) (.installation r.name (executionError r.name e))
  | validation (h : Host) (r : Recipe) (e : Failure) :
      EndedBy (.validate h r (.error e)) (.installation r.name (validationError r.name e))
  | noData (h : Host) (r : Recipe) (v : Validation) (hv : v.confirmed = false) :
      EndedBy (.validate h r (.ok v)) (.noData r.name)

/-! ## What the failure of an installation tells of a failure -/

/-- What the failure `f` of an installation tells of the failure `e` of a call: its text, at the
end; all of it, if a recipe file is no recipe; and that it was an interrupt, if the call could be
interrupted. -/
structure Failure.Tells (f : Failure) (c : Call) (e : Failure) : Prop where
  message : ∃ opening, f.message = opening ++ e.message
  unwrapped : ∀ d, c.draft? = some d → f = e
  interrupt : e = .cancelled → c.heedsInterrupts = true → f.exitCode = 130

/-- The failure of a recipe tells of the failure that its reason ends with. -/
theorem Failure.Tells.installation {c : Call} {e : Failure} {name reason opening : String}
    (hc : c.draft? = none) (hr : reason = opening ++ e.message) :
    (Failure.installation name reason).Tells c e where
  message := ⟨"Could not install " ++ name ++ ": " ++ opening, by
    subst hr
    exact (String.append_assoc ..).symm⟩
  unwrapped d hd := by rw [hc] at hd; cases hd
  interrupt he _ := by
    subst he
    have hr : reason = opening ++ cancelledText := hr
    simp only [exitCode, isCancellation, hr, endsCancelled_append, if_true]

/-- The failure of an installation tells of the failure of the call that ended it. -/
theorem EndedBy.tells {c : Call} {f e : Failure} (h : EndedBy c f) (he : c.failure? = some e) :
    f.Tells c e := by
  cases h with
  | discovery | recommendation | retrieval | logSearch =>
    cases he
    exact ⟨⟨_, rfl⟩, nofun, fun he _ => by subst he; rfl⟩
  | fetching | loading =>
    cases he
    exact ⟨⟨_, rfl⟩, nofun, nofun⟩
  | fetchedInvalid _ hd | loadedInvalid _ hd =>
    simp only [Call.failure?, hd, Option.some.injEq] at he
    subst he
    exact ⟨⟨"", String.empty_append.symm⟩, fun _ _ => rfl, nofun⟩
  | execution | validation =>
    cases he
    exact .installation rfl rfl
  | unknown | noData => cases he

/-! ## How calls end -/

/-- The calls end with a failure, by the last of them that is not a report. -/
def EndsBy (cs : List Call) (f : Failure) : Prop :=
  ∃ pre c post, cs = pre ++ c :: post ∧ (∀ d ∈ post, d.isReport = true) ∧ EndedBy c f

/-- Calls before the others do not change how they end. -/
theorem EndsBy.append {ds : List Call} {f : Failure} (h : EndsBy ds f) (cs : List Call) :
    EndsBy (cs ++ ds) f := by
  obtain ⟨pre, c, post, rfl, hpost, hc⟩ := h
  exact ⟨cs ++ pre, c, post, by simp, hpost, hc⟩

/-- How calls end: none of them brings a failure, or the first that does, or that does not find what
it should, is the last of them that is not a report. -/
inductive EndsIn : List Call → Except Failure α → Prop
  | well {cs : List Call} (a : α) (h : ∀ c ∈ cs, c.failure? = none) : EndsIn cs (.ok a)
  | badly {pre post : List Call} {c : Call} {f : Failure} (hpre : ∀ d ∈ pre, d.failure? = none)
      (hc : EndedBy c f) (hpost : ∀ d ∈ post, d.isReport = true) :
      EndsIn (pre ++ c :: post) (.error f)

namespace EndsIn

variable {cs ds : List Call} {v : Except Failure α} {a : α} {f : Failure}

/-- No calls end well. -/
theorem nil (a : α) : EndsIn [] (.ok a) := .well a fun _ hc => nomatch hc

/-- A single call ends in the failure that it brings. -/
theorem single {c : Call} (hc : EndedBy c f) : EndsIn [c] (.error f : Except Failure α) :=
  @badly α [] [] c f (fun _ hd => nomatch hd) hc fun _ hd => nomatch hd

/-- A single call that brings no failure ends well. -/
theorem single_ok {c : Call} (hc : c.failure? = none) (a : α) : EndsIn [c] (.ok a) :=
  .well a fun _ hd => List.mem_singleton.1 hd ▸ hc

/-- Calls that bring no failure may come first. -/
theorem append (h : EndsIn cs (.ok a : Except Failure α)) {w : Except Failure β}
    (h' : EndsIn ds w) : EndsIn (cs ++ ds) w := by
  cases h with
  | well _ hcs =>
    cases h' with
    | well b hds => exact .well b (List.forall_mem_append.2 ⟨hcs, hds⟩)
    | badly hpre hc hpost =>
      exact List.append_assoc .. ▸ .badly (List.forall_mem_append.2 ⟨hcs, hpre⟩) hc hpost

/-- A call that brings no failure may come first. -/
theorem cons {c : Call} (hc : c.failure? = none) (h : EndsIn cs v) : EndsIn (c :: cs) v :=
  (single_ok hc ()).append h

/-- A failure that is reported. -/
theorem reported {c : Call} (hc : EndedBy c f) (r : Report) (noted : Except Failure Unit) :
    EndsIn [c, .report r noted] (.error f : Except Failure α) :=
  @badly α [] [.report r noted] c f (fun _ hd => nomatch hd) hc
    fun _ hd => List.mem_singleton.1 hd ▸ rfl

/-- What is made of the value does not change how calls end. -/
theorem map (h : EndsIn cs v) (g : α → β) : EndsIn cs (v.map g) := by
  cases h with
  | well a hcs => exact .well (g a) hcs
  | badly hpre hc hpost => exact .badly hpre hc hpost

/-- Calls that end in a failure end by the last of them that is not a report. -/
theorem endsBy (h : EndsIn cs (.error f : Except Failure α)) : EndsBy cs f := by
  cases h with
  | badly _ hc hpost => exact ⟨_, _, _, rfl, hpost, hc⟩

/-- If a call brings a failure, the calls end with one, by this call. -/
theorem of_failure (h : EndsIn cs v) {c : Call} {e : Failure} (hc : c ∈ cs)
    (he : c.failure? = some e) : ∃ f, v = .error f ∧ EndedBy c f := by
  cases h with
  | well _ hcs =>
    rw [hcs c hc] at he
    cases he
  | badly hpre hend hpost =>
    rcases List.mem_append.1 hc with hc | hc
    · rw [hpre c hc] at he
      cases he
    · rcases List.mem_cons.1 hc with rfl | hc
      · exact ⟨_, rfl, hend⟩
      · rw [Call.failure?_of_isReport (hpost c hc)] at he
        cases he

end EndsIn

/-! ## How the phases end -/

/-- The discovery ends by its call if that fails. -/
theorem DiscoveryPhase.endsIn {skip : Bool} {D : List Call} {d : Except Failure (Option Host)}
    (h : DiscoveryPhase skip D d) : EndsIn D d := by
  cases h with
  | skipped => exact .nil _
  | found h => exact .single_ok rfl _
  | failed e => exact .single (.discovery e)

/-- A recipe file is read and checked, and either may fail. -/
theorem DraftRead.endsIn {named : String} {c : Call} {v : Except Failure Draft}
    (h : DraftRead named c v) : EndsIn [c] (v.bind Draft.check) := by
  have checked {c : Call} {d : Draft} (hok : ∀ r, d.check = .ok r → c.failure? = none)
      (herror : ∀ e, d.check = .error e → EndedBy c e) : EndsIn [c] d.check := by
    cases hr : d.check with
    | ok r => exact .single_ok (hok r hr) r
    | error e => exact .single (herror e hr)
  cases h with
  | fetched _ d =>
    exact checked (fun r hr => by simp only [Call.failure?, hr]) fun _ => .fetchedInvalid _
  | notFetched _ e => exact .single (.fetching _ _ e)
  | loaded _ d =>
    exact checked (fun r hr => by simp only [Call.failure?, hr]) fun _ => .loadedInvalid _
  | notLoaded _ e => exact .single (.loading _ _ e)

/-- Reading files ends by the first that cannot be read or holds no recipe. -/
theorem FilesRead.endsIn {paths : List String} {cs : List Call} {v : Except Failure (List Recipe)}
    (h : FilesRead paths cs v) : EndsIn cs v := by
  induction h with
  | nil => exact .nil _
  | unread _ hd => exact hd.endsIn.map fun r => [r]
  | @invalid _ c d _ _ hd hr =>
    have hc : EndsIn [c] d.check := hd.endsIn
    exact (hr ▸ hc).map fun r => [r]
  | @cons _ c d _ _ _ _ hd hr _ ih =>
    have hc : EndsIn [c] d.check := hd.endsIn
    exact (hr ▸ hc).append (ih.map _)

/-- Acquisition fails by its last call; what it brings before does not matter only where the wanted
recipes are looked up by name. -/
theorem AcquisitionPhase.endsIn {p : Plan} {host : Option Host} {A : List Call}
    {v : Except Failure (List Recipe)} (h : AcquisitionPhase p host A v)
    (hp : p.paths = [] → p.names = []) : EndsIn A v := by
  cases h with
  | files _ h => exact h.endsIn
  | named hpaths hn _ => exact absurd (hp hpaths) hn
  | recommended _ _ rs noted => exact .cons rfl (.single_ok rfl rs)
  | notRecommended _ _ e => exact .single (.recommendation host e)

/-- Looking up the wanted recipes by name does not fail. -/
theorem AcquisitionPhase.not_named {p : Plan} {host : Option Host} {A : List Call} {f : Failure}
    (h : AcquisitionPhase p host A (.error f)) (hp : p.paths = []) : p.names = [] := by
  cases h with
  | files hpaths _ => exact absurd hp hpaths
  | notRecommended _ hn _ => exact hn

/-- A lookup ends by its call if no recipe is found. -/
theorem Looked.endsIn {host : Option Host} {name : String} {c : Call} {v : Except Failure Recipe}
    (h : Looked host name c v) : EndsIn [c] v := by
  cases h with
  | found r => exact .single_ok rfl r
  | missing => exact .single (.unknown host name)
  | broken e => exact .single (.retrieval host name e)

/-- An attempt that has to go well ends by its execution or its validation. -/
theorem Attempted.endsIn {h : Host} {r : Recipe} {cs : List Call} {v : Except Failure Bool}
    (ha : Attempted h r cs v) : EndsIn cs (decided r v) := by
  cases ha with
  | intro he =>
    cases he with
    | failed e noted => exact .reported (.execution h r e) _ noted
    | blank => exact .single_ok rfl ()
    | broken _ e noted => exact .cons rfl (.reported (.validation h r e) _ noted)
    | unconfirmed _ v hv noted => exact .cons rfl (.reported (.noData h r v hv) _ noted)
    | confirmed _ v hv noted => exact .cons rfl (.cons rfl (.single_ok rfl ()))

/-- Asking the operator ends well. -/
theorem Consented.endsIn {found ws : List LogWatch} {cs : List Call}
    (h : Consented found cs ws) : EndsIn cs (.ok ws) := by
  refine .well ws ?_
  induction h with
  | nil => exact fun _ hc => nomatch hc
  | accepted _ _ ih | declined _ _ _ ih => exact List.forall_mem_cons.2 ⟨rfl, ih⟩

/-- The agent's phase ends by its lookup or its attempt. -/
theorem AgentPhase.endsIn {host : Option Host} {h : Host} {skip : Bool} {I : List Call}
    {v : Except Failure Unit} (hI : AgentPhase host h skip I v) : EndsIn I v := by
  cases hI with
  | skipped => exact .nil _
  | unknown hl => exact hl.endsIn.map fun _ => ()
  | attempted hl ha => exact hl.endsIn.append ha.endsIn

/-- The logging phase ends by its lookup, its search or its attempt. -/
theorem LoggingPhase.endsIn {host : Option Host} {h : Host} {wanted : List Recipe} {skip : Bool}
    {L : List Call} {v : Except Failure Unit} (hL : LoggingPhase host h wanted skip L v) :
    EndsIn L v := by
  cases hL with
  | skipped => exact .nil _
  | unknown hl => exact hl.endsIn.map fun _ => ()
  | unsearched hl e => exact hl.endsIn.append (.single (.logSearch wanted e))
  | attempted hl hc ha => exact hl.endsIn.append (.cons rfl (hc.endsIn.append ha.endsIn))

section
variable {p : Plan} {D A I L G : List Call}

/-- An installation that fails ends with its failure. -/
theorem Phases.endsBy {f : Failure} (h : Phases p D A I L G (.error f)) :
    EndsBy (D ++ A ++ I ++ L ++ G) f := by
  cases h with
  | noHost hD => simpa using hD.endsIn.endsBy
  | noRecipes _ hA => simpa using (hA.endsIn hA.not_named).endsBy.append D
  | noAgent _ _ hI => simpa using hI.endsIn.endsBy.append (D ++ A)
  | noLogging _ _ _ hL => simpa using hL.endsIn.endsBy.append (D ++ A ++ I)

/-- A failure that a call brings before the integrations ends the installation, unless it is of a
wanted recipe that is looked up by name. -/
theorem Phases.of_failure {v : Except Failure Unit} (h : Phases p D A I L G v) {c : Call}
    {e : Failure} (hc : c ∈ D ++ I ++ L ∨ c ∈ A ∧ (p.paths = [] → p.names = []))
    (he : c.failure? = some e) : ∃ f, v = .error f ∧ EndedBy c f := by
  rcases hc with hc | ⟨hc, hp⟩
  · cases h with
    | noHost hD => exact (hD.endsIn.map fun _ => ()).of_failure (by simpa using hc) he
    | noRecipes hD _ =>
      obtain ⟨_, ⟨⟩, -⟩ := hD.endsIn.of_failure (by simpa using hc) he
    | noAgent hD _ hI => exact (hD.endsIn.append hI.endsIn).of_failure (by simpa using hc) he
    | noLogging hD _ hI hL | done hD _ hI hL _ =>
      exact (hD.endsIn.append (hI.endsIn.append hL.endsIn)).of_failure (by simpa using hc) he
  · cases h with
    | noHost => cases hc
    | noRecipes _ hA => exact ((hA.endsIn hp).map fun _ => ()).of_failure hc he
    | noAgent _ hA _ | noLogging _ hA _ _ | done _ hA _ _ _ =>
      obtain ⟨_, ⟨⟩, -⟩ := (hA.endsIn hp).of_failure hc he

end

namespace Installing

/-- An installation that fails tells of the cause. It ends with a call that failed, that read a
recipe file that is no recipe, or that did not find what it should; only a report may follow. And if
a call before the integrations failed, or read a recipe file that is no recipe, the installation
fails by this call, unless it looked a wanted recipe up by name. In both cases the failure of the
installation ends with the text of the other, it is the same for a recipe file that is no recipe,
and the installation exits as interrupted if a call was that heeds interrupts. -/
theorem install_cause (s : Services σ) (p : Plan) (w : σ) : ∃ D A I L G : List Call,
    calls (install s p) w = D ++ A ++ I ++ L ++ G ∧
    Phases p D A I L G (install s p w).value ∧
    (∀ f, (install s p w).value = .error f → ∃ pre c post,
      calls (install s p) w = pre ++ c :: post ∧ (∀ d ∈ post, d.isReport = true) ∧
      EndedBy c f ∧ ∀ e, c.failure? = some e → f.Tells c e) ∧
    (∀ c e, c ∈ D ++ I ++ L ∨ c ∈ A ∧ (p.paths = [] → p.names = []) → c.failure? = some e →
      ∃ f, (install s p w).value = .error f ∧ EndedBy c f ∧ f.Tells c e) := by
  obtain ⟨D, A, I, L, G, hcalls, h⟩ := (install_ensures s p w).2
  refine ⟨D, A, I, L, G, hcalls, h, fun f hf => ?_, fun c e hc he => ?_⟩
  · rw [hf] at h
    obtain ⟨pre, c, post, heq, hpost, hc⟩ := h.endsBy
    exact ⟨pre, c, post, hcalls.trans heq, hpost, hc, fun e => hc.tells⟩
  · obtain ⟨f, hf, hend⟩ := h.of_failure hc he
    exact ⟨f, hf, hend, hend.tells he⟩

/-- If the execution of the agent's recipe is interrupted, the installation exits as interrupted. -/
theorem install_cause_interrupted :
    let s := { Services.interrupted with findRecipe := fun _ _ => pure (some default) }
    let p : Plan := ⟨[], ["nginx"], true, false, true, true, 0⟩
    .execute .unknown default (.error .cancelled) ∈ calls (install s p) () ∧
      ∃ f, (install s p ()).value = .error f ∧ f.exitCode = 130 ∧
        ∃ opening, f.message = opening ++ Failure.message .cancelled := by
  intro s p
  let c : Call := .execute .unknown default (.error .cancelled)
  have hmem : c ∈ calls (install s p) () := by
    have hrun : calls (install s p) () = [.findRecipe none "nginx" (.ok (some default)),
        .findRecipe none agentRecipe (.ok (some default)), c,
        .report (.failed default (executionError "" .cancelled) "") (.error .cancelled)] := rfl
    rw [hrun]
    simp
  obtain ⟨D, A, I, L, G, hcalls, h, -, hcause⟩ := install_cause s p ()
  have hIL : c ∈ D ++ I ++ L := by
    have hG : G = [] := by
      rcases h.integrations with ⟨-, host, wanted, hG⟩ | ⟨hG, -⟩
      · cases hG
        rfl
      · exact hG
    have hDA : c ∉ D ++ A := fun hc => nomatch h.prepares c hc
    rw [hcalls, hG] at hmem
    simp only [List.mem_append, not_or, List.not_mem_nil, or_false] at hmem hDA ⊢
    grind
  obtain ⟨f, hf, -, htells⟩ := hcause c .cancelled (.inl hIL) rfl
  exact ⟨hmem, f, hf, htells.interrupt rfl rfl, htells.message⟩

end Installing

end Provision
