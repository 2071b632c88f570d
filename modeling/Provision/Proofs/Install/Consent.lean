import Provision.Proofs.Install.Episodes

/-!
# Consent

Log files are watched only if the operator agreed. The recipe that sets up logging is executed only
after the acquired recipes were searched for log files and the operator was asked about each of
those found, in order (`LoggingPhase.of_execute`); it gets those that were agreed to. Nothing else
in a run searches or asks, and what is executed or validated elsewhere are recipes as they were
found or read (`Phases.onlyTries`): these name no log files to watch, if those that were found name
none, since those that were read never do (`Draft.accepted_of_check`). `Installing.install_consent`
puts this together for every run.
-/

namespace Provision

variable {σ : Type}

/-! ## Calls that are about log files, and calls that try recipes -/

namespace Call

/-- The log files that the operator is asked about. -/
def asked? : Call → Option LogWatch
  | confirm w _ => some w
  | _ => none

/-- The log files that the operator agrees to watch. -/
def agreed? : Call → Option LogWatch
  | confirm w (.ok true) => some w
  | _ => none

/-- Whether a call searches for log files or asks the operator about some. -/
def isAboutLogs : Call → Bool
  | findLogs .. | confirm .. => true
  | _ => false

/-- The recipe that a call executes or validates. -/
def tried? : Call → Option Recipe
  | execute _ r _ | validate _ r _ => some r
  | _ => none

/-- The recipes that a call finds. -/
def found : Call → List Recipe
  | findRecipe _ _ (.ok (some r)) => [r]
  | recommend _ (.ok rs) => rs
  | _ => []

end Call

/-- Calls that are not about log files, and that only try recipes that `P` holds of. -/
def OnlyTries (P : Recipe → Prop) (cs : List Call) : Prop :=
  ∀ c ∈ cs, c.isAboutLogs = false ∧ ∀ r ∈ c.tried?, P r

namespace OnlyTries

variable {P Q : Recipe → Prop} {cs ds : List Call}

/-- No calls try nothing. -/
theorem nil : OnlyTries P [] := fun _ hc => nomatch hc

/-- Calls try what some of them or the others try. -/
theorem append (h : OnlyTries P cs) (h' : OnlyTries P ds) : OnlyTries P (cs ++ ds) :=
  List.forall_mem_append.2 ⟨h, h'⟩

/-- Calls that only try some recipes only try more of them. -/
theorem mono (h : OnlyTries P cs) (hPQ : ∀ r, P r → Q r) : OnlyTries Q cs :=
  fun c hc => ⟨(h c hc).1, fun r hr => hPQ r ((h c hc).2 r hr)⟩

/-- What only prepares tries nothing. -/
theorem of_prepares (h : ∀ c ∈ cs, c.prepares = true) : OnlyTries P cs := by
  intro c hc
  have := h c hc
  cases c with
  | findLogs | confirm | execute | validate => cases this
  | _ => exact ⟨rfl, nofun⟩

/-- Calls that are not about log files are none of those that are. -/
theorem filter_isAboutLogs (h : OnlyTries P cs) : cs.filter Call.isAboutLogs = [] :=
  List.filter_eq_nil_iff.2 fun c hc => Bool.eq_false_iff.1 (h c hc).1

end OnlyTries

/-! ## What the phases try -/

/-- A recipe that was read from a draft names no log files to watch. -/
theorem Draft.accepted_of_check {d : Draft} {r : Recipe} (h : d.check = .ok r) :
    r.accepted = none := by
  unfold Draft.check at h
  split at h
  · cases h
  · split at h
    · cases h
    · cases h
      rfl

/-- After an execution only its recipe is tried. -/
theorem AfterExecution.onlyTries {h : Host} {r : Recipe} {a : Except Failure Unit}
    {events : List Call} {v : Except Failure Bool} (he : AfterExecution h r a events v) :
    OnlyTries (· = r) events := by
  cases he <;> simp [OnlyTries, Call.isAboutLogs, Call.tried?]

/-- An attempt only tries its recipe. -/
theorem Attempted.onlyTries {h : Host} {r : Recipe} {cs : List Call} {v : Except Failure Bool}
    (ha : Attempted h r cs v) : OnlyTries (· = r) cs := by
  cases ha with
  | intro he =>
    exact List.forall_mem_cons.2 ⟨⟨rfl, fun _ hr => (Option.some.inj hr).symm⟩, he.onlyTries⟩

/-- Attempts only try the wanted recipes. -/
theorem AllAttempted.onlyTries {h : Host} {wanted : List Recipe} {cs : List Call}
    (ha : AllAttempted h wanted cs) : OnlyTries (· ∈ wanted) cs := by
  induction ha with
  | nil => exact .nil
  | cons ha _ ih =>
    refine .append (ha.onlyTries.mono ?_) (ih.mono fun r hr => List.mem_cons_of_mem _ hr)
    rintro _ rfl
    exact List.mem_cons_self

/-- The integrations only try the wanted recipes. -/
theorem IntegrationPhase.onlyTries {h : Host} {wanted : List Recipe} {skip : Bool} {G : List Call}
    (hG : IntegrationPhase h wanted skip G) : OnlyTries (· ∈ wanted) G := by
  cases hG with
  | skipped => exact .nil
  | run ha => exact ha.onlyTries

/-- A recipe that is there was found by the call that looked it up. -/
theorem Looked.eq_found {host : Option Host} {name : String} {c : Call} {r : Recipe}
    (h : Looked host name c (.ok r)) : c = .findRecipe host name (.ok (some r)) := by
  cases h
  rfl

/-- The agent that is tried is the one that was found. -/
theorem AgentPhase.onlyTries {host : Option Host} {h : Host} {skip : Bool} {I : List Call}
    {v : Except Failure Unit} (hI : AgentPhase host h skip I v) :
    OnlyTries (fun r => ∃ c ∈ I, r ∈ c.found) I := by
  cases hI with
  | skipped => exact .nil
  | unknown hl =>
    obtain ⟨a, rfl⟩ := hl.eq_findRecipe
    exact .of_prepares fun c hc => List.mem_singleton.1 hc ▸ rfl
  | attempted hl ha =>
    cases hl.eq_found
    refine List.forall_mem_cons.2 ⟨⟨rfl, nofun⟩, ha.onlyTries.mono ?_⟩
    rintro _ rfl
    exact ⟨_, List.mem_cons_self, List.mem_singleton_self _⟩

/-- Recipes that are acquired from files are those of their drafts. -/
theorem FilesRead.checked {paths : List String} {cs : List Call} {v : Except Failure (List Recipe)}
    (h : FilesRead paths cs v) {rs : List Recipe} (hv : v = .ok rs) :
    ∀ r ∈ rs, ∃ d : Draft, d.check = .ok r := by
  induction h generalizing rs with
  | nil =>
    cases hv
    exact fun _ hr => nomatch hr
  | unread | invalid => cases hv
  | @cons _ _ _ r _ _ v _ hr _ ih =>
    cases v with
    | error e => cases hv
    | ok rest =>
      cases hv
      exact List.forall_mem_cons.2 ⟨⟨_, hr⟩, ih rfl⟩

/-- Recipes that are acquired by their names were found. -/
theorem NamesFound.found_of_mem {host : Option Host} {names : List String} {cs : List Call}
    {rs : List Recipe} (h : NamesFound host names cs rs) : ∀ r ∈ rs, ∃ c ∈ cs, r ∈ c.found := by
  induction h with
  | nil => exact fun _ hr => nomatch hr
  | found name r _ ih =>
    refine List.forall_mem_cons.2 ⟨⟨_, List.mem_cons_self, List.mem_singleton_self r⟩, ?_⟩
    exact fun r' hr => (ih r' hr).imp fun c hc => ⟨List.mem_cons_of_mem _ hc.1, hc.2⟩
  | missing _ _ ih | broken _ _ _ ih =>
    exact fun r hr => (ih r hr).imp fun c hc => ⟨List.mem_cons_of_mem _ hc.1, hc.2⟩

/-- An acquired recipe was found, or it is that of a draft. -/
theorem AcquisitionPhase.found_or_checked {p : Plan} {host : Option Host} {A : List Call}
    {wanted : List Recipe} (h : AcquisitionPhase p host A (.ok wanted)) :
    ∀ r ∈ wanted, (∃ c ∈ A, r ∈ c.found) ∨ ∃ d : Draft, d.check = .ok r := by
  intro r hr
  cases h with
  | files _ h => exact .inr (h.checked rfl r hr)
  | named _ _ h => exact .inl (h.found_of_mem r hr)
  | recommended => exact .inl ⟨_, List.mem_cons_self, hr⟩

section
variable {p : Plan} {D A I L G : List Call} {v : Except Failure Unit}

/-- What is tried for the agent and as integrations was found before, or is the recipe of a draft.
-/
theorem Phases.onlyTries (h : Phases p D A I L G v) :
    OnlyTries (fun r => (∃ c ∈ D ++ A ++ I, r ∈ c.found) ∨ ∃ d : Draft, d.check = .ok r)
      (D ++ A ++ I ++ G) := by
  have agent {host : Option Host} {i : Except Failure Unit}
      (hI : AgentPhase host (host.getD .unknown) p.skipAgent I i) :
      OnlyTries (fun r => ∃ c ∈ D ++ A ++ I, r ∈ c.found) I :=
    hI.onlyTries.mono fun r ⟨c, hc, hr⟩ => ⟨c, List.mem_append_right _ hc, hr⟩
  refine .append (.append (.of_prepares h.prepares) ?_) ?_
  · rcases h.agent with ⟨host, i, hI⟩ | ⟨rfl, -⟩
    · exact (agent hI).mono fun r => .inl
    · exact .nil
  · cases h with
    | noHost | noRecipes | noAgent | noLogging => exact .nil
    | done _ hA _ _ hG =>
      refine hG.onlyTries.mono fun r hr => (hA.found_or_checked r hr).imp_left ?_
      rintro ⟨c, hc, hr⟩
      exact ⟨c, by simp [hc], hr⟩

/-- Logging has its phase for the acquired recipes, or it asks for nothing. -/
theorem Phases.logging_acquired (h : Phases p D A I L G v) :
    L = [] ∨ ∃ host wanted l, AcquisitionPhase p host A (.ok wanted) ∧
      LoggingPhase host (host.getD .unknown) wanted p.skipLogging L l ∧
      ∀ e, l = .error e → G = [] ∧ v = .error e := by
  cases h with
  | noHost | noRecipes | noAgent => exact .inl rfl
  | noLogging _ hA _ hL => exact .inr ⟨_, _, _, hA, hL, fun _ he => ⟨rfl, he⟩⟩
  | done _ hA _ hL _ => exact .inr ⟨_, _, _, hA, hL, nofun⟩

end

/-! ## The logging phase -/

/-- The operator is asked about each of the log files that were found, once and in order, and what
is accepted is what was agreed to. -/
theorem Consented.asked {found ws : List LogWatch} {cs : List Call} (h : Consented found cs ws) :
    cs.map Call.asked? = found.map some ∧ ws = cs.filterMap Call.agreed? := by
  induction h with
  | nil => exact ⟨rfl, rfl⟩
  | accepted w _ ih => exact ⟨congrArg (some w :: ·) ih.1, congrArg (w :: ·) ih.2⟩
  | @declined _ cs ws w a ha _ ih =>
    refine ⟨congrArg (some w :: ·) ih.1, ?_⟩
    have hn : (Call.confirm w a).agreed? = none := by
      match a, ha with
      | .ok false, _ => rfl
      | .error e, _ => rfl
      | .ok true, ha => exact absurd rfl ha
    rw [List.filterMap_cons_none hn]
    exact ih.2

/-- Nothing but questions is asked for consent. -/
theorem Consented.eq_confirm {found ws : List LogWatch} {cs : List Call}
    (h : Consented found cs ws) : ∀ c ∈ cs, ∃ w a, c = .confirm w a := by
  induction h with
  | nil => exact fun _ hc => nomatch hc
  | accepted w _ ih | declined w _ _ ih => exact List.forall_mem_cons.2 ⟨⟨_, _, rfl⟩, ih⟩

section
variable {host : Option Host} {h : Host} {wanted : List Recipe} {skip : Bool} {L : List Call}
  {v : Except Failure Unit}

/-- Before the execution of the logging phase, its recipe is found, the acquired recipes are
searched for log files, and the operator is asked about each of these; nothing else in the phase is
about log files. The recipe that is executed is the one that was found, with what was agreed to. -/
theorem LoggingPhase.of_execute (hL : LoggingPhase host h wanted skip L v) {pre post : List Call}
    {h' : Host} {r : Recipe} {a : Except Failure Unit} (hs : L = pre ++ .execute h' r a :: post) :
    ∃ fetched found asked b,
      pre = .findRecipe host loggingRecipe (.ok (some fetched)) ::
        .findLogs wanted (.ok found) :: asked ∧
      asked.map Call.asked? = found.map some ∧
      L.filter Call.isAboutLogs = .findLogs wanted (.ok found) :: asked ∧
      r = fetched.withAccepted ⟨asked.filterMap Call.agreed?⟩ ∧ AfterExecution h' r a post b := by
  have hx : Call.execute h' r a ∈ L := by simp [hs]
  cases hL with
  | skipped => cases hx
  | unknown hl =>
    obtain ⟨_, rfl⟩ := hl.eq_findRecipe
    simp at hx
  | unsearched hl e =>
    cases hl.eq_found
    simp at hx
  | @attempted _ fetched found ws asked ds b hl hc ha =>
    cases hl.eq_found
    obtain ⟨hasked, rfl⟩ := hc.asked
    have habout : asked.filter Call.isAboutLogs = asked := by
      refine List.filter_eq_self.2 fun c hm => ?_
      obtain ⟨w, answer, rfl⟩ := hc.eq_confirm c hm
      rfl
    have hn : Call.execute h' r a ∉ asked := by
      intro hm
      obtain ⟨w, answer, hw⟩ := hc.eq_confirm _ hm
      cases hw
    obtain ⟨pre', rfl, hd⟩ := append_eq_append_cons (_ :: _ :: asked) hs (by simp [hn])
    cases ha with
    | @intro _ events _ he =>
    -- An attempt begins with its only execution, so the questions end right before it.
    have hpre : pre' = [] := by
      cases pre' with
      | nil => rfl
      | cons c pre' =>
        have hm : Call.execute h' r a ∈ events := (List.cons.inj hd).2 ▸ by simp
        cases he <;> simp at hm
    subst hpre
    cases hd
    refine ⟨fetched, found, asked, b, by simp, hasked, ?_, rfl, he⟩
    have hpost := he.onlyTries.filter_isAboutLogs
    rw [List.filter_cons_of_neg (by rintro ⟨⟩), List.filter_cons_of_pos rfl, List.filter_append,
      habout, List.filter_cons_of_neg (by rintro ⟨⟩), hpost, List.append_nil]

/-- If the search for log files fails, it is the last call of the phase, which fails with it. -/
theorem LoggingPhase.of_unsearched (hL : LoggingPhase host h wanted skip L v) {rs : List Recipe}
    {e : Failure} (hm : .findLogs rs (.error e) ∈ L) :
    (∃ a, L = [.findRecipe host loggingRecipe a, .findLogs rs (.error e)]) ∧
      v = .error (.logSearch e.message) := by
  cases hL with
  | skipped => cases hm
  | unknown hl =>
    obtain ⟨a, rfl⟩ := hl.eq_findRecipe
    simp at hm
  | unsearched hl e' =>
    cases hl.eq_found
    obtain ⟨rfl, rfl⟩ : rs = wanted ∧ e = e' := by simpa using hm
    exact ⟨⟨_, rfl⟩, rfl⟩
  | @attempted _ _ _ _ asked ds _ hl hc ha =>
    cases hl.eq_found
    have hm : .findLogs rs (.error e) ∈ asked ++ ds := by simpa using hm
    rcases List.mem_append.1 hm with hm | hm
    · obtain ⟨w, answer, hw⟩ := hc.eq_confirm _ hm
      cases hw
    · cases (ha.onlyTries _ hm).1

end

namespace Installing

/-- Log files are watched only with consent. If the recipe that sets up logging is executed, the
acquired recipes were searched for log files, and the operator was asked about each of those found,
once and in order; nothing else in the run searched or asked; and the recipe that is executed and
validated is the one that was found, with just those log files that were agreed to. If the search
fails, nothing is asked and the recipe is not executed, and the run fails. No other recipe that is
executed or validated comes with log files to watch, unless it was found so. -/
theorem install_consent (s : Services σ) (p : Plan) (w : σ) : ∃ D A I L G : List Call,
    calls (install s p) w = D ++ A ++ I ++ L ++ G ∧
    Phases p D A I L G (install s p w).value ∧
    (∀ pre h r a post, L = pre ++ .execute h r a :: post →
      ∃ host wanted fetched found asked b, AcquisitionPhase p host A (.ok wanted) ∧
        pre = .findRecipe host loggingRecipe (.ok (some fetched)) ::
          .findLogs wanted (.ok found) :: asked ∧
        asked.map Call.asked? = found.map some ∧
        (calls (install s p) w).filter Call.isAboutLogs = .findLogs wanted (.ok found) :: asked ∧
        r = fetched.withAccepted ⟨asked.filterMap Call.agreed?⟩ ∧ AfterExecution h r a post b) ∧
    (∀ rs e, .findLogs rs (.error e) ∈ calls (install s p) w →
      (calls (install s p) w).filter Call.isAboutLogs = [.findLogs rs (.error e)] ∧
      (∃ host a, L = [.findRecipe host loggingRecipe a, .findLogs rs (.error e)]) ∧ G = [] ∧
      (install s p w).value = .error (.logSearch e.message)) ∧
    ((∀ c ∈ calls (install s p) w, ∀ r ∈ c.found, r.accepted = none) →
      ∀ c ∈ D ++ A ++ I ++ G, ∀ r ∈ c.tried?, r.accepted = none) := by
  obtain ⟨D, A, I, L, G, hcalls, h⟩ := (install_ensures s p w).2
  obtain ⟨hDAI, hG⟩ := List.forall_mem_append.1 h.onlyTries
  have habout : (calls (install s p) w).filter Call.isAboutLogs = L.filter Call.isAboutLogs := by
    rw [hcalls, List.filter_append, List.filter_append, OnlyTries.filter_isAboutLogs hDAI,
      OnlyTries.filter_isAboutLogs hG, List.nil_append, List.append_nil]
  rw [habout]
  refine ⟨D, A, I, L, G, hcalls, h, fun pre host' r a post hs => ?_, fun rs e hm => ?_, ?_⟩
  · rcases h.logging_acquired with rfl | ⟨host, wanted, l, hA, hL, -⟩
    · simp at hs
    · obtain ⟨fetched, found, asked, b, hL'⟩ := hL.of_execute hs
      exact ⟨host, wanted, fetched, found, asked, b, hA, hL'⟩
  · -- The search is in the logging phase, since nothing else is about log files.
    have hm : .findLogs rs (.error e) ∈ L.filter Call.isAboutLogs :=
      habout ▸ List.mem_filter.2 ⟨hm, rfl⟩
    have hm := (List.mem_filter.1 hm).1
    rcases h.logging_acquired with rfl | ⟨host, wanted, l, -, hL, hfail⟩
    · cases hm
    · obtain ⟨⟨a, rfl⟩, hl⟩ := hL.of_unsearched hm
      obtain ⟨hG, hv⟩ := hfail _ hl
      exact ⟨rfl, ⟨host, a, rfl⟩, hG, hv⟩
  · intro hbare c hc r hr
    rcases (h.onlyTries c hc).2 r hr with ⟨c', hc', hr'⟩ | ⟨d, hd⟩
    · have hcall : c' ∈ calls (install s p) w :=
        hcalls ▸ List.mem_append_left _ (List.mem_append_left _ hc')
      exact hbare c' hcall r hr'
    · exact Draft.accepted_of_check hd

/-- Of two log files the operator agrees to one, and the logging recipe gets just that one. -/
theorem install_consent_declined :
    let access : LogWatch := ⟨"access", "/var/log/access.log", .empty⟩
    let errors : LogWatch := ⟨"errors", "/var/log/errors.log", .empty⟩
    let s := { Services.interrupted with
      findRecipe := fun _ _ => pure (some default)
      findLogs := fun _ => pure [access, errors]
      confirm := fun w => pure (w = access)
      execute := fun _ _ => pure () }
    let p : Plan := ⟨[], ["nginx"], true, true, false, true, 0⟩
    ∃ D A I L G pre post, ∃ fetched r : Recipe, calls (install s p) () = D ++ A ++ I ++ L ++ G ∧
      L = pre ++ .execute .unknown r (.ok ()) :: post ∧
      pre.map Call.asked? = [none, none, some access, some errors] ∧
      r = fetched.withAccepted ⟨[access]⟩ := by
  intro access errors s p
  let r : Recipe := default
  have hrun : calls (install s p) () = [.findRecipe none "nginx" (.ok (some r)),
      .findRecipe none loggingRecipe (.ok (some r)), .findLogs [r] (.ok [access, errors]),
      .confirm access (.ok true), .confirm errors (.ok false),
      .execute .unknown (r.withAccepted ⟨[access]⟩) (.ok ())] := rfl
  obtain ⟨D, A, I, L, G, hcalls, -, hexec, -, hbare⟩ := install_consent s p ()
  have hfound : ∀ c ∈ calls (install s p) (), ∀ r ∈ c.found, r.accepted = none := by
    simp only [hrun, Call.found, List.forall_mem_cons, List.mem_nil_iff, false_implies,
      implies_true, and_true]
    exact ⟨rfl, rfl⟩
  -- A recipe with log files to watch is executed, so this happens in the logging phase.
  have hx : .execute .unknown (r.withAccepted ⟨[access]⟩) (.ok ()) ∈ L := by
    have hmem : .execute .unknown (r.withAccepted ⟨[access]⟩) (.ok ()) ∈
        D ++ A ++ I ++ L ++ G := by
      rw [← hcalls, hrun]
      simp
    have hn : .execute .unknown (r.withAccepted ⟨[access]⟩) (.ok ()) ∉ D ++ A ++ I ++ G :=
      fun hm => nomatch hbare hfound _ hm _ rfl
    simp only [List.mem_append, not_or] at hmem hn
    grind
  obtain ⟨pre, post, hL⟩ := List.append_of_mem hx
  obtain ⟨host, wanted, fetched, found, asked, b, -, hpre, -, habout, hr, -⟩ :=
    hexec _ _ _ _ _ hL
  rw [hrun] at habout
  cases habout
  exact ⟨D, A, I, L, G, pre, post, fetched, _, hcalls, hL, hpre ▸ rfl, hr⟩

end Installing

end Provision
