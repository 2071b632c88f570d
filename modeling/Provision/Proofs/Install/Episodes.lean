import Provision.Proofs.Install.Phases
import Provision.Proofs.Lists

/-!
# Episodes of an installation

The calls of an installation fall into episodes: an execution of a recipe with what follows it, a
recommendation with its report, or a single call of another kind (`Episodes`). Every run is made of
episodes (`Phases.episodes`), and what holds of each episode holds of a run: `Episodes.of_execute`
finds the episode of an execution, `Episodes.of_installed` that of a report that a recipe was
installed, and `Episodes.count` counts reports against executions. The law of attempts puts these
together.
-/

namespace Provision

variable {σ : Type}

/-! ## Kinds of calls -/

/-- Whether a call makes an episode of its own: it neither executes, validates nor reports, and
recommends nothing. -/
def Call.isPlain : Call → Bool
  | execute .. | validate .. | report .. | recommend _ (.ok _) => false
  | _ => true

/-- Whether a call can only come after another one of its episode. -/
def Call.isSequel : Call → Bool
  | validate .. | report .. => true
  | _ => false

/-- Whether a call executes a recipe. -/
def Call.isExecution : Call → Bool
  | execute .. => true
  | _ => false

/-- Whether a call executes a recipe that has no query, and with success. -/
def Call.isUnasked : Call → Bool
  | execute _ r (.ok ()) => Text.isBlank r.query
  | _ => false

/-- Whether a call reports that a recipe was installed or that it failed. -/
def Call.isVerdict : Call → Bool
  | report (.installed ..) _ | report (.failed ..) _ => true
  | _ => false

/-! ## Lists of episodes -/

/-- Calls that fall into episodes; the first argument says whether there may be recommendations
among them. -/
inductive Episodes : Bool → List Call → Prop
  | nil (b : Bool) : Episodes b []
  | plain {b : Bool} {c : Call} {cs : List Call} (hc : c.isPlain = true) (h : Episodes b cs) :
      Episodes b (c :: cs)
  | recommended {cs : List Call} (host : Option Host) (rs : List Recipe)
      (noted : Except Failure Unit) (h : Episodes true cs) :
      Episodes true (.recommend host (.ok rs) :: .report (.available rs) noted :: cs)
  | attempted {b : Bool} {host : Host} {r : Recipe} {cs ds : List Call} {v : Except Failure Bool}
      (ha : Attempted host r cs v) (h : Episodes b ds) : Episodes b (cs ++ ds)

variable {b : Bool}

/-- Episodes and more episodes are episodes. -/
theorem Episodes.append {cs ds : List Call} (h : Episodes b cs) (h' : Episodes b ds) :
    Episodes b (cs ++ ds) := by
  induction h with
  | nil => exact h'
  | plain hc _ ih => exact .plain hc (ih h')
  | recommended host rs noted _ ih => exact .recommended host rs noted (ih h')
  | attempted ha _ ih => exact List.append_assoc .. ▸ .attempted ha (ih h')

/-- Plain calls are episodes of their own. -/
theorem Episodes.of_plain {cs : List Call} (h : ∀ c ∈ cs, c.isPlain = true) : Episodes b cs := by
  induction cs with
  | nil => exact .nil _
  | cons c cs ih =>
    exact .plain (h c List.mem_cons_self) (ih fun d hd => h d (List.mem_cons_of_mem _ hd))

/-- An attempt is an episode. -/
theorem Attempted.episodes {host : Host} {r : Recipe} {cs : List Call} {v : Except Failure Bool}
    (h : Attempted host r cs v) : Episodes b cs :=
  cs.append_nil ▸ .attempted h (.nil _)

/-! ## The phases fall into episodes -/

/-- The discovery is a plain call, if it is made. -/
theorem DiscoveryPhase.episodes {skip : Bool} {D : List Call} {d : Except Failure (Option Host)}
    (h : DiscoveryPhase skip D d) : Episodes b D := by
  cases h with
  | skipped => exact .nil _
  | found | failed => exact .plain rfl (.nil _)

/-- Lookups of names are plain calls. -/
theorem NamesFound.episodes {host : Option Host} {names : List String} {cs : List Call}
    {rs : List Recipe} (h : NamesFound host names cs rs) : Episodes b cs := by
  induction h with
  | nil => exact .nil _
  | found _ _ _ ih | missing _ _ ih | broken _ _ _ ih => exact .plain rfl ih

/-- Recipes are acquired in plain calls, or by a recommendation and its report. -/
theorem AcquisitionPhase.episodes {p : Plan} {host : Option Host} {A : List Call}
    {v : Except Failure (List Recipe)} (h : AcquisitionPhase p host A v) : Episodes true A := by
  cases h with
  | files _ h =>
    refine .of_plain fun c hc => ?_
    have := h.readsFile c hc
    cases c <;> first | rfl | cases this
  | named _ _ h => exact h.episodes
  | recommended _ _ rs noted => exact .recommended _ rs noted (.nil _)
  | notRecommended => exact .plain rfl (.nil _)

/-- A lookup is a plain call. -/
theorem Looked.isPlain {host : Option Host} {name : String} {c : Call} {v : Except Failure Recipe}
    (h : Looked host name c v) : c.isPlain = true := by
  cases h <;> rfl

/-- The agent's phase is a lookup and an attempt. -/
theorem AgentPhase.episodes {host : Option Host} {h : Host} {skip : Bool} {I : List Call}
    {v : Except Failure Unit} (hI : AgentPhase host h skip I v) : Episodes b I := by
  cases hI with
  | skipped => exact .nil _
  | unknown hl => exact .plain hl.isPlain (.nil _)
  | attempted hl ha => exact .plain hl.isPlain ha.episodes

/-- Questions to the operator are plain calls. -/
theorem Consented.episodes {found ws : List LogWatch} {cs : List Call}
    (h : Consented found cs ws) : Episodes b cs := by
  induction h with
  | nil => exact .nil _
  | accepted _ _ ih | declined _ _ _ ih => exact .plain rfl ih

/-- The logging phase is a lookup, a search, questions and an attempt. -/
theorem LoggingPhase.episodes {host : Option Host} {h : Host} {wanted : List Recipe} {skip : Bool}
    {L : List Call} {v : Except Failure Unit} (hL : LoggingPhase host h wanted skip L v) :
    Episodes b L := by
  cases hL with
  | skipped => exact .nil _
  | unknown hl => exact .plain hl.isPlain (.nil _)
  | unsearched hl _ => exact .plain hl.isPlain (.plain rfl (.nil _))
  | attempted hl hc ha => exact .plain hl.isPlain (.plain rfl (hc.episodes.append ha.episodes))

/-- Attempts are episodes one after the other. -/
theorem AllAttempted.episodes {h : Host} {wanted : List Recipe} {cs : List Call}
    (ha : AllAttempted h wanted cs) : Episodes b cs := by
  induction ha with
  | nil => exact .nil _
  | cons ha _ ih => exact .attempted ha ih

/-- The integrations are episodes one after the other. -/
theorem IntegrationPhase.episodes {h : Host} {wanted : List Recipe} {skip : Bool} {G : List Call}
    (hG : IntegrationPhase h wanted skip G) : Episodes b G := by
  cases hG with
  | skipped => exact .nil _
  | run ha => exact ha.episodes

section
variable {p : Plan} {D A I L G : List Call} {v : Except Failure Unit}

/-- Discovery and acquisition are made of episodes. -/
theorem Phases.preparation (h : Phases p D A I L G v) : Episodes true (D ++ A) := by
  obtain ⟨d, hD⟩ := h.discovery
  rcases h.acquisition with ⟨host, a, hA⟩ | ⟨rfl, -⟩
  · exact hD.episodes.append hA.episodes
  · exact hD.episodes.append (.nil _)

/-- What comes after acquisition is made of episodes without recommendations. -/
theorem Phases.attempts (h : Phases p D A I L G v) : Episodes b (I ++ L ++ G) := by
  refine .append (.append ?_ ?_) ?_
  · rcases h.agent with ⟨host, i, hI⟩ | ⟨rfl, -⟩
    · exact hI.episodes
    · exact .nil _
  · rcases h.logging with ⟨host, wanted, l, hL⟩ | ⟨rfl, -⟩
    · exact hL.episodes
    · exact .nil _
  · rcases h.integrations with ⟨-, h, wanted, hG⟩ | ⟨rfl, -⟩
    · exact hG.episodes
    · exact .nil _

/-- Every run is made of episodes. -/
theorem Phases.episodes (h : Phases p D A I L G v) : Episodes true (D ++ A ++ I ++ L ++ G) := by
  simpa only [List.append_assoc] using h.preparation.append h.attempts

end

/-! ## What holds of episodes -/

/-- An episode is never begun by a sequel. -/
theorem Episodes.head_not_sequel {c : Call} {cs : List Call} (h : Episodes b (c :: cs)) :
    c.isSequel = false := by
  generalize hl : c :: cs = l at h
  cases h with
  | nil => cases hl
  | plain hc _ => cases hl; revert hc; cases c <;> simp [Call.isPlain, Call.isSequel]
  | recommended => cases hl; rfl
  | attempted ha _ => cases ha; cases hl; rfl

/-- After an execution come exactly the calls of its attempt. -/
theorem Episodes.of_execute {cs pre post : List Call} {host : Host} {r : Recipe}
    {a : Except Failure Unit} (h : Episodes b cs) (hcs : cs = pre ++ .execute host r a :: post) :
    ∃ events rest v, post = events ++ rest ∧ AfterExecution host r a events v ∧
      ∀ c ∈ rest.head?, c.isSequel = false := by
  -- The execution begins an attempt, or it stands in a later episode.
  induction h generalizing pre with
  | nil => simp at hcs
  | @plain _ c ds hc h ih =>
    cases pre with
    | nil => cases hcs; cases hc
    | cons p pre => exact ih (List.cons.inj hcs).2
  | @recommended ds _ rs noted h ih =>
    obtain ⟨pre', -, hd⟩ := append_eq_append_cons [_, _] hcs (by simp)
    exact ih hd
  | @attempted _ host' r' cs' ds v ha h ih =>
    cases ha with
    | @intro a' events _ he =>
      cases pre with
      | nil =>
        cases hcs
        refine ⟨events, ds, v, rfl, he, fun c hc => ?_⟩
        cases ds with
        | nil => cases hc
        | cons d ds => cases hc; exact h.head_not_sequel
      | cons p pre =>
        have hn : Call.execute host r a ∉ events := by cases he <;> simp
        obtain ⟨pre', -, hd⟩ := append_eq_append_cons events (List.cons.inj hcs).2 hn
        exact ih hd

/-- The calls end with a validation that confirmed the data of a recipe, for an entity. -/
def EndsConfirmed (r : Recipe) (entity : String) (cs : List Call) : Prop :=
  ∃ pre host v, cs = pre ++ [.validate host r (.ok v)] ∧ v.confirmed = true ∧ entity = v.entity

/-- Calls before the others do not change that these end confirmed. -/
theorem EndsConfirmed.append {r : Recipe} {entity : String} {ds : List Call} (cs : List Call)
    (h : EndsConfirmed r entity ds) : EndsConfirmed r entity (cs ++ ds) := by
  obtain ⟨pre, host, v, rfl, hv⟩ := h
  exact ⟨cs ++ pre, host, v, by simp, hv⟩

/-- Before a report that a recipe was installed comes the validation that confirmed it. -/
theorem Episodes.of_installed {cs pre post : List Call} {r : Recipe} {message entity : String}
    {noted : Except Failure Unit} (h : Episodes b cs)
    (hcs : cs = pre ++ .report (.installed r message entity) noted :: post) :
    EndsConfirmed r entity pre ∧ message = "" := by
  have later (cs : List Call) {ds pre : List Call}
      (hcs : cs ++ ds = pre ++ .report (.installed r message entity) noted :: post)
      (hn : .report (.installed r message entity) noted ∉ cs)
      (ih : ∀ {pre}, ds = pre ++ .report (.installed r message entity) noted :: post →
        EndsConfirmed r entity pre ∧ message = "") : EndsConfirmed r entity pre ∧ message = "" := by
    obtain ⟨pre', rfl, hd⟩ := append_eq_append_cons cs hcs hn
    exact ⟨(ih hd).1.append cs, (ih hd).2⟩
  induction h generalizing pre with
  | nil => simp at hcs
  | @plain _ c ds hc h ih => exact later [c] hcs (by rintro (_ | ⟨_, ⟨⟩⟩); cases hc) ih
  | recommended _ _ _ _ ih => exact later [_, _] hcs (by simp) ih
  | attempted ha h ih =>
    cases ha with
    | intro he =>
      cases he with
      | failed | blank | broken | unconfirmed => exact later _ hcs (by simp) ih
      | confirmed hq v hv noted =>
        match pre, hcs with
        | [_, _], hcs => cases hcs; exact ⟨⟨[_], _, v, rfl, hv, rfl⟩, rfl⟩
        | a :: b :: c :: pre, hcs =>
          have hd := (List.cons.inj (List.cons.inj (List.cons.inj hcs).2).2).2
          exact ⟨(ih hd).1.append [a, b, c], (ih hd).2⟩

/-- Of the executions in a run, each is followed by one report of a verdict, but for those that
succeeded and whose recipe has no query. -/
theorem Episodes.count {cs : List Call} (h : Episodes b cs) :
    cs.countP Call.isVerdict + cs.countP Call.isUnasked = cs.countP Call.isExecution := by
  induction h with
  | nil => rfl
  | @plain _ c cs hc _ ih =>
    have hn : c.isVerdict = false ∧ c.isUnasked = false ∧ c.isExecution = false := by
      cases c <;> first | exact ⟨rfl, rfl, rfl⟩ | cases hc
    simp [hn, ih]
  | recommended => simpa [List.countP_cons, Call.isVerdict, Call.isUnasked, Call.isExecution]
  | attempted ha _ ih =>
    cases ha with
    | intro he =>
      cases he <;> simp [List.countP_cons, Call.isVerdict, Call.isUnasked, Call.isExecution, *] <;>
        omega

namespace Installing

/-- The law of attempts. What follows an execution in a run is exactly what `AfterExecution` says,
and then something of another kind; reports of verdicts and successful executions without a query
make up the executions; and a report that a recipe was installed comes right after the validation
that confirmed it. -/
theorem install_attempts (s : Services σ) (p : Plan) (w : σ) :
    (∀ pre host r a post, calls (install s p) w = pre ++ .execute host r a :: post →
      ∃ events rest v, post = events ++ rest ∧ AfterExecution host r a events v ∧
        ∀ c ∈ rest.head?, c.isSequel = false) ∧
    (calls (install s p) w).countP Call.isVerdict + (calls (install s p) w).countP Call.isUnasked =
      (calls (install s p) w).countP Call.isExecution ∧
    (∀ pre r message entity noted post,
      calls (install s p) w = pre ++ .report (.installed r message entity) noted :: post →
      message = "" ∧ ∃ pre' host v, pre = pre' ++ [.validate host r (.ok v)] ∧
        v.confirmed = true ∧ entity = v.entity) := by
  obtain ⟨D, A, I, L, G, hc, hp⟩ := (install_ensures s p w).2
  have h : Episodes true (calls (install s p) w) := hc ▸ hp.episodes
  refine ⟨fun pre host r a post hcs => h.of_execute hcs, h.count,
    fun pre r message entity noted post hcs => ?_⟩
  obtain ⟨hv, hm⟩ := h.of_installed hcs
  exact ⟨hm, hv⟩

end Installing

end Provision
