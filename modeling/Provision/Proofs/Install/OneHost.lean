import Provision.Proofs.Install.Phases

/-!
# One host for the whole installation

An installation finds out about its host at most once, and everything it asks for afterwards is
asked for this host. `Call.IsFor` says what that means for each kind of call: a catalog is told the
host only if it is known, while a recipe is executed and validated for a host in any case, which is
`Host.unknown` if discovery was left out. Every phase keeps to the host that it is given, and so
does the installation (`Installing.install_oneHost`).
-/

namespace Provision

variable {σ : Type}

/-- Whether a call comes after discovery and is made for a host, if one was found: a catalog is
asked for this host or for none, and a recipe is executed and validated on it or on one of which
nothing is known. -/
def Call.IsFor (host : Option Host) : Call → Prop
  | discover _ => False
  | findRecipe host' _ _ | recommend host' _ => host' = host
  | execute h _ _ | validate h _ _ => h = host.getD .unknown
  | loadFile .. | fetchFile .. | findLogs .. | confirm .. | report .. => True

/-! ## What each phase asks for -/

section
variable {host : Option Host}

/-- Reading a file is for no host in particular. -/
theorem Call.isFor_of_readsFile {c : Call} (h : c.readsFile = true) : c.IsFor host := by
  cases c with
  | loadFile | fetchFile => trivial
  | _ => cases h

/-- Names are looked up for the host. -/
theorem NamesFound.isFor {names : List String} {cs : List Call} {rs : List Recipe}
    (h : NamesFound host names cs rs) : ∀ c ∈ cs, c.IsFor host := by
  induction h with
  | nil => exact fun _ hc => nomatch hc
  | found _ _ _ ih | missing _ _ ih | broken _ _ _ ih => exact List.forall_mem_cons.2 ⟨rfl, ih⟩

/-- Recipes are acquired for the host. -/
theorem AcquisitionPhase.isFor {p : Plan} {A : List Call} {v : Except Failure (List Recipe)}
    (h : AcquisitionPhase p host A v) : ∀ c ∈ A, c.IsFor host := by
  cases h with
  | files _ h => exact fun c hc => Call.isFor_of_readsFile (h.readsFile c hc)
  | named _ _ h => exact h.isFor
  | recommended =>
    exact List.forall_mem_cons.2 ⟨rfl, fun c hc => List.mem_singleton.1 hc ▸ trivial⟩
  | notRecommended => exact fun c hc => List.mem_singleton.1 hc ▸ rfl

/-- A recipe is looked up for the host. -/
theorem Looked.isFor {name : String} {c : Call} {v : Except Failure Recipe}
    (h : Looked host name c v) : c.IsFor host := by
  cases h <;> rfl

/-- An attempt executes and validates on the host that it is made for. -/
theorem Attempted.isFor {r : Recipe} {cs : List Call} {v : Except Failure Bool}
    (ha : Attempted (host.getD .unknown) r cs v) : ∀ c ∈ cs, c.IsFor host := by
  cases ha with
  | intro he =>
    refine List.forall_mem_cons.2 ⟨rfl, ?_⟩
    cases he with
    | failed => exact fun c hc => List.mem_singleton.1 hc ▸ trivial
    | blank => exact fun _ hc => nomatch hc
    | broken | unconfirmed | confirmed =>
      exact List.forall_mem_cons.2 ⟨rfl, fun c hc => List.mem_singleton.1 hc ▸ trivial⟩

/-- The agent is installed for the host. -/
theorem AgentPhase.isFor {skip : Bool} {I : List Call} {v : Except Failure Unit}
    (hI : AgentPhase host (host.getD .unknown) skip I v) : ∀ c ∈ I, c.IsFor host := by
  cases hI with
  | skipped => exact fun _ hc => nomatch hc
  | unknown hl => exact fun c hc => List.mem_singleton.1 hc ▸ hl.isFor
  | attempted hl ha => exact List.forall_mem_cons.2 ⟨hl.isFor, ha.isFor⟩

/-- Questions to the operator are about no host. -/
theorem Consented.isFor {found ws : List LogWatch} {cs : List Call} (h : Consented found cs ws) :
    ∀ c ∈ cs, c.IsFor host := by
  induction h with
  | nil => exact fun _ hc => nomatch hc
  | accepted _ _ ih | declined _ _ _ ih => exact List.forall_mem_cons.2 ⟨trivial, ih⟩

/-- Logging is set up for the host. -/
theorem LoggingPhase.isFor {wanted : List Recipe} {skip : Bool} {L : List Call}
    {v : Except Failure Unit} (hL : LoggingPhase host (host.getD .unknown) wanted skip L v) :
    ∀ c ∈ L, c.IsFor host := by
  cases hL with
  | skipped => exact fun _ hc => nomatch hc
  | unknown hl => exact fun c hc => List.mem_singleton.1 hc ▸ hl.isFor
  | unsearched hl _ =>
    exact List.forall_mem_cons.2 ⟨hl.isFor, fun c hc => List.mem_singleton.1 hc ▸ trivial⟩
  | attempted hl hc ha =>
    refine List.forall_mem_cons.2 ⟨hl.isFor, List.forall_mem_cons.2 ⟨trivial, ?_⟩⟩
    exact List.forall_mem_append.2 ⟨hc.isFor, ha.isFor⟩

/-- Recipes are attempted for the host. -/
theorem AllAttempted.isFor {wanted : List Recipe} {cs : List Call}
    (ha : AllAttempted (host.getD .unknown) wanted cs) : ∀ c ∈ cs, c.IsFor host := by
  induction ha with
  | nil => exact fun _ hc => nomatch hc
  | cons ha _ ih => exact List.forall_mem_append.2 ⟨ha.isFor, ih⟩

/-- The integrations are installed for the host. -/
theorem IntegrationPhase.isFor {wanted : List Recipe} {skip : Bool} {G : List Call}
    (hG : IntegrationPhase (host.getD .unknown) wanted skip G) : ∀ c ∈ G, c.IsFor host := by
  cases hG with
  | skipped => exact fun _ hc => nomatch hc
  | run ha => exact ha.isFor

end

section
variable {p : Plan} {D A I L G : List Call} {v : Except Failure Unit}

/-- After a discovery that goes well, or that is left out, all phases keep to what it found. -/
theorem Phases.isFor (h : Phases p D A I L G v) :
    (∃ e, DiscoveryPhase p.skipDiscovery D (.error e) ∧ A ++ I ++ L ++ G = []) ∨
      ∃ host, DiscoveryPhase p.skipDiscovery D (.ok host) ∧
        ∀ c ∈ A ++ I ++ L ++ G, c.IsFor host := by
  cases h with
  | noHost hD => exact .inl ⟨_, hD, rfl⟩
  | noRecipes hD hA =>
    refine .inr ⟨_, hD, ?_⟩
    simpa using hA.isFor
  | noAgent hD hA hI =>
    refine .inr ⟨_, hD, ?_⟩
    simpa using List.forall_mem_append.2 ⟨hA.isFor, hI.isFor⟩
  | noLogging hD hA hI hL =>
    refine .inr ⟨_, hD, ?_⟩
    have hAI := List.forall_mem_append.2 ⟨hA.isFor, hI.isFor⟩
    simpa using List.forall_mem_append.2 ⟨hAI, hL.isFor⟩
  | done hD hA hI hL hG =>
    refine .inr ⟨_, hD, ?_⟩
    have hAI := List.forall_mem_append.2 ⟨hA.isFor, hI.isFor⟩
    exact List.forall_mem_append.2 ⟨List.forall_mem_append.2 ⟨hAI, hL.isFor⟩, hG.isFor⟩

end

namespace Installing

/-- An installation is for one host. If discovery is left out, everything that is asked for is for
no host, and recipes are executed and validated on a host of which nothing is known. Else discovery
comes first, and only once: if it finds a host, all that follows is for this host, in every phase
and for every recipe; and if it fails, nothing follows. -/
theorem install_oneHost (s : Services σ) (p : Plan) (w : σ) :
    (p.skipDiscovery = true ∧ ∀ c ∈ calls (install s p) w, c.IsFor none) ∨
      (p.skipDiscovery = false ∧ ∃ h rest, calls (install s p) w = .discover (.ok h) :: rest ∧
        ∀ c ∈ rest, c.IsFor (some h)) ∨
      (p.skipDiscovery = false ∧ ∃ e, calls (install s p) w = [.discover (.error e)]) := by
  obtain ⟨D, A, I, L, G, hcalls, h⟩ := (install_ensures s p w).2
  have hcalls : calls (install s p) w = D ++ (A ++ I ++ L ++ G) := by
    simpa using hcalls
  have hphases := h.isFor
  generalize p.skipDiscovery = skip at hphases ⊢
  obtain ⟨e, hD, hrest⟩ | ⟨host, hD, hrest⟩ := hphases
  · rw [hrest] at hcalls
    cases hD with
    | failed e => exact .inr (.inr ⟨rfl, e, hcalls⟩)
  · cases hD with
    | skipped => exact .inl ⟨rfl, hcalls ▸ hrest⟩
    | found host => exact .inr (.inl ⟨rfl, host, _, hcalls, hrest⟩)

end Installing

end Provision
