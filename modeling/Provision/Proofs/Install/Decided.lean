import Provision.Proofs.Install.Coupling

/-!
# What decides an installation

How an installation ends is decided before the integrations. If other services answer the calls of
the preparation as these do (`Answers`), then they are asked the same and the preparation ends in
the same (`following`). After it nothing can fail any more: the integrations execute each of the
wanted recipes once, in order, whatever becomes of the others (`AllAttempted.executed`), and the
installation succeeds. `Installing.install_decided` puts the two together.
-/

namespace Provision

variable {σ τ α : Type}

/-! ## Services that answer calls -/

/-- The services answer calls as these say, one after the other, from one world to another. -/
inductive Answers (t : Services τ) : τ → List Call → τ → Prop
  | nil (v : τ) : Answers t v [] v
  | cons {v v₁ v' : τ} {c : Call} {os : List Output} {cs : List Call} (hc : t.Gives v c os v₁)
      (h : Answers t v₁ cs v') : Answers t v (c :: cs) v'

/-- Answers can be cut anywhere. -/
theorem Answers.split {t : Services τ} {v v' : τ} {cs ds : List Call}
    (h : Answers t v (cs ++ ds) v') : ∃ v₁, Answers t v cs v₁ ∧ Answers t v₁ ds v' := by
  induction cs generalizing v with
  | nil => exact ⟨v, .nil v, h⟩
  | cons c cs ih =>
    cases h with
    | cons hc h =>
      obtain ⟨v₁, hcs, hds⟩ := ih h
      exact ⟨v₁, .cons hc hcs, hds⟩

namespace Installing

/-! ## Following the answers -/

/-- Work that, wherever the services answer all calls of other work, makes the same calls, ends in
the same, and leaves the world that the answers leave. -/
def Follows (t : Services τ) (x : Installing σ α) (y : Installing τ α) : Prop :=
  ∀ w v v', Answers t v (calls x w) v' →
    (y v).value = (x w).value ∧ calls y v = calls x w ∧ (y v).world = v'

namespace Follows

variable {s : Services σ} {t : Services τ}

/-- An answer that is there already follows itself. -/
theorem pure (a : α) : Follows t (pure a : Installing σ α) (pure a) := by
  intro w v v' h
  cases h with
  | nil => exact ⟨rfl, rfl, rfl⟩

/-- A failure of its own follows itself. -/
theorem fail (e : Failure) : Follows t (Work.fail e : Installing σ α) (Work.fail e) := by
  intro w v v' h
  cases h with
  | nil => exact ⟨rfl, rfl, rfl⟩

/-- What is shown follows itself. -/
theorem present (o : Output) : Follows t (present o : Installing σ Unit) (present o) := by
  intro w v v' h
  cases h with
  | nil => exact ⟨rfl, rfl, rfl⟩

/-- A request follows itself, because its call is answered alike. -/
theorem ask (q : Request α) : Follows t (ask q.call (s.serve q)) (ask q.call (t.serve q)) := by
  intro w v v' h
  cases h with
  | cons hc h =>
    cases h with
    | nil =>
      obtain ⟨ha, hv⟩ := hc.eq_serve
      refine ⟨congrArg Except.ok ha.symm, ?_, hv.symm⟩
      exact congrArg (fun a => [q.call a]) ha.symm

/-- Work in two steps follows other work if each step does. -/
theorem bind {β : Type} {x : Installing σ α} {y : Installing τ α} {f : α → Installing σ β}
    {g : α → Installing τ β} (hx : Follows t x y) (hf : ∀ a, Follows t (f a) (g a)) :
    Follows t (x >>= f) (y >>= g) := by
  intro w v v' h
  cases hv : (x w).value with
  | error e =>
    rw [calls_bind_of_error hv] at h
    obtain ⟨hvalue, hcalls, hworld⟩ := hx w v v' h
    rw [hv] at hvalue
    rw [calls_bind_of_error hv, calls_bind_of_error hvalue, Work.bind_eq_of_error hv,
      Work.bind_eq_of_error hvalue]
    exact ⟨rfl, hcalls, hworld⟩
  | ok a =>
    rw [calls_bind_of_ok hv] at h
    obtain ⟨v₁, hcs, hds⟩ := h.split
    obtain ⟨hvalue, hcalls, rfl⟩ := hx w v v₁ hcs
    obtain ⟨hvalue', hcalls', hworld'⟩ := hf a _ _ _ hds
    rw [hv] at hvalue
    rw [calls_bind_of_ok hv, calls_bind_of_ok hvalue, Work.bind_eq_of_ok hv,
      Work.bind_eq_of_ok hvalue, hcalls, hcalls']
    exact ⟨hvalue', rfl, hworld'⟩

/-- A report follows itself, whatever becomes of it. -/
theorem note (r : Report) : Follows t (note s r) (note t r) := by
  refine .bind (.ask (.report r)) fun a => ?_
  cases a with
  | ok u => exact .pure ()
  | error e => exact .present _

end Follows

/-- Installations follow the answers to their calls. -/
def following (s : Services σ) (t : Services τ) : Coupling s t where
  rel := Follows t
  pure := .pure
  fail := .fail
  bind := .bind
  present o _ := .present o
  ask q _ := .ask q
  note := .note

end Installing

/-! ## The integrations -/

/-- The recipe that a call executes, and the host. -/
def Call.executed? : Call → Option (Host × Recipe)
  | execute h r _ => some (h, r)
  | _ => none

/-- An attempt executes its recipe once. -/
theorem Attempted.executed {h : Host} {r : Recipe} {cs : List Call} {v : Except Failure Bool}
    (ha : Attempted h r cs v) : cs.filterMap Call.executed? = [(h, r)] := by
  cases ha with
  | intro he => cases he <;> rfl

/-- Each recipe is executed once, in order, whatever becomes of the others. -/
theorem AllAttempted.executed {h : Host} {wanted : List Recipe} {cs : List Call}
    (ha : AllAttempted h wanted cs) : cs.filterMap Call.executed? = wanted.map (h, ·) := by
  induction ha with
  | nil => rfl
  | cons ha _ ih =>
    rw [List.filterMap_append, ha.executed, ih, List.map_cons, List.singleton_append]

/-- The integrations execute every wanted recipe once, on the host, unless they are left out. -/
theorem IntegrationPhase.executed {h : Host} {wanted : List Recipe} {skip : Bool} {G : List Call}
    (hG : IntegrationPhase h wanted skip G) :
    G.filterMap Call.executed? = if skip then [] else wanted.map (h, ·) := by
  cases hG with
  | skipped => rfl
  | run ha => exact ha.executed

namespace Installing

/-- The greeting and the good news make no calls and cannot fail. -/
theorem install_eq_phases (s : Services σ) (p : Plan) (w : σ) :
    (install s p w).value = (phases s p w).value ∧
      calls (install s p) w = calls (phases s p) w := by
  let news : Unit → Installing σ Unit := fun _ => present (Banner.success p.accountId)
  show ((phases s p >>= news) w).value = _ ∧ calls (phases s p >>= news) w = _
  cases hv : (phases s p w).value with
  | error e =>
    rw [Work.bind_eq_of_error hv, calls_bind_of_error hv]
    exact ⟨rfl, rfl⟩
  | ok u =>
    rw [Work.bind_eq_of_ok hv, calls_bind_of_ok hv]
    exact ⟨rfl, List.append_nil _⟩

/-- An installation whose preparation fails does nothing more. -/
theorem install_of_unprepared {s : Services σ} {p : Plan} {w : σ} {e : Failure}
    (h : (prepare s p w).value = .error e) :
    (install s p w).value = .error e ∧ calls (install s p) w = calls (prepare s p) w := by
  obtain ⟨hvalue, hcalls⟩ := install_eq_phases s p w
  rw [hvalue, hcalls, phases_eq, Work.bind_eq_of_error h, calls_bind_of_error h]
  exact ⟨rfl, rfl⟩

/-- An installation that is prepared succeeds, after its integrations. -/
theorem install_of_prepared {s : Services σ} {p : Plan} {w : σ} {a : Host × List Recipe}
    (h : (prepare s p w).value = .ok a) :
    (install s p w).value = .ok () ∧ ∃ G, calls (install s p) w = calls (prepare s p) w ++ G ∧
      IntegrationPhase a.1 a.2 p.skipIntegrations G := by
  obtain ⟨hvalue, hcalls⟩ := install_eq_phases s p w
  obtain ⟨hok, hG⟩ :=
    (integrations_ensures s p.skipIntegrations a.1 a.2 (prepare s p w).world).2
  rw [hvalue, hcalls, phases_eq, Work.bind_eq_of_ok h, calls_bind_of_ok h]
  exact ⟨hok, _, rfl, hG⟩

/-- An installation ends as its preparation does. -/
theorem install_value (s : Services σ) (p : Plan) (w : σ) :
    (install s p w).value = (prepare s p w).value.map fun _ => () := by
  cases h : (prepare s p w).value with
  | error e => exact (install_of_unprepared h).1
  | ok a => exact (install_of_prepared h).1

/-- How an installation ends is decided before the integrations. Services that answer the calls of
the preparation in the same way are asked the same up to there, and the installation with them ends
in the same, whatever they answer later. If the preparation fails, nothing more is asked for. Else
the installation succeeds, and after the preparation it executes just the acquired recipes, each
once and in order, unless the integrations are left out. -/
theorem install_decided (s : Services σ) (p : Plan) (w : σ) :
    (∀ (τ : Type) (t : Services τ) (v v' : τ), Answers t v (calls (prepare s p) w) v' →
      (install t p v).value = (install s p w).value ∧
      calls (prepare t p) v = calls (prepare s p) w) ∧
    (∀ e, (prepare s p w).value = .error e →
      (install s p w).value = .error e ∧ calls (install s p) w = calls (prepare s p) w) ∧
    (∀ h wanted, (prepare s p w).value = .ok (h, wanted) → (install s p w).value = .ok () ∧
      ∃ D A I L G host, calls (prepare s p) w = D ++ A ++ I ++ L ∧
        AcquisitionPhase p host A (.ok wanted) ∧
        calls (install s p) w = calls (prepare s p) w ++ G ∧
        G.filterMap Call.executed? = if p.skipIntegrations then [] else wanted.map (h, ·)) := by
  refine ⟨fun τ t v v' hsame => ?_, fun e => install_of_unprepared, fun h wanted hready => ?_⟩
  · obtain ⟨hvalue, hcalls, -⟩ := (following s t).prepare p w v v' hsame
    rw [install_value, install_value, hvalue]
    exact ⟨rfl, hcalls⟩
  · obtain ⟨hvalue, G, hcalls, hG⟩ := install_of_prepared hready
    obtain ⟨D, A, I, L, hphases, hprepared⟩ := (prepare_ensures s p w).2
    rw [hready] at hprepared
    refine ⟨hvalue, D, A, I, L, G, ?_⟩
    cases hprepared with
    | ready hD hA hI hL => exact ⟨_, hphases, hA, hcalls, hG.executed⟩

/-- An interrupt in the integrations does not change how an installation ends. -/
theorem install_decided_interrupted :
    let t := { Services.interrupted with findRecipe := fun _ _ => pure (some default) }
    let s := { t with execute := fun _ _ => pure () }
    let p : Plan := ⟨[], ["nginx"], true, true, true, false, 0⟩
    Answers t () (calls (prepare s p) ()) () ∧
      (install t p ()).value = (install s p ()).value := by
  intro t s p
  have h : Answers t () (calls (prepare s p) ()) () := .cons (.findRecipe none "nginx") (.nil ())
  exact ⟨h, ((install_decided s p ()).1 Unit t () () h).1⟩

end Installing

end Provision
