import Provision.Proofs.Install.Causes

/-!
# The exit status of a failed installation

An installation that fails exits with 130 or 1, and 130 is meant for interrupts. Which of the two it
is, is read off the text of the failure, so the status does not depend on the failure of the call
that ended the installation but on how the text of that failure ends (`EndedBy.exitCode_eq`): a call
that `soundsInterrupted` makes the installation exit with 130, and every other one makes it exit
with 1 (`Installing.install_exitStatus`). Calls that were interrupted sound so, but so does a
validation that a server answers with the text of an interrupt: then the installation exits as
interrupted though nothing was (`Installing.exitStatus_mistaken`).
-/

namespace Provision

variable {σ : Type}

/-- A recipe file that is no recipe is not mistaken for an interrupt. -/
theorem Draft.not_isCancellation_of_check {d : Draft} {e : Failure} (h : d.check = .error e) :
    e.isCancellation = false := by
  unfold Draft.check at h
  split at h
  · cases h
    rfl
  · split at h
    · cases h
      rfl
    · cases h

/-! ## The call that ends an installation -/

namespace Call

/-- Whether a call heeds interrupts and failed with a text that ends like that of an interrupt. -/
def soundsInterrupted (c : Call) : Bool :=
  c.heedsInterrupts && c.failure?.any fun e => Failure.endsCancelled e.message

/-- Whether the answer of a call is that it was interrupted. -/
def wasInterrupted : Call → Bool
  | discover (.error .cancelled) | loadFile _ (.error .cancelled) | fetchFile _ (.error .cancelled)
  | findRecipe _ _ (.error .cancelled) | recommend _ (.error .cancelled)
  | findLogs _ (.error .cancelled) | confirm _ (.error .cancelled)
  | execute _ _ (.error .cancelled) | validate _ _ (.error .cancelled)
  | report _ (.error .cancelled) => true
  | _ => false

/-- The last of some calls that is not a report. -/
def lastAsked? (cs : List Call) : Option Call := (cs.filter (!·.isReport)).getLast?

/-- If only reports come after a call that is none, it is the last one asked. -/
theorem lastAsked?_append {pre post : List Call} {c : Call} (hc : c.isReport = false)
    (hpost : ∀ d ∈ post, d.isReport = true) : lastAsked? (pre ++ c :: post) = some c := by
  have hnone : post.filter (!·.isReport) = [] := by
    refine List.filter_eq_nil_iff.2 fun d hd => ?_
    simp only [hpost d hd, Bool.not_true, Bool.false_eq_true, not_false_eq_true]
  rw [lastAsked?, List.filter_append, List.filter_cons_of_pos (by simp only [hc, Bool.not_false]),
    hnone, List.getLast?_concat]

end Call

/-- The exit status of an installation is decided by the call that ended it. -/
theorem EndedBy.exitCode_eq {c : Call} {f : Failure} (h : EndedBy c f) :
    f.exitCode = if c.soundsInterrupted then 130 else 1 := by
  have hf : f.isCancellation = c.soundsInterrupted := by
    cases h with
    | discovery | recommendation | retrieval | logSearch | fetching | loading | unknown | noData =>
      rfl
    | fetchedInvalid _ hd | loadedInvalid _ hd => exact Draft.not_isCancellation_of_check hd
    | execution h r e | validation h r e =>
      exact Failure.EndsInColon.endsCancelled (.append (by decide) _) e.message
  rw [Failure.exitCode, hf]

/-- A call that ends an installation is no report. -/
theorem EndedBy.not_isReport {c : Call} {f : Failure} (h : EndedBy c f) : c.isReport = false := by
  cases h <;> rfl

/-- The call that calls end by is the last one that is not a report. -/
theorem EndsBy.lastAsked {cs : List Call} {f : Failure} (h : EndsBy cs f) :
    ∃ c, Call.lastAsked? cs = some c ∧ c ∈ cs ∧ EndedBy c f := by
  obtain ⟨pre, c, post, rfl, hpost, hc⟩ := h
  exact ⟨c, Call.lastAsked?_append hc.not_isReport hpost, by simp, hc⟩

namespace Installing

/-- The exit status of an installation that fails is that of an interrupt if the call that ended it,
the last one that is not a report, sounds interrupted, and else it is that of a failure. So an
installation in which no call sounds interrupted exits with 1, whatever the names, paths and texts
of its failures are. -/
theorem install_exitStatus (s : Services σ) (p : Plan) (w : σ) (f : Failure)
    (hf : (install s p w).value = .error f) :
    (f.exitCode = 130 ∨ f.exitCode = 1) ∧
    (∃ c, Call.lastAsked? (calls (install s p) w) = some c ∧ EndedBy c f ∧
      f.exitCode = if c.soundsInterrupted then 130 else 1) ∧
    ((∀ c ∈ calls (install s p) w, c.soundsInterrupted = false) → f.exitCode = 1) := by
  obtain ⟨D, A, I, L, G, hcalls, h⟩ := (install_ensures s p w).2
  rw [hf] at h
  obtain ⟨c, hlast, hmem, hc⟩ := h.endsBy.lastAsked
  rw [← hcalls] at hlast hmem
  refine ⟨f.exitCode_eq, ⟨c, hlast, hc, hc.exitCode_eq⟩, fun hquiet => ?_⟩
  rw [hc.exitCode_eq, hquiet c hmem]
  rfl

/-- Services that find a recipe for any name and run it, and fail to validate it. -/
def failingValidation (r : Recipe) (message : String) : Services Unit :=
  { Services.interrupted with
    findRecipe := fun _ _ => pure (some r)
    execute := fun _ _ => pure ()
    validate := fun _ _ => Work.fail (.validation message)
    report := fun _ => pure () }

/-- The calls of an installation of the agent whose validation fails. -/
theorem calls_failingValidation :
    let r : Recipe := { (default : Recipe) with query := "SELECT 1" }
    let p : Plan := ⟨[], ["nginx"], true, false, true, true, 0⟩
    ∀ message, let e := Failure.validation message
      calls (install (failingValidation r message) p) () =
        [.findRecipe none "nginx" (.ok (some r)), .findRecipe none agentRecipe (.ok (some r)),
          .execute .unknown r (.ok ()), .validate .unknown r (.error e),
          .report (.failed r (validationError r.name e) "") (.ok ())] ∧
      (install (failingValidation r message) p ()).value =
        .error (.installation r.name (validationError r.name e)) :=
  fun _ => ⟨rfl, rfl⟩

/-- A validation that fails with a text that only begins like that of an interrupt makes the
installation exit with 1. -/
theorem install_exitStatus_unmistaken :
    let r : Recipe := { (default : Recipe) with query := "SELECT 1" }
    let p : Plan := ⟨[], ["nginx"], true, false, true, true, 0⟩
    let s := failingValidation r "Operation cancelled by the server"
    ∃ f, (install s p ()).value = .error f ∧
      (∀ c ∈ calls (install s p) (), c.soundsInterrupted = false) ∧ f.exitCode = 1 := by
  intro r p s
  obtain ⟨hcalls, hvalue⟩ := calls_failingValidation "Operation cancelled by the server"
  have hquiet : ∀ c ∈ calls (install s p) (), c.soundsInterrupted = false := by
    rw [hcalls]
    decide
  exact ⟨_, hvalue, hquiet, (install_exitStatus s p () _ hvalue).2.2 hquiet⟩

/-- A validation that a server answers with the text of an interrupt makes the installation exit
with 130, though nothing was interrupted. -/
theorem exitStatus_mistaken :
    ¬ ∀ (s : Services Unit) (p : Plan) (f : Failure), (install s p ()).value = .error f →
      (∀ c ∈ calls (install s p) (), c.wasInterrupted = false) → f.exitCode = 1 := by
  intro h
  obtain ⟨hcalls, hvalue⟩ := calls_failingValidation "Operation cancelled"
  have hexit := h _ _ _ hvalue (by rw [hcalls]; decide)
  exact absurd hexit (by decide)

end Installing

end Provision
