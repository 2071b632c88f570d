import Provision.Proofs.Install.Calls

/-!
# The events of an attempt

`AfterExecution` lists what can follow the execution of a recipe: a report that it failed, nothing
if the recipe has no query, or one validation and the report of what came of it.
`Installing.attempt_ensures` says that an attempt asks for nothing else, whoever makes it
(`attemptOrStop_ensures`, `attemptOrWarn_ensures`), and whatever becomes of the reports.
-/

namespace Provision

variable {σ : Type}

open Installing (executionError validationError)

/-- What an attempt asks for after the execution of a recipe, by the answer of the execution, and
what the attempt ends in. -/
inductive AfterExecution (h : Host) (r : Recipe) :
    Except Failure Unit → List Call → Except Failure Bool → Prop
  | failed (e : Failure) (noted : Except Failure Unit) :
      AfterExecution h r (.error e)
        [.report (.failed r
          ("encountered an error while executing " ++ r.name ++ ": " ++ e.message) "") noted]
        (.error (.installation r.name (executionError r.name e)))
  | blank (hq : Text.isBlank r.query = true) : AfterExecution h r (.ok ()) [] (.ok true)
  | broken (hq : Text.isBlank r.query = false) (e : Failure) (noted : Except Failure Unit) :
      AfterExecution h r (.ok ())
        [.validate h r (.error e),
          .report (.failed r
            ("encountered an error while validating receipt of data for " ++ r.name ++ ": " ++
              e.message) "") noted]
        (.error (.installation r.name (validationError r.name e)))
  | unconfirmed (hq : Text.isBlank r.query = false) (v : Validation) (hv : v.confirmed = false)
      (noted : Except Failure Unit) :
      AfterExecution h r (.ok ())
        [.validate h r (.ok v),
          .report (.failed r "could not validate recipe data" v.entity) noted] (.ok false)
  | confirmed (hq : Text.isBlank r.query = false) (v : Validation) (hv : v.confirmed = true)
      (noted : Except Failure Unit) :
      AfterExecution h r (.ok ())
        [.validate h r (.ok v), .report (.installed r "" v.entity) noted] (.ok true)

/-- The calls of an attempt at a recipe, and what it ends in. -/
inductive Attempted (h : Host) (r : Recipe) : List Call → Except Failure Bool → Prop
  | intro {a : Except Failure Unit} {events : List Call} {v : Except Failure Bool}
      (he : AfterExecution h r a events v) : Attempted h r (.execute h r a :: events) v

/-- What an attempt that has to go well makes of its end. -/
def decided (r : Recipe) : Except Failure Bool → Except Failure Unit
  | .ok true => .ok ()
  | .ok false => .error (.noData r.name)
  | .error e => .error e

namespace Installing

variable (s : Services σ)

/-- A report is made, and that it fails is no failure. -/
theorem reportOrSay_ensures (report : Report) (failing : String) :
    Ensures s (reportOrSay s report failing) fun cs v =>
      v = .ok () ∧ ∃ noted, cs = [.report report noted] := by
  refine .ask_bind (fun _ => .report report) fun noted => ?_
  cases noted with
  | ok u => exact .pure ⟨rfl, _, rfl⟩
  | error e => exact .present ⟨rfl, _, rfl⟩

/-- Work after the report of a verdict goes on whether or not the report went well. -/
theorem Ensures.reportVerdict_bind {β : Type} {name : String} {verdict : Report}
    {f : Unit → Installing σ β} {Q : List Call → Except Failure β → Prop}
    (h : ∀ noted, Ensures s (f ()) fun cs v => Q (.report verdict noted :: cs) v) :
    Ensures s (reportVerdict s name verdict >>= f) Q := by
  refine .bind (reportOrSay_ensures s verdict _) ?_ ?_
  · rintro _ _ ⟨-, noted, rfl⟩
    exact h noted
  · rintro _ _ ⟨hv, -⟩
    cases hv

/-- An attempt executes the recipe and then asks for what `AfterExecution` says. -/
theorem attempt_ensures (h : Host) (r : Recipe) :
    Ensures s (attempt s h r) fun cs v => ∃ b, v = .ok b ∧ Attempted h r cs b := by
  refine .ask_bind (fun _ => .execute h r) fun a => ?_
  cases a with
  | error e =>
    exact .reportVerdict_bind s fun noted => .pure ⟨_, rfl, .intro (.failed e noted)⟩
  | ok u =>
    cases hq : Text.isBlank r.query with
    | true =>
      simp only [Recipe.hasQuery, hq, Bool.not_true, Bool.not_false, if_true]
      exact .present_bind (.pure ⟨_, rfl, .intro (.blank hq)⟩)
    | false =>
      simp only [Recipe.hasQuery, hq, Bool.not_true, Bool.not_false]
      refine .ask_bind (fun _ => .validate h r) fun b => ?_
      cases b with
      | error e =>
        exact .reportVerdict_bind s fun noted => .pure ⟨_, rfl, .intro (.broken hq e noted)⟩
      | ok v =>
        cases hv : v.confirmed with
        | true =>
          simp only [hv, if_true]
          exact .reportVerdict_bind s fun noted => .pure ⟨_, rfl, .intro (.confirmed hq v hv noted)⟩
        | false =>
          simp only [hv]
          exact .reportVerdict_bind s fun noted =>
            .pure ⟨_, rfl, .intro (.unconfirmed hq v hv noted)⟩

/-- An attempt that has to go well fails if data was not seen. -/
theorem attemptOrStop_ensures (h : Host) (r : Recipe) :
    Ensures s (attemptOrStop s h r) fun cs v => ∃ b, v = decided r b ∧ Attempted h r cs b := by
  refine .bind (attempt_ensures s h r) ?_ ?_
  · rintro cs b ⟨_, ⟨⟩, hb⟩
    match b with
    | .ok true => exact .present ⟨_, rfl, cs.append_nil.symm ▸ hb⟩
    | .ok false => exact .present_bind (.fail ⟨_, rfl, cs.append_nil.symm ▸ hb⟩)
    | .error e => exact .present_bind (.fail ⟨_, rfl, cs.append_nil.symm ▸ hb⟩)
  · rintro _ _ ⟨_, ⟨⟩, -⟩

/-- An attempt that may go wrong ends well, whatever became of it. -/
theorem attemptOrWarn_ensures (h : Host) (r : Recipe) :
    Ensures s (attemptOrWarn s h r) fun cs v => v = .ok () ∧ ∃ b, Attempted h r cs b := by
  refine .bind (attempt_ensures s h r) ?_ ?_
  · rintro cs b ⟨_, ⟨⟩, hb⟩
    match b with
    | .ok true => exact .present ⟨rfl, _, cs.append_nil.symm ▸ hb⟩
    | .ok false => exact .present_bind (.present ⟨rfl, _, cs.append_nil.symm ▸ hb⟩)
    | .error e => exact .present_bind (.present ⟨rfl, _, cs.append_nil.symm ▸ hb⟩)
  · rintro _ _ ⟨_, ⟨⟩, -⟩

end Installing

end Provision
