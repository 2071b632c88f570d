import Provision.Install.Run

/-!
# The calls of an installation

What an installation does to the outside are its calls, which its journal holds with their answers.
`Services.Gives` says that a call was answered as the services answer it in a world, and `Replays`
that a whole journal was, from one world to another. `Installing.Ensures` is what is proved of a
piece of an installation: whatever the world, its journal replays, and its calls and its value are
in a given relation. One rule for each way to put work together (`Ensures.pure`, `Ensures.bind`,
`Ensures.ask_bind`, …) lets a proof follow the program, so that no later proof opens a bind.
-/

namespace Provision

variable {σ α β : Type}

/-! ## Calls of a journal -/

/-- The calls that a journal holds, in order. -/
def callsOf (l : List Entry) : List Call := l.filterMap Entry.call?

/-- A call is among the calls of its journal. -/
@[simp] theorem callsOf_call (c : Call) (os : List Output) (l : List Entry) :
    callsOf (.call c os :: l) = c :: callsOf l := rfl

/-- What is shown is no call. -/
@[simp] theorem callsOf_shown (o : Output) (l : List Entry) :
    callsOf (.shown o :: l) = callsOf l := rfl

/-- The calls of two journals are those of one and those of the other. -/
@[simp] theorem callsOf_append (l l' : List Entry) :
    callsOf (l ++ l') = callsOf l ++ callsOf l' := List.filterMap_append

/-- Whether a call is a report. -/
def Call.isReport : Call → Bool
  | report .. => true
  | _ => false

/-! ## Journals and the services that they were written with -/

/-- In the world `w` the services answer a call as it says, show the outputs, and leave the world
`w'`. -/
inductive Services.Gives (s : Services σ) (w : σ) : Call → List Output → σ → Prop
  | discover : Gives s w (.discover (s.discover w).value) (s.discover w).log (s.discover w).world
  | loadFile (path : String) : Gives s w (.loadFile path (s.loadFile path w).value)
      (s.loadFile path w).log (s.loadFile path w).world
  | fetchFile (url : Url) : Gives s w (.fetchFile url (s.fetchFile url w).value)
      (s.fetchFile url w).log (s.fetchFile url w).world
  | findRecipe (host : Option Host) (name : String) :
      Gives s w (.findRecipe host name (s.findRecipe host name w).value)
        (s.findRecipe host name w).log (s.findRecipe host name w).world
  | recommend (host : Option Host) : Gives s w (.recommend host (s.recommend host w).value)
      (s.recommend host w).log (s.recommend host w).world
  | findLogs (recipes : List Recipe) : Gives s w (.findLogs recipes (s.findLogs recipes w).value)
      (s.findLogs recipes w).log (s.findLogs recipes w).world
  | confirm (watch : LogWatch) : Gives s w (.confirm watch (s.confirm watch w).value)
      (s.confirm watch w).log (s.confirm watch w).world
  | execute (h : Host) (r : Recipe) : Gives s w (.execute h r (s.execute h r w).value)
      (s.execute h r w).log (s.execute h r w).world
  | validate (h : Host) (r : Recipe) : Gives s w (.validate h r (s.validate h r w).value)
      (s.validate h r w).log (s.validate h r w).world
  | report (report : Report) : Gives s w (.report report (s.report report w).value)
      (s.report report w).log (s.report report w).world

/-- Services that are interrupted in whatever they are asked for. -/
def Services.interrupted : Services Unit where
  discover := Work.fail .cancelled
  loadFile _ := Work.fail .cancelled
  fetchFile _ := Work.fail .cancelled
  findRecipe _ _ := Work.fail .cancelled
  recommend _ := Work.fail .cancelled
  findLogs _ := Work.fail .cancelled
  confirm _ := Work.fail .cancelled
  execute _ _ := Work.fail .cancelled
  validate _ _ := Work.fail .cancelled
  report _ := Work.fail .cancelled

/-- A journal that the services can have written from one world to another: every call of it was
answered in the world that the calls before it left. -/
inductive Replays (s : Services σ) : σ → List Entry → σ → Prop
  | nil (w : σ) : Replays s w [] w
  | shown {w w' : σ} {l : List Entry} (o : Output) (h : Replays s w l w') :
      Replays s w (.shown o :: l) w'
  | call {w w₁ w' : σ} {c : Call} {os : List Output} {l : List Entry} (hc : s.Gives w c os w₁)
      (h : Replays s w₁ l w') : Replays s w (.call c os :: l) w'

/-- A journal that goes on where another one ends is replayed after it. -/
theorem Replays.append {s : Services σ} {w w₁ w' : σ} {l l' : List Entry}
    (h : Replays s w l w₁) (h' : Replays s w₁ l' w') : Replays s w (l ++ l') w' := by
  induction h with
  | nil => exact h'
  | shown o _ ih => exact .shown o (ih h')
  | call hc _ ih => exact .call hc (ih h')

/-- A journal can be cut anywhere. -/
theorem Replays.split {σ : Type} {s : Services σ} {w w' : σ} {l l' : List Entry}
    (h : Replays s w (l ++ l') w') : ∃ w₁, Replays s w l w₁ ∧ Replays s w₁ l' w' := by
  induction l generalizing w with
  | nil => exact ⟨w, .nil w, h⟩
  | cons e l ih =>
    cases h with
    | shown o h =>
      obtain ⟨w₁, hl, hl'⟩ := ih h
      exact ⟨w₁, .shown o hl, hl'⟩
    | call hc h =>
      obtain ⟨w₁, hl, hl'⟩ := ih h
      exact ⟨w₁, .call hc hl, hl'⟩

/-- A call leaves one world. -/
theorem Services.Gives.unique {s : Services σ} {w w₁ w₂ : σ} {c : Call} {os os' : List Output}
    (h : s.Gives w c os w₁) (h' : s.Gives w c os' w₂) : w₁ = w₂ := by
  cases h <;> cases h' <;> rfl

/-- A journal leaves one world. -/
theorem Replays.unique {s : Services σ} {w w₁ w₂ : σ} {l : List Entry} (h : Replays s w l w₁)
    (h' : Replays s w l w₂) : w₁ = w₂ := by
  induction h with
  | nil => cases h'; rfl
  | shown o _ ih => cases h' with | shown _ h' => exact ih h'
  | call hc _ ih =>
    cases h' with
    | call hc' h' =>
      cases hc.unique hc'
      exact ih h'

namespace Installing

/-! ## What a piece of an installation ensures -/

/-- The calls that work makes in a world. -/
def calls (x : Installing σ α) (w : σ) : List Call := callsOf (x w).log

/-- Work after work that goes well makes its calls after those of the other. -/
theorem calls_bind_of_ok {x : Installing σ α} {w : σ} {a : α} (h : (x w).value = .ok a)
    (f : α → Installing σ β) : calls (x >>= f) w = calls x w ++ calls (f a) (x w).world := by
  simp only [calls, Work.bind_eq_of_ok h, callsOf_append]

/-- Work after work that fails makes no calls. -/
theorem calls_bind_of_error {x : Installing σ α} {w : σ} {e : Failure}
    (h : (x w).value = .error e) (f : α → Installing σ β) : calls (x >>= f) w = calls x w := by
  simp only [calls, Work.bind_eq_of_error h]

/-- From every world the journal of the work replays, and its calls and its value are in the
relation `Q`. -/
def Ensures (s : Services σ) (x : Installing σ α) (Q : List Call → Except Failure α → Prop) :
    Prop :=
  ∀ w, Replays s w (x w).log (x w).world ∧ Q (calls x w) (x w).value

namespace Ensures

variable {s : Services σ} {x : Installing σ α} {f : α → Installing σ β}
  {P : List Call → Except Failure α → Prop} {Q : List Call → Except Failure β → Prop}

/-- An answer that is there already makes no call. -/
theorem pure {a : α} (h : P [] (.ok a)) : Ensures s (pure a) P := fun w => ⟨.nil w, h⟩

/-- A failure of its own makes no call. -/
theorem fail {e : Failure} (h : P [] (.error e)) : Ensures s (Work.fail e) P :=
  fun w => ⟨.nil w, h⟩

/-- What is known already makes no call. -/
theorem ofExcept {v : Except Failure α} (h : P [] v) : Ensures s (Work.ofExcept v) P := by
  cases v with
  | ok a => exact pure h
  | error e => exact fail h

/-- Showing something makes no call. -/
theorem present {P : List Call → Except Failure Unit → Prop} {o : Output} (h : P [] (.ok ())) :
    Ensures s (Installing.present o) P :=
  fun w => ⟨.shown o (.nil w), h⟩

/-- What work ensures, it ensures of every weaker relation. -/
theorem mono {P' : List Call → Except Failure α → Prop} (hx : Ensures s x P)
    (h : ∀ cs v, P cs v → P' cs v) : Ensures s x P' :=
  fun w => ⟨(hx w).1, h _ _ (hx w).2⟩

/-- Work after work: the calls of the second follow those of the first, and there are none of them
if the first fails. -/
theorem bind (hx : Ensures s x P)
    (hok : ∀ cs a, P cs (.ok a) → Ensures s (f a) fun ds v => Q (cs ++ ds) v)
    (herror : ∀ cs e, P cs (.error e) → Q cs (.error e)) : Ensures s (x >>= f) Q := by
  intro w
  obtain ⟨hj, hp⟩ := hx w
  simp only [calls] at hp ⊢
  rw [Work.bind_apply]
  cases hv : (x w).value with
  | error e =>
    rw [hv] at hp
    exact ⟨hj, herror _ _ hp⟩
  | ok a =>
    rw [hv] at hp
    obtain ⟨hj', hq⟩ := hok _ _ hp (x w).world
    exact ⟨hj.append hj', by simpa [calls] using hq⟩

/-- Work after a call whose answer is a value to it, also if it is a failure. -/
theorem ask_bind {call : Except Failure α → Call} {service : Action σ α}
    {g : Except Failure α → Installing σ β}
    (hs : ∀ w, s.Gives w (call (service w).value) (service w).log (service w).world)
    (h : ∀ a, Ensures s (g a) fun cs v => Q (call a :: cs) v) :
    Ensures s (ask call service >>= g) Q := by
  intro w
  obtain ⟨hj, hq⟩ := h (service w).value (service w).world
  exact ⟨.call (hs w) hj, hq⟩

/-- Work after something that is shown. -/
theorem present_bind {o : Output} {g : Unit → Installing σ β} (h : Ensures s (g ()) Q) :
    Ensures s (Installing.present o >>= g) Q := by
  intro w
  obtain ⟨hj, hq⟩ := h w
  exact ⟨.shown o hj, hq⟩

/-- Work after a value is the work for that value. -/
theorem pure_bind {a : α} (h : Ensures s (f a) Q) : Ensures s (Pure.pure a >>= f) Q := by
  intro w
  obtain ⟨hj, hq⟩ := h w
  exact ⟨hj, hq⟩

/-- No work is done after a failure. -/
theorem fail_bind {e : Failure} (h : Q [] (.error e)) : Ensures s (Work.fail e >>= f) Q :=
  fun w => ⟨.nil w, h⟩

/-- Work after one of two pieces of work, of which a condition selects one. -/
theorem ite_bind {c : Prop} [Decidable c] {y : Installing σ α}
    (h : Ensures s ((if c then x else y) >>= f) Q) :
    Ensures s (if c then x >>= f else y >>= f) Q := by
  by_cases hc : c
  · simpa only [if_pos hc] using h
  · simpa only [if_neg hc] using h

/-- Work after other work that is only done on a condition. -/
theorem when_bind {c : Prop} [Decidable c] {y : Installing σ Unit} {g : Unit → Installing σ β}
    (h : Ensures s ((if c then y else Pure.pure ()) >>= g) Q) :
    Ensures s (if c then y >>= g else g ()) Q :=
  ite_bind (y := Pure.pure ()) h

/-- Work with a function of its value. -/
theorem map {g : α → β} (hx : Ensures s x fun cs v => Q cs (v.map g)) : Ensures s (g <$> x) Q :=
  bind hx (fun cs _ h => pure ((List.append_nil cs).symm ▸ h)) (fun _ _ h => h)

/-- Work after a call that has to go well. -/
theorem orStop_bind {wrap : String → Failure} {a : Except Failure α}
    (hok : ∀ b, a = .ok b → Ensures s (f b) Q)
    (herror : ∀ e, a = .error e → Q [] (.error (wrap e.message))) :
    Ensures s (orStop wrap a >>= f) Q := by
  cases a with
  | ok b => exact pure_bind (hok b rfl)
  | error e => exact fail_bind (herror e rfl)

end Ensures

end Installing

end Provision
