import Provision.Proofs.Install.Coupling

/-!
# Reports are a side channel

What becomes of the reports of an installation has no influence on it. `Services.withReporter` puts
any reporter beside services that know nothing of it, and `SameBesideReports` compares the journals
of two runs: they are the same entry by entry, but a report may be answered in two ways, and a
report that failed is followed by one error message, which is the only one that an installation
shows (`SameBesideReports.errors`). `Installing.install_besideReports` says that the runs with any
two reporters end in the same and have such journals.
-/

namespace Provision

variable {τ ρ ρ' α : Type}

/-! ## Reporters -/

/-- Work on a world beside that of a reporter. -/
def besideReporter (x : Action τ α) : Action (τ × ρ) α :=
  Work.zoom Prod.fst (fun w v => (w, v.2)) x

/-- Services with a reporter of their own, which shares nothing with the other services. -/
def Services.withReporter (s : Services τ) (note : Report → Action ρ Unit) : Services (τ × ρ) where
  discover := besideReporter s.discover
  loadFile path := besideReporter (s.loadFile path)
  fetchFile url := besideReporter (s.fetchFile url)
  findRecipe host name := besideReporter (s.findRecipe host name)
  recommend host := besideReporter (s.recommend host)
  findLogs recipes := besideReporter (s.findLogs recipes)
  confirm watch := besideReporter (s.confirm watch)
  execute host recipe := besideReporter (s.execute host recipe)
  validate host recipe := besideReporter (s.validate host recipe)
  report r := Work.zoom Prod.snd (fun v w => (w.1, v)) (note r)

/-- Only reports go to the reporter. -/
theorem Services.serve_withReporter {s : Services τ} {note : Report → Action ρ Unit}
    {q : Request α} (hq : q.isReport = false) :
    (s.withReporter note).serve q = besideReporter (s.serve q) := by
  cases q <;> first | rfl | cases hq

/-! ## Journals that are the same beside reports -/

/-- Whether a call is a report that failed. -/
def Call.isUnnoted : Call → Bool
  | report _ (.error _) => true
  | _ => false

/-- What is asked by a call: a report without its answer, and any other call with it. -/
def Call.besideReport : Call → Call
  | report r _ => .report r (.ok ())
  | c => c

/-- What is shown after a report was answered: nothing, or one error message if it failed. -/
def Report.complaints (r : Report) : Except Failure Unit → List Entry
  | .ok () => []
  | .error e => [.shown (.message ⟨.error, .installation, r.complaint e, []⟩)]

/-- Two journals that are the same, entry by entry, but for what reports are answered and what their
reporters show, and for the error message after a report that failed. -/
inductive SameBesideReports : List Entry → List Entry → Prop
  | nil : SameBesideReports [] []
  | shown {l l' : List Entry} {o : Output} (ho : o.isError = false) (h : SameBesideReports l l') :
      SameBesideReports (.shown o :: l) (.shown o :: l')
  | call {l l' : List Entry} {c : Call} (hc : c.isReport = false) (os : List Output)
      (h : SameBesideReports l l') : SameBesideReports (.call c os :: l) (.call c os :: l')
  | report {l l' : List Entry} (r : Report) (noted noted' : Except Failure Unit)
      (os os' : List Output) (h : SameBesideReports l l') :
      SameBesideReports (.call (.report r noted) os :: (r.complaints noted ++ l))
        (.call (.report r noted') os' :: (r.complaints noted' ++ l'))

/-- What an entry shows, unless it is a report: then the reporter shows it. -/
def Entry.ownOutputs : Entry → List Output
  | call (.report ..) _ => []
  | e => e.outputs

/-- Whether an entry is an error message of the installation itself. -/
def Entry.isError : Entry → Bool
  | shown o => o.isError
  | call .. => false

namespace SameBesideReports

/-- Journals that are the same beside reports stay so when put together. -/
theorem append {l₁ l₁' l₂ l₂' : List Entry} (h₁ : SameBesideReports l₁ l₁')
    (h₂ : SameBesideReports l₂ l₂') : SameBesideReports (l₁ ++ l₂) (l₁' ++ l₂') := by
  induction h₁ with
  | nil => exact h₂
  | shown ho _ ih => exact .shown ho ih
  | call hc os _ ih => exact .call hc os ih
  | report r noted noted' os os' _ ih =>
    simpa only [List.cons_append, List.append_assoc] using .report r noted noted' os os' ih

variable {l l' : List Entry}

/-- The same is asked in the same order, and all but reports is answered in the same way. -/
theorem asked (h : SameBesideReports l l') :
    (callsOf l).map Call.besideReport = (callsOf l').map Call.besideReport := by
  have silent (r : Report) (noted : Except Failure Unit) : callsOf (r.complaints noted) = [] := by
    cases noted <;> rfl
  induction h with
  | nil => rfl
  | shown _ _ ih => exact ih
  | call _ _ _ ih => simp only [callsOf_call, List.map_cons, ih]
  | report r noted noted' _ _ _ ih =>
    simp only [callsOf_call, callsOf_append, silent, List.nil_append, List.map_cons, ih,
      Call.besideReport]

/-- The same is shown in the same order, but for error messages and what reporters show. -/
theorem outputs (h : SameBesideReports l l') :
    (l.flatMap Entry.ownOutputs).filter (!·.isError) =
      (l'.flatMap Entry.ownOutputs).filter (!·.isError) := by
  have errors (r : Report) (noted : Except Failure Unit) :
      ((r.complaints noted).flatMap Entry.ownOutputs).filter (!·.isError) = [] := by
    cases noted <;> rfl
  induction h with
  | nil => rfl
  | shown _ _ ih | call _ _ _ ih =>
    simp only [List.flatMap_cons, List.filter_append, ih]
  | report r noted noted' _ _ _ ih =>
    simp only [List.flatMap_cons, List.flatMap_append, List.filter_append, errors, ih,
      Entry.ownOutputs]

/-- The error messages of the installation are as many as its reports that failed. -/
theorem errors (h : SameBesideReports l l') :
    l.countP Entry.isError = (callsOf l).countP Call.isUnnoted := by
  induction h with
  | nil => rfl
  | shown ho _ ih => simpa [Entry.isError, ho] using ih
  | @call l l' c hc os _ ih =>
    have hn : c.isUnnoted = false := by
      cases c <;> first | rfl | cases hc
    simpa [Entry.isError, hn] using ih
  | report r noted _ os _ _ ih =>
    cases noted with
    | ok u => simpa [Report.complaints, Entry.isError, Call.isUnnoted] using ih
    | error e =>
      simpa [List.countP_cons, Report.complaints, Entry.isError, Call.isUnnoted, Output.isError]
        using ih

end SameBesideReports

namespace Installing

/-! ## Two runs with two reporters -/

/-- Two outcomes that are the same beside reports: what is left in the end, but for the reporters,
is the same, too. -/
structure SameOutcome (r : Outcome Entry (τ × ρ) α) (r' : Outcome Entry (τ × ρ') α) : Prop where
  value : r.value = r'.value
  log : SameBesideReports r.log r'.log
  world : r.world.1 = r'.world.1

/-- Work with two reporters whose outcomes are the same beside reports, whatever state each reporter
is in. -/
def SameWork (x : Installing (τ × ρ) α) (y : Installing (τ × ρ') α) : Prop :=
  ∀ w w', w.1 = w'.1 → SameOutcome (x w) (y w')

namespace SameWork

/-- Work in two steps is the same if each step is. -/
theorem bind {β : Type} {x : Installing (τ × ρ) α} {y : Installing (τ × ρ') α}
    {f : α → Installing (τ × ρ) β} {g : α → Installing (τ × ρ') β} (hx : SameWork x y)
    (hf : ∀ a, SameWork (f a) (g a)) : SameWork (x >>= f) (y >>= g) := by
  intro w w' hw
  obtain ⟨hvalue, hlog, hworld⟩ := hx w w' hw
  cases hv : (x w).value with
  | error e =>
    rw [Work.bind_eq_of_error hv, Work.bind_eq_of_error (hvalue ▸ hv)]
    exact ⟨rfl, hlog, hworld⟩
  | ok a =>
    rw [Work.bind_eq_of_ok hv, Work.bind_eq_of_ok (hvalue ▸ hv)]
    obtain ⟨hvalue', hlog', hworld'⟩ := hf a _ _ hworld
    exact ⟨hvalue', hlog.append hlog', hworld'⟩

variable {s : Services τ} {note₁ : Report → Action ρ Unit} {note₂ : Report → Action ρ' Unit}

/-- A request that is not a report is answered in the same way. -/
theorem ask (q : Request α) (hq : q.isReport = false) :
    SameWork (ask q.call ((s.withReporter note₁).serve q))
      (ask q.call ((s.withReporter note₂).serve q)) := by
  rw [Services.serve_withReporter hq, Services.serve_withReporter hq]
  rintro ⟨w, v⟩ ⟨_, v'⟩ rfl
  have hc (a : Except Failure α) : (q.call a).isReport = false := by
    cases q <;> first | rfl | cases hq
  exact ⟨rfl, .call (hc _) _ .nil, rfl⟩

/-- A report goes well or is complained about, and leaves all but its reporter as it was. -/
theorem note (r : Report) :
    SameWork (note (s.withReporter note₁) r) (note (s.withReporter note₂) r) := by
  have outcome {ρ : Type} (report : Report → Action ρ Unit) (w : τ) (v : ρ) :
      Installing.note (s.withReporter report) r (w, v) =
        ⟨.ok (), .call (.report r (report r v).value) (report r v).log ::
          (r.complaints (report r v).value ++ []), (w, (report r v).world)⟩ := by
    have hasked : Installing.ask (.report r) ((s.withReporter report).report r) (w, v) =
        ⟨.ok (report r v).value, [.call (.report r (report r v).value) (report r v).log],
          (w, (report r v).world)⟩ := rfl
    rw [Installing.note, Work.bind_apply, hasked]
    cases (report r v).value with
    | ok u => rfl
    | error e => rfl
  rintro ⟨w, v⟩ ⟨_, v'⟩ rfl
  rw [outcome, outcome]
  exact ⟨rfl, .report r _ _ _ _ .nil, rfl⟩

end SameWork

/-- Installations with two reporters are the same beside reports. -/
def besideReports (s : Services τ) (note₁ : Report → Action ρ Unit)
    (note₂ : Report → Action ρ' Unit) :
    Coupling (s.withReporter note₁) (s.withReporter note₂) where
  rel := SameWork
  pure _ _ _ hw := ⟨rfl, .nil, hw⟩
  fail _ _ _ hw := ⟨rfl, .nil, hw⟩
  bind := .bind
  present _ ho _ _ hw := ⟨rfl, .shown ho .nil, hw⟩
  ask := .ask
  note := .note

/-- Reports are a side channel. Whatever two reporters answer, the installation ends in the same,
leaves the other services as they are, asks for the same in the same order, and shows the same in
the same order, but for error messages. Its journals are the same but that each report that failed
is followed by one error message, and these are all the errors that the installation shows. -/
theorem install_besideReports (s : Services τ) (note₁ : Report → Action ρ Unit)
    (note₂ : Report → Action ρ' Unit) (p : Plan) (w : τ) (v₁ : ρ) (v₂ : ρ') :
    let run₁ := install (s.withReporter note₁) p (w, v₁)
    let run₂ := install (s.withReporter note₂) p (w, v₂)
    run₁.value = run₂.value ∧ run₁.world.1 = run₂.world.1 ∧
    (callsOf run₁.log).map Call.besideReport = (callsOf run₂.log).map Call.besideReport ∧
    (run₁.log.flatMap Entry.ownOutputs).filter (!·.isError) =
      (run₂.log.flatMap Entry.ownOutputs).filter (!·.isError) ∧
    SameBesideReports run₁.log run₂.log ∧
    run₁.log.countP Entry.isError = (callsOf run₁.log).countP Call.isUnnoted := by
  intro run₁ run₂
  obtain ⟨hvalue, hlog, hworld⟩ : SameOutcome run₁ run₂ :=
    (besideReports s note₁ note₂).install p (w, v₁) (w, v₂) rfl
  exact ⟨hvalue, hworld, hlog.asked, hlog.outputs, hlog, hlog.errors⟩

end Installing

end Provision
