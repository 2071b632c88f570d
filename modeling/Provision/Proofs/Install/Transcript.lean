import Provision.Proofs.Install.Trials

/-!
# What an installation shows is what happened

An installation shows a greeting, a line with a sign for each longer piece of work, warnings, and
the good news. `workLines` says which lines belong to the calls of a run, and
`Transcribed.lines` that these are the lines that are shown, each once and in order. The
integrations show more: after the line of a recipe that failed comes the warning about it, and
nothing else is warned about (`TrialsTold`). `Installing.install_transcript` puts this together with
the greeting and the good news, which stand at the two ends of a run.
-/

namespace Provision

variable {σ α β : Type}

open Installing (executionError validationError attemptWork)

/-! ## What a journal shows of the installation itself -/

/-- What an entry shows of the installation itself. -/
def Entry.own? : Entry → Option Output
  | call .. => none
  | shown o => some o

/-- What a journal shows of the installation itself, in order. -/
def shownIn (l : List Entry) : List Output := l.filterMap Entry.own?

/-- Nothing is shown in an empty journal. -/
@[simp] theorem shownIn_nil : shownIn [] = [] := rfl

/-- What a call shows is not shown by the installation itself. -/
@[simp] theorem shownIn_call (c : Call) (os : List Output) (l : List Entry) :
    shownIn (.call c os :: l) = shownIn l := rfl

/-- What an installation shows is shown in its journal. -/
@[simp] theorem shownIn_shown (o : Output) (l : List Entry) :
    shownIn (.shown o :: l) = o :: shownIn l := rfl

/-- Two journals show what one and then the other shows. -/
@[simp] theorem shownIn_append (l l' : List Entry) :
    shownIn (l ++ l') = shownIn l ++ shownIn l' := List.filterMap_append

/-- Outputs are shown as they are. -/
@[simp] theorem shownIn_map_shown (os : List Output) : shownIn (os.map .shown) = os := by
  induction os with
  | nil => rfl
  | cons o os ih => exact congrArg (o :: ·) ih

/-- Outputs are no calls. -/
@[simp] theorem callsOf_map_shown (os : List Output) : callsOf (os.map .shown) = [] := by
  induction os with
  | nil => rfl
  | cons o os ih => exact ih

namespace Output

/-- Whether something is a text on standard output. -/
def isText : Output → Bool
  | stdout _ => true
  | _ => false

/-- Whether something is a line on standard error. -/
def isLine : Output → Bool
  | stderr _ => true
  | _ => false

/-- Whether something is an error message or one that only helps to find errors. -/
def isAside : Output → Bool
  | message m => m.level = .error || m.level = .debug
  | _ => false

/-- An aside is no text. -/
theorem not_isText_of_isAside {o : Output} (h : o.isAside = true) : o.isText = false := by
  cases o with
  | message => rfl
  | stdout | stderr => cases h

/-- An aside is no line of its own. -/
theorem not_isLine_of_isAside {o : Output} (h : o.isAside = true) : o.isLine = false := by
  cases o with
  | message => rfl
  | stdout | stderr => cases h

/-- There are no lines among asides. -/
theorem filter_isLine_of_asides {os : List Output} (h : ∀ o ∈ os, o.isAside = true) :
    os.filter isLine = [] :=
  List.filter_eq_nil_iff.2 fun o ho => Bool.eq_false_iff.1 (not_isLine_of_isAside (h o ho))

/-- A warning of the installation. -/
def warning (text : String) : Output := .message ⟨.warn, .installation, text, []⟩

end Output

/-! ## The lines and warnings that belong to calls -/

namespace Trial

/-- Whether a trial went well: its recipe was executed, and its data was confirmed if the recipe has
a query. -/
def wentWell (t : Trial) : Bool :=
  match t.executed, t.validated with
  | .error _, _ => false
  | .ok (), some (.ok v) => Text.isBlank t.recipe.query || v.confirmed
  | .ok (), _ => Text.isBlank t.recipe.query

/-- The line of a trial. -/
def line (t : Trial) : Output :=
  Banner.workLine t.wentWell ("Installing " ++ t.recipe.name ++ "...")

/-- What is said about a trial that did not go well. -/
def complaint (t : Trial) : String :=
  match t.executed, t.validated with
  | .error e, _ =>
    "Could not install " ++ t.recipe.name ++ ": " ++
      ("encountered an error while executing " ++ t.recipe.name ++ ": " ++ e.message)
  | .ok (), some (.error e) =>
    "Could not install " ++ t.recipe.name ++ ": " ++
      ("encountered an error while validating receipt of data for " ++ t.recipe.name ++ ": " ++
        e.message)
  | .ok (), _ => "Could not detect data from " ++ t.recipe.name ++ "."

/-- The warnings about a trial of an integration: there is one just if it did not go well. -/
def warnings (t : Trial) : List Output := if t.wentWell then [] else [.warning t.complaint]

end Trial

/-- The lines that belong to calls: one for each discovery, recommendation and execution. -/
def workLines : List Call → List Output
  | [] => []
  | .discover a :: cs =>
    Banner.workLine a.isOk "Discovering system information..." :: workLines cs
  | .recommend _ a :: cs =>
    Banner.workLine a.isOk "Fetching recommended recipes..." :: workLines cs
  | .execute _ r a :: cs =>
    (⟨r, a, cs.head?.bind Call.validated?⟩ : Trial).line :: workLines cs
  | _ :: cs => workLines cs

/-- What an attempt ends in if it goes well. -/
def wentWell : Except Failure Bool → Bool
  | .ok b => b
  | .error _ => false

/-- What is warned of after an attempt at an integration. -/
def warningsAbout (r : Recipe) : Except Failure Bool → List Output
  | .ok true => []
  | .ok false => [.warning (Failure.noData r.name).message]
  | .error e => [.warning e.message]

/-- A trial is told by how it went and by the complaint about it. -/
theorem Trial.told_eq {t : Trial} {r : Recipe} {v : Except Failure Bool} (hr : t.recipe = r)
    (hw : t.wentWell = Provision.wentWell v)
    (hc : warningsAbout r v = if Provision.wentWell v then [] else [.warning t.complaint]) :
    t.line = Banner.workLine (Provision.wentWell v) (attemptWork r) ∧
      t.warnings = warningsAbout r v := by
  subst hr
  rw [Trial.line, Trial.warnings, hw, hc]
  exact ⟨rfl, rfl⟩

/-- An attempt is one trial, whose line and warnings are those of what the attempt ends in. -/
theorem Attempted.trial {h : Host} {r : Recipe} {cs : List Call} {v : Except Failure Bool}
    (ha : Attempted h r cs v) : ∃ t : Trial, t.recipe = r ∧ trials cs = [t] ∧
      (t.line = Banner.workLine (Provision.wentWell v) (attemptWork r) ∧
        t.warnings = warningsAbout r v) ∧
      ∀ ds, workLines (cs ++ ds) = t.line :: workLines ds := by
  cases ha with
  | intro he =>
    cases he with
    | failed e noted =>
      exact ⟨⟨r, .error e, none⟩, rfl, rfl, Trial.told_eq rfl rfl rfl, fun ds => rfl⟩
    | blank hq =>
      have hw : Trial.wentWell ⟨r, .ok (), none⟩ = true := hq
      refine ⟨⟨r, .ok (), none⟩, rfl, rfl, Trial.told_eq rfl hw rfl, fun ds => ?_⟩
      -- What comes next is no validation of this recipe, and makes no difference if it is one.
      cases hd : ds.head?.bind Call.validated? with
      | none => simp only [List.cons_append, List.nil_append, workLines, hd]
      | some a =>
        have hw' : Trial.wentWell ⟨r, .ok (), some a⟩ = true := by
          cases a <;> simp only [Trial.wentWell, hq, Bool.true_or]
        simp only [List.cons_append, List.nil_append, workLines, hd, Trial.line, hw, hw']
    | broken hq e noted =>
      have hw : Trial.wentWell ⟨r, .ok (), some (.error e)⟩ = false := hq
      exact ⟨_, rfl, rfl, Trial.told_eq rfl hw rfl, fun ds => rfl⟩
    | unconfirmed hq v hv noted =>
      have hw : Trial.wentWell ⟨r, .ok (), some (.ok v)⟩ = false := by
        simp only [Trial.wentWell, hq, hv, Bool.or_false]
      exact ⟨_, rfl, rfl, Trial.told_eq rfl hw rfl, fun ds => rfl⟩
    | confirmed hq v hv noted =>
      have hw : Trial.wentWell ⟨r, .ok (), some (.ok v)⟩ = true := by
        simp only [Trial.wentWell, hv, Bool.or_true]
      exact ⟨_, rfl, rfl, Trial.told_eq rfl hw rfl, fun ds => rfl⟩

/-- Lines belong to episodes, so those of a run are put together from those of its parts. -/
theorem Episodes.workLines_append {b : Bool} {cs : List Call} (h : Episodes b cs)
    (ds : List Call) : workLines (cs ++ ds) = workLines cs ++ workLines ds := by
  induction h with
  | nil => rfl
  | @plain _ c cs hc _ ih =>
    cases c with
    | discover => exact congrArg (_ :: ·) ih
    | recommend _ a =>
      cases a with
      | error => exact congrArg (_ :: ·) ih
      | ok => cases hc
    | execute | validate | report => cases hc
    | loadFile | fetchFile | findRecipe | findLogs | confirm => exact ih
  | recommended _ _ _ _ ih => exact congrArg (_ :: ·) ih
  | attempted ha _ ih =>
    obtain ⟨t, -, -, -, hlines⟩ := ha.trial
    rw [List.append_assoc, hlines, hlines, ih, List.cons_append]

/-- A journal that shows just the lines of its calls, and no text on standard output. -/
structure Transcribed (l : List Entry) : Prop where
  episodes : Episodes true (callsOf l)
  lines : (shownIn l).filter Output.isLine = workLines (callsOf l)
  silent : ∀ o ∈ shownIn l, o.isText = false

namespace Transcribed

/-- Of nothing, nothing is transcribed. -/
theorem nil : Transcribed [] := ⟨.nil _, rfl, fun _ ho => nomatch ho⟩

/-- Two journals are transcribed one after the other. -/
theorem append {l l' : List Entry} (h : Transcribed l) (h' : Transcribed l') :
    Transcribed (l ++ l') where
  episodes := callsOf_append l l' ▸ h.episodes.append h'.episodes
  lines := by
    rw [shownIn_append, List.filter_append, callsOf_append, h.episodes.workLines_append, h.lines,
      h'.lines]
  silent := by
    rw [shownIn_append]
    exact List.forall_mem_append.2 ⟨h.silent, h'.silent⟩

/-- A message shows no line and no text. -/
theorem message (m : Message) : Transcribed [.shown (.message m)] :=
  ⟨.nil _, rfl, fun _ ho => List.mem_singleton.1 ho ▸ rfl⟩

/-- A plain call that belongs to no line. -/
theorem call {c : Call} (hc : c.isPlain = true) (hl : workLines [c] = []) (os : List Output) :
    Transcribed [.call c os] :=
  ⟨.plain hc (.nil _), hl.symm, fun _ ho => nomatch ho⟩

end Transcribed

/-- The journal of a trial of an integration: its calls and asides, and then its line and the
warnings about it. -/
inductive TrialTold (t : Trial) : List Entry → Prop
  | intro {body : List Entry} (ht : trials (callsOf body) = [t])
      (hb : ∀ o ∈ shownIn body, o.isAside = true) :
      TrialTold t (body ++ .shown t.line :: t.warnings.map .shown)

/-- The journals of trials, one after the other. -/
inductive TrialsTold : List Trial → List Entry → Prop
  | nil : TrialsTold [] []
  | cons {t : Trial} {ts : List Trial} {l l' : List Entry} (ht : TrialTold t l)
      (h : TrialsTold ts l') : TrialsTold (t :: ts) (l ++ l')

/-- An attempt is transcribed by its line, also if it is warned about. -/
theorem Attempted.transcribed {h : Host} {r : Recipe} {v : Except Failure Bool}
    {body : List Entry} {ws : List Output} (ha : Attempted h r (callsOf body) v)
    (hb : ∀ o ∈ shownIn body, o.isAside = true)
    (hws : ∀ o ∈ ws, o.isLine = false ∧ o.isText = false) :
    Transcribed (body ++
      .shown (Banner.workLine (Provision.wentWell v) (attemptWork r)) :: ws.map .shown) where
  episodes := by
    rw [callsOf_append, callsOf_shown, callsOf_map_shown, List.append_nil]
    exact ha.episodes
  lines := by
    obtain ⟨t, -, -, ⟨hline, -⟩, hlines⟩ := ha.trial
    have hnone : ws.filter Output.isLine = [] :=
      List.filter_eq_nil_iff.2 fun o ho => Bool.eq_false_iff.1 (hws o ho).1
    rw [callsOf_append, callsOf_shown, callsOf_map_shown, hlines, hline, shownIn_append,
      shownIn_shown, shownIn_map_shown, List.filter_append, Output.filter_isLine_of_asides hb,
      List.filter_cons_of_pos rfl, hnone]
    rfl
  silent := by
    rw [shownIn_append, shownIn_shown, shownIn_map_shown]
    refine List.forall_mem_append.2 ⟨fun o ho => Output.not_isText_of_isAside (hb o ho), ?_⟩
    exact List.forall_mem_cons.2 ⟨rfl, fun o ho => (hws o ho).2⟩

/-- Warnings are neither lines nor texts. -/
theorem warningsAbout_isMessage {r : Recipe} {v : Except Failure Bool} :
    ∀ o ∈ warningsAbout r v, o.isLine = false ∧ o.isText = false := by
  match v with
  | .ok true => exact fun _ ho => nomatch ho
  | .ok false | .error _ => exact fun o ho => List.mem_singleton.1 ho ▸ ⟨rfl, rfl⟩

namespace Installing

/-! ## What each piece of an installation writes -/

/-- Whatever the world, the journal of the work and its value are in the relation `Q`. -/
def Writes (x : Installing σ α) (Q : List Entry → Except Failure α → Prop) : Prop :=
  ∀ w, Q (x w).log (x w).value

namespace Writes

variable {x : Installing σ α} {f : α → Installing σ β}
  {P : List Entry → Except Failure α → Prop} {Q : List Entry → Except Failure β → Prop}

/-- An answer that is there already writes nothing. -/
theorem pure {a : α} (h : P [] (.ok a)) : Writes (pure a : Installing σ α) P := fun _ => h

/-- A failure of its own writes nothing. -/
theorem fail {e : Failure} (h : P [] (.error e)) : Writes (Work.fail e : Installing σ α) P :=
  fun _ => h

/-- Showing something writes that. -/
theorem present {P : List Entry → Except Failure Unit → Prop} {o : Output}
    (h : P [.shown o] (.ok ())) : Writes (Installing.present o : Installing σ Unit) P := fun _ => h

/-- What is written may be said in a weaker way. -/
theorem mono {P' : List Entry → Except Failure α → Prop} (hx : Writes x P)
    (h : ∀ l v, P l v → P' l v) : Writes x P' := fun w => h _ _ (hx w)

/-- Work after work: the journal of the second follows that of the first, and there is none of it if
the first fails. -/
theorem bind (hx : Writes x P) (hok : ∀ l a, P l (.ok a) → Writes (f a) fun l' v => Q (l ++ l') v)
    (herror : ∀ l e, P l (.error e) → Q l (.error e)) : Writes (x >>= f) Q := by
  intro w
  have hp := hx w
  cases hv : (x w).value with
  | error e =>
    rw [hv] at hp
    rw [Work.bind_eq_of_error hv]
    exact herror _ _ hp
  | ok a =>
    rw [hv] at hp
    rw [Work.bind_eq_of_ok hv]
    exact hok _ _ hp _

/-- Work after a call, whatever is answered and shown. -/
theorem ask_bind {call : Except Failure α → Call} {service : Action σ α}
    {g : Except Failure α → Installing σ β}
    (h : ∀ a os, Writes (g a) fun l v => Q (.call (call a) os :: l) v) :
    Writes (ask call service >>= g) Q :=
  fun w => h (service w).value (service w).log (service w).world

/-- Work after something that is shown. -/
theorem present_bind {o : Output} {g : Unit → Installing σ β}
    (h : Writes (g ()) fun l v => Q (.shown o :: l) v) :
    Writes (Installing.present o >>= g) Q := fun w => h w

/-- Work after a call that has to go well. -/
theorem orStop_bind {wrap : String → Failure} {a : Except Failure α}
    (hok : ∀ b, a = .ok b → Writes (f b) Q)
    (herror : ∀ e, a = .error e → Q [] (.error (wrap e.message))) :
    Writes (orStop wrap a >>= f) Q := by
  cases a with
  | ok b => exact hok b rfl
  | error e => exact fail (herror e rfl)

/-- What an installation ensures of its calls. -/
theorem of_ensures {s : Services σ} {R : List Call → Except Failure α → Prop}
    (h : Ensures s x R) : Writes x fun l v => R (callsOf l) v := fun w => (h w).2

end Writes

/-- Work that shows nothing but asides. -/
def IsQuiet (x : Installing σ α) : Prop :=
  Writes x fun l _ => ∀ o ∈ shownIn l, o.isAside = true

/-- Work whose journals are transcribed. -/
def Transcribes (x : Installing σ α) : Prop := Writes x fun l _ => Transcribed l

section
variable {x : Installing σ α} {f : α → Installing σ β}

/-- Work in two steps is quiet if each step is. -/
theorem IsQuiet.bind (hx : IsQuiet x) (hf : ∀ a, IsQuiet (f a)) : IsQuiet (x >>= f) := by
  refine Writes.bind hx (fun l a hl => (hf a).mono fun l' _ hl' => ?_) fun _ _ hl => hl
  rw [shownIn_append]
  exact List.forall_mem_append.2 ⟨hl, hl'⟩

/-- An answer that is there already is transcribed. -/
theorem Transcribes.pure (a : α) : Transcribes (pure a : Installing σ α) := Writes.pure .nil

/-- A failure of its own is transcribed. -/
theorem Transcribes.fail (e : Failure) : Transcribes (Work.fail e : Installing σ α) :=
  Writes.fail .nil

/-- What is known already is transcribed. -/
theorem Transcribes.ofExcept (v : Except Failure α) :
    Transcribes (Work.ofExcept v : Installing σ α) := by
  cases v with
  | ok a => exact .pure a
  | error e => exact .fail e

/-- Work in two steps is transcribed if each step is. -/
theorem Transcribes.bind (hx : Transcribes x) (hf : ∀ a, Transcribes (f a)) :
    Transcribes (x >>= f) :=
  Writes.bind hx (fun _ a hl => (hf a).mono fun _ _ hl' => hl.append hl') fun _ _ hl => hl

/-- A message is transcribed. -/
theorem Transcribes.say (level : Level) (text : String) (fields : List (String × String)) :
    Transcribes (say level text fields : Installing σ Unit) :=
  Writes.present (.message _)

/-- A call that belongs to no line. -/
theorem Transcribes.ask {call : Except Failure α → Call} {service : Action σ α}
    (hc : ∀ a, (call a).isPlain = true) (hl : ∀ a, workLines [call a] = []) :
    Transcribes (ask call service) := fun w => .call (hc _) (hl _) (service w).log

end

variable (s : Services σ)

/-- A report shows nothing but asides, also if it fails. -/
theorem reportOrSay_isQuiet (report : Report) (failing : String) :
    IsQuiet (reportOrSay s report failing) := by
  refine Writes.ask_bind fun a os => ?_
  cases a with
  | ok u => exact Writes.pure fun _ ho => nomatch ho
  | error e => exact Writes.present fun o ho => List.mem_singleton.1 ho ▸ rfl

/-- An attempt shows nothing but asides. -/
theorem attempt_isQuiet (h : Host) (r : Recipe) : IsQuiet (attempt s h r) := by
  have done (b : Except Failure Bool) : IsQuiet (pure b : Installing σ (Except Failure Bool)) :=
    Writes.pure fun _ ho => nomatch ho
  refine Writes.ask_bind fun a os => ?_
  cases a with
  | error e => exact (reportOrSay_isQuiet s _ _).bind fun _ => done _
  | ok u =>
    cases hq : r.hasQuery with
    | false =>
      simp only [Bool.not_false, if_true]
      refine Writes.present_bind (Writes.pure fun o ho => ?_)
      exact List.mem_singleton.1 ho ▸ rfl
    | true =>
      simp only [Bool.not_true, Bool.false_eq_true, if_false]
      refine Writes.ask_bind fun b os => ?_
      cases b with
      | error e => exact (reportOrSay_isQuiet s _ _).bind fun _ => done _
      | ok v =>
        cases hv : v.confirmed with
        | true =>
          simp only [hv, if_true]
          exact (reportOrSay_isQuiet s _ _).bind fun _ => done _
        | false =>
          simp only [hv, Bool.false_eq_true, if_false]
          exact (reportOrSay_isQuiet s _ _).bind fun _ => done _

/-- The journal of an attempt: the calls of the attempt, and asides. -/
theorem attempt_writes (h : Host) (r : Recipe) : Writes (attempt s h r) fun l v =>
    ∃ b, v = .ok b ∧ Attempted h r (callsOf l) b ∧ ∀ o ∈ shownIn l, o.isAside = true := by
  intro w
  obtain ⟨b, hv, ha⟩ := Writes.of_ensures (attempt_ensures s h r) w
  exact ⟨b, hv, ha, attempt_isQuiet s h r w⟩

/-- An attempt that has to go well is transcribed by its line. -/
theorem attemptOrStop_transcribes (h : Host) (r : Recipe) : Transcribes (attemptOrStop s h r) := by
  refine Writes.bind (attempt_writes s h r) ?_ ?_
  · rintro l b ⟨_, ⟨⟩, ha, hl⟩
    have hnone : ∀ o ∈ ([] : List Output), o.isLine = false ∧ o.isText = false := nofun
    have ht := ha.transcribed hl hnone
    match b with
    | .ok true => exact Writes.present ht
    | .ok false => exact Writes.present_bind (Writes.fail ht)
    | .error e => exact Writes.present_bind (Writes.fail ht)
  · rintro _ _ ⟨_, ⟨⟩, -⟩

/-- An attempt at an integration shows its line and then the warnings about it. -/
theorem attemptOrWarn_writes (h : Host) (r : Recipe) : Writes (attemptOrWarn s h r) fun l v =>
    v = .ok () ∧ Transcribed l ∧ ∃ t : Trial, t.recipe = r ∧ TrialTold t l := by
  refine Writes.bind (attempt_writes s h r) ?_ ?_
  · rintro l b ⟨_, ⟨⟩, ha, hl⟩
    have ht := ha.transcribed hl (warningsAbout_isMessage (r := r) (v := b))
    obtain ⟨t, hr, htrials, ⟨hline, hwarnings⟩, -⟩ := ha.trial
    have htold := TrialTold.intro htrials hl
    rw [hline, hwarnings] at htold
    match b with
    | .ok true => exact Writes.present ⟨rfl, ht, t, hr, htold⟩
    | .ok false => exact Writes.present_bind (Writes.present ⟨rfl, ht, t, hr, htold⟩)
    | .error e => exact Writes.present_bind (Writes.present ⟨rfl, ht, t, hr, htold⟩)
  · rintro _ _ ⟨_, ⟨⟩, -⟩

/-- Discovery is transcribed by its line, which tells whether it succeeded. -/
theorem discover_transcribes : Transcribes (discover s) := by
  refine Writes.ask_bind fun a os => Writes.present_bind ?_
  have ht : Transcribed [.call (.discover a) os,
      .shown (Banner.workLine a.isOk "Discovering system information...")] :=
    ⟨.plain rfl (.nil _), rfl, fun _ ho => List.mem_singleton.1 ho ▸ rfl⟩
  cases a with
  | ok h => exact Writes.pure ht
  | error e => exact Writes.fail ht

/-- Reading a file is transcribed. -/
theorem readFile_transcribes (named : String) : Transcribes (readFile s named) := by
  have checked (d : Draft) : Transcribes (Work.ofExcept d.check : Installing σ Recipe) :=
    .ofExcept _
  unfold readFile
  cases Location.ofText named with
  | url u =>
    refine .bind (.ask (fun _ => rfl) fun _ => rfl) fun a => ?_
    exact Writes.orStop_bind (fun d _ => checked d) fun _ _ => .nil
  | path path =>
    refine .bind (.ask (fun _ => rfl) fun _ => rfl) fun a => ?_
    exact Writes.orStop_bind (fun d _ => checked d) fun _ _ => .nil

/-- Reading files is transcribed. -/
theorem readFiles_transcribes (paths : List String) : Transcribes (readFiles s paths) := by
  induction paths with
  | nil => exact .pure []
  | cons named rest ih =>
    exact .bind (readFile_transcribes s named) fun r => .bind ih fun rs => .pure (r :: rs)

/-- Looking up names is transcribed. -/
theorem findAll_transcribes (host : Option Host) (names : List String) :
    Transcribes (findAll s host names) := by
  induction names with
  | nil => exact .pure []
  | cons name rest ih =>
    refine .bind (.ask (fun _ => rfl) fun _ => rfl) fun a => ?_
    match a with
    | .ok (some r) => exact .bind ih fun rs => .pure (r :: rs)
    | .ok none => exact .bind (.say _ _ _) fun _ => ih
    | .error e => exact .bind (.say _ _ _) fun _ => ih

/-- A recommendation is transcribed by its line; if its report fails, that is an aside. -/
theorem recommended_transcribes (host : Option Host) : Transcribes (recommended s host) := by
  refine Writes.ask_bind fun a os => Writes.present_bind (Writes.orStop_bind ?_ ?_)
  · rintro rs rfl
    refine Writes.bind (P := fun l _ => Transcribed (.call (.recommend host (.ok rs)) os ::
      .shown (Banner.workLine true "Fetching recommended recipes...") :: l)) (fun w => ?_)
      (fun l _ h => Writes.pure ?_) fun _ _ h => h
    · have hreport : Ensures s (reportAvailable s rs) _ := reportOrSay_ensures s (.available rs) _
      have hasides : IsQuiet (reportAvailable s rs) := reportOrSay_isQuiet s _ _
      obtain ⟨-, noted, hcalls⟩ := Writes.of_ensures hreport w
      have hquiet := hasides w
      refine ⟨?_, ?_, List.forall_mem_cons.2 ⟨rfl, ?_⟩⟩
      · rw [callsOf_call, callsOf_shown, hcalls]
        exact .recommended host rs noted (.nil true)
      · rw [callsOf_call, callsOf_shown, hcalls, shownIn_call, shownIn_shown,
          List.filter_cons_of_pos rfl, Output.filter_isLine_of_asides hquiet]
        rfl
      · exact fun o ho => Output.not_isText_of_isAside (hquiet o ho)
    · exact l.append_nil.symm ▸ h
  · rintro e rfl
    exact ⟨.plain rfl (.nil _), rfl, fun _ ho => List.mem_singleton.1 ho ▸ rfl⟩

/-- Acquiring recipes is transcribed. -/
theorem acquire_transcribes (host : Option Host) (selection : Selection) :
    Transcribes (acquire s host selection) := by
  cases selection with
  | files paths => exact readFiles_transcribes s paths
  | named names => exact findAll_transcribes s host names
  | recommended => exact recommended_transcribes s host

/-- Looking up a recipe that has to be there is transcribed. -/
theorem findOrStop_transcribes (host : Option Host) (name : String) :
    Transcribes (findOrStop s host name) := by
  refine .bind (.ask (fun _ => rfl) fun _ => rfl) fun a => ?_
  refine Writes.orStop_bind (fun found _ => ?_) fun _ _ => .nil
  cases found with
  | some r => exact Transcribes.pure r
  | none => exact Transcribes.fail _

/-- Installing the agent is transcribed. -/
theorem installAgent_transcribes (host : Option Host) (h : Host) :
    Transcribes (installAgent s host h) :=
  .bind (findOrStop_transcribes s host agentRecipe) fun r => attemptOrStop_transcribes s h r

/-- Asking the operator is transcribed. -/
theorem askConsent_transcribes (found : List LogWatch) : Transcribes (askConsent s found) := by
  induction found with
  | nil => exact .pure []
  | cons w rest ih =>
    refine .bind (.ask (fun _ => rfl) fun _ => rfl) fun a => ?_
    match a with
    | .ok true => exact .bind ih fun ws => .pure (w :: ws)
    | .ok false => exact ih
    | .error e => exact ih

/-- What the operator accepts is transcribed. -/
theorem accepted_transcribes (found : List LogWatch) : Transcribes (accepted s found) :=
  .bind (askConsent_transcribes s found) fun ws => .pure (WatchList.mk ws)

/-- Setting up logging is transcribed. -/
theorem installLogging_transcribes (host : Option Host) (h : Host) (wanted : List Recipe) :
    Transcribes (installLogging s host h wanted) := by
  refine .bind (findOrStop_transcribes s host loggingRecipe) fun r => ?_
  refine .bind (.ask (fun _ => rfl) fun _ => rfl) fun a => ?_
  refine Writes.orStop_bind (fun found _ => ?_) fun _ _ => .nil
  refine Transcribes.bind (accepted_transcribes s found) fun ws => ?_
  exact .bind (.say _ _ _) fun _ => attemptOrStop_transcribes s h _

/-- The integrations show the trials of the wanted recipes, one after the other. -/
theorem installAll_writes (h : Host) (wanted : List Recipe) :
    Writes (installAll s h wanted) fun l v =>
      v = .ok () ∧ Transcribed l ∧ ∃ ts, ts.map Trial.recipe = wanted ∧ TrialsTold ts l := by
  induction wanted with
  | nil => exact Writes.pure ⟨rfl, .nil, [], rfl, .nil⟩
  | cons r rest ih =>
    refine Writes.bind (attemptOrWarn_writes s h r) ?_ ?_
    · rintro l _ ⟨-, hl, t, rfl, ht⟩
      refine ih.mono fun l' v ⟨hv, hl', ts, hts, htold⟩ => ⟨hv, hl.append hl', t :: ts, ?_, ?_⟩
      · rw [List.map_cons, hts]
      · exact .cons ht htold
    · rintro _ _ ⟨⟨⟩, -⟩

/-! ## The whole installation -/

section
variable {x y : Installing σ α} {f : α → Installing σ β}

/-- One of two pieces of work, of which a condition selects one. -/
theorem Transcribes.ite (c : Bool) (hx : Transcribes x) (hy : Transcribes y) :
    Transcribes (if c then x else y) := by
  cases c with
  | true => exact hx
  | false => exact hy

/-- Work after one of two pieces of work, of which a condition selects one. -/
theorem Transcribes.ite_bind (c : Bool) (h : Transcribes ((if c then x else y) >>= f)) :
    Transcribes (if c then x >>= f else y >>= f) := by
  cases c with
  | true => exact h
  | false => exact h

end

/-- Work after other work that is only done on a condition. -/
theorem Transcribes.when_bind {x : Installing σ Unit} {f : Unit → Installing σ β} (c : Bool)
    (hx : Transcribes x) (hf : Transcribes (f ())) :
    Transcribes (if c then x >>= f else f ()) :=
  .ite c (.bind hx fun _ => hf) hf

/-- The phases before the integrations are transcribed. -/
theorem prepare_transcribes (p : Plan) : Transcribes (prepare s p) := by
  refine .ite_bind _ (.bind (.ite _ (.pure none) ?_) fun host => ?_)
  · exact .bind (discover_transcribes s) fun h => .pure (some h)
  refine .bind (acquire_transcribes s host p.selection) fun wanted => ?_
  refine .when_bind _ (installAgent_transcribes s host _) (.when_bind _ ?_ (.pure _))
  exact installLogging_transcribes s host _ wanted

/-- What is shown at the end of an installation. -/
def farewell (p : Plan) : Except Failure Unit → List Entry
  | .ok () => [.shown (Banner.success p.accountId)]
  | .error _ => []

/-- The journal of an installation is that of its preparation and its integrations, between the
greeting and the good news. -/
theorem install_log (p : Plan) (w : σ) :
    (install s p w).log = .shown Banner.welcome :: ((phases s p w).log ++
      farewell p (install s p w).value) := by
  let news : Unit → Installing σ Unit := fun _ => present (Banner.success p.accountId)
  show .shown Banner.welcome :: ((phases s p >>= news) w).log =
    .shown Banner.welcome :: ((phases s p w).log ++ farewell p ((phases s p >>= news) w).value)
  cases hv : (phases s p w).value with
  | error e =>
    rw [Work.bind_eq_of_error hv]
    exact congrArg _ (List.append_nil _).symm
  | ok u =>
    rw [Work.bind_eq_of_ok hv]
    rfl

/-- The integrations are transcribed, and tell of a trial for each wanted recipe. -/
theorem integrate_writes (p : Plan) (h : Host) (wanted : List Recipe) :
    Writes (integrate s p h wanted) fun l _ => Transcribed l ∧
      ∃ ts, ts.map Trial.recipe = (if p.skipIntegrations then [] else wanted) ∧
        TrialsTold ts l := by
  unfold integrate
  cases p.skipIntegrations with
  | true => exact Writes.pure ⟨.nil, [], rfl, .nil⟩
  | false => exact (installAll_writes s h wanted).mono fun _ _ hl => hl.2

/-- The journal of the phases is that of the preparation and then that of the integrations, which
show the trials of the wanted recipes. -/
theorem phases_log (p : Plan) (w : σ) : ∃ G, (phases s p w).log = (prepare s p w).log ++ G ∧
    Transcribed G ∧ (∀ e, (prepare s p w).value = .error e → G = []) ∧
    (∀ h wanted, (prepare s p w).value = .ok (h, wanted) →
      ∃ ts, ts.map Trial.recipe = (if p.skipIntegrations then [] else wanted) ∧
        TrialsTold ts G) := by
  rw [phases_eq]
  cases hv : (prepare s p w).value with
  | error e =>
    refine ⟨[], ?_, .nil, fun _ _ => rfl, nofun⟩
    rw [Work.bind_eq_of_error hv, List.append_nil]
  | ok a =>
    obtain ⟨hG, htrials⟩ := integrate_writes s p a.1 a.2 (prepare s p w).world
    rw [Work.bind_eq_of_ok hv]
    refine ⟨_, rfl, hG, nofun, fun h wanted ha => ?_⟩
    cases ha
    exact htrials

end Installing

end Provision
