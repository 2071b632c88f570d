import Provision.Proofs.Install.Phases

/-!
# Two runs of one installation

An installation knows its services only by their answers: it is put together from requests to them
and from what it shows, and nothing in it depends on how a service comes to its answer. So a
relation between the work with some services and the work with others holds of the whole
installation as soon as it holds of the requests and is kept by the ways in which work is put
together. `Coupling` is such a relation, and `Coupling.install` says that the two installations are
in it; `Coupling.prepare` says it of the phases before the integrations. A statement about two runs
is proved by giving a coupling.
-/

namespace Provision

variable {σ τ α : Type}

/-! ## Requests -/

/-- A call without its answer, by the type of what is answered if all goes well. -/
inductive Request : Type → Type
  | discover : Request Host
  | loadFile (path : String) : Request Draft
  | fetchFile (url : Url) : Request Draft
  | findRecipe (host : Option Host) (name : String) : Request (Option Recipe)
  | recommend (host : Option Host) : Request (List Recipe)
  | findLogs (recipes : List Recipe) : Request (List LogWatch)
  | confirm (watch : LogWatch) : Request Bool
  | execute (h : Host) (r : Recipe) : Request Unit
  | validate (h : Host) (r : Recipe) : Request Validation
  | report (report : Report) : Request Unit

namespace Request

/-- The call that a request is, once it has its answer. -/
def call : Request α → Except Failure α → Call
  | discover => .discover
  | loadFile path => .loadFile path
  | fetchFile url => .fetchFile url
  | findRecipe host name => .findRecipe host name
  | recommend host => .recommend host
  | findLogs recipes => .findLogs recipes
  | confirm watch => .confirm watch
  | execute h r => .execute h r
  | validate h r => .validate h r
  | report r => .report r

/-- Whether a request is a report. -/
def isReport : Request α → Bool
  | report _ => true
  | _ => false

end Request

/-- The service that a request is made to. -/
def Services.serve (s : Services σ) : Request α → Action σ α
  | .discover => s.discover
  | .loadFile path => s.loadFile path
  | .fetchFile url => s.fetchFile url
  | .findRecipe host name => s.findRecipe host name
  | .recommend host => s.recommend host
  | .findLogs recipes => s.findLogs recipes
  | .confirm watch => s.confirm watch
  | .execute h r => s.execute h r
  | .validate h r => s.validate h r
  | .report r => s.report r

/-- What the services give for the call of a request is what the service of the request does. -/
theorem Services.Gives.eq_serve {s : Services σ} {w w' : σ} {q : Request α}
    {a : Except Failure α} {os : List Output} (h : s.Gives w (q.call a) os w') :
    a = (s.serve q w).value ∧ w' = (s.serve q w).world := by
  cases q <;> cases h <;> exact ⟨rfl, rfl⟩

/-- Whether something that is shown is an error message. -/
def Output.isError : Output → Bool
  | message m => m.level = .error
  | _ => false

/-- What is said about a report that failed. -/
def Report.complaint : Report → Failure → String
  | .available _, e => "Could not report recipe execution status: " ++ e.message
  | .installed r .., e | .failed r .., e =>
    "Error writing recipe status for recipe " ++ r.name ++ ": " ++ e.message

/-- A report as an installation makes it: if it fails, that is said, and nothing else comes of it.
-/
def Installing.note (s : Services σ) (r : Report) : Installing σ Unit := do
  match ← ask (.report r) (s.report r) with
  | .ok () => pure ()
  | .error e => say .error (r.complaint e) []

/-! ## Couplings -/

open Installing in
/-- A relation between the work with some services and the work with others that every way of
putting work together keeps. It holds of a request and itself and of what an installation shows,
but a report is taken with what is said if it fails: nothing else shows an error. -/
structure Coupling (s : Services σ) (t : Services τ) where
  /-- The relation. -/
  rel : {α : Type} → Installing σ α → Installing τ α → Prop
  pure : ∀ {α : Type} (a : α), rel (pure a) (pure a)
  fail : ∀ {α : Type} (e : Failure), rel (Work.fail e : Installing σ α) (Work.fail e)
  bind : ∀ {α β : Type} {x : Installing σ α} {y : Installing τ α} {f : α → Installing σ β}
    {g : α → Installing τ β}, rel x y → (∀ a, rel (f a) (g a)) → rel (x >>= f) (y >>= g)
  present : ∀ o : Output, o.isError = false → rel (present o) (present o)
  ask : ∀ {α : Type} (q : Request α), q.isReport = false →
    rel (ask q.call (s.serve q)) (ask q.call (t.serve q))
  note : ∀ r : Report, rel (note s r) (note t r)

namespace Coupling

variable {s : Services σ} {t : Services τ} (C : Coupling s t)

/-! ## The pieces of an installation -/

/-- What is known already is coupled with itself. -/
theorem ofExcept (v : Except Failure α) : C.rel (Work.ofExcept v) (Work.ofExcept v) := by
  cases v with
  | ok a => exact C.pure a
  | error e => exact C.fail e

/-- A call that has to go well is coupled with itself. -/
theorem orStop (wrap : String → Failure) (a : Except Failure α) :
    C.rel (Installing.orStop wrap a) (Installing.orStop wrap a) := by
  cases a with
  | ok a => exact C.pure a
  | error e => exact C.fail _

/-- The discoveries are coupled. -/
theorem discover : C.rel (Installing.discover s) (Installing.discover t) :=
  C.bind (C.ask .discover rfl) fun a => C.bind (C.present _ rfl) fun _ => C.orStop _ a

/-- Readings of one file are coupled. -/
theorem readFile (named : String) :
    C.rel (Installing.readFile s named) (Installing.readFile t named) := by
  unfold Installing.readFile
  cases Location.ofText named with
  | url u =>
    refine C.bind (C.ask (.fetchFile u) rfl) fun a => ?_
    exact C.bind (C.orStop _ a) fun d => C.ofExcept d.check
  | path path =>
    refine C.bind (C.ask (.loadFile path) rfl) fun a => ?_
    exact C.bind (C.orStop _ a) fun d => C.ofExcept d.check

/-- Readings of the same files are coupled. -/
theorem readFiles (paths : List String) :
    C.rel (Installing.readFiles s paths) (Installing.readFiles t paths) := by
  induction paths with
  | nil => exact C.pure []
  | cons named rest ih =>
    exact C.bind (C.readFile named) fun r => C.bind ih fun rs => C.pure (r :: rs)

/-- Lookups of the same names are coupled. -/
theorem findAll (host : Option Host) (names : List String) :
    C.rel (Installing.findAll s host names) (Installing.findAll t host names) := by
  induction names with
  | nil => exact C.pure []
  | cons name rest ih =>
    refine C.bind (C.ask (.findRecipe host name) rfl) fun a => ?_
    match a with
    | .ok (some r) => exact C.bind ih fun rs => C.pure (r :: rs)
    | .ok none => exact C.bind (C.present _ rfl) fun _ => ih
    | .error e => exact C.bind (C.present _ rfl) fun _ => ih

/-- Recommendations for one host are coupled. -/
theorem recommended (host : Option Host) :
    C.rel (Installing.recommended s host) (Installing.recommended t host) := by
  refine C.bind (C.ask (.recommend host) rfl) fun a => C.bind (C.present _ rfl) fun _ => ?_
  exact C.bind (C.orStop _ a) fun rs => C.bind (C.note (.available rs)) fun _ => C.pure rs

/-- Acquisitions of the same recipes are coupled. -/
theorem acquire (host : Option Host) (selection : Selection) :
    C.rel (Installing.acquire s host selection) (Installing.acquire t host selection) := by
  cases selection with
  | files paths => exact C.readFiles paths
  | named names => exact C.findAll host names
  | recommended => exact C.recommended host

/-- Lookups of a recipe that has to be there are coupled. -/
theorem findOrStop (host : Option Host) (name : String) :
    C.rel (Installing.findOrStop s host name) (Installing.findOrStop t host name) := by
  refine C.bind (C.ask (.findRecipe host name) rfl) fun a => C.bind (C.orStop _ a) fun found => ?_
  cases found with
  | some r => exact C.pure r
  | none => exact C.fail _

/-- Attempts of one recipe are coupled. -/
theorem attempt (h : Host) (r : Recipe) :
    C.rel (Installing.attempt s h r) (Installing.attempt t h r) := by
  refine C.bind (C.ask (.execute h r) rfl) fun a => ?_
  cases a with
  | error e => exact C.bind (C.note (.failed r _ _)) fun _ => C.pure _
  | ok u =>
    cases hq : r.hasQuery with
    | false =>
      simp only [Bool.not_false, if_true]
      exact C.bind (C.present _ rfl) fun _ => C.pure _
    | true =>
      simp only [Bool.not_true, Bool.false_eq_true, if_false]
      refine C.bind (C.ask (.validate h r) rfl) fun b => ?_
      cases b with
      | error e => exact C.bind (C.note (.failed r _ _)) fun _ => C.pure _
      | ok v =>
        cases hv : v.confirmed with
        | true =>
          simp only [hv]
          exact C.bind (C.note (.installed r _ _)) fun _ => C.pure _
        | false =>
          simp only [hv]
          exact C.bind (C.note (.failed r _ _)) fun _ => C.pure _

/-- Attempts that have to go well are coupled. -/
theorem attemptOrStop (h : Host) (r : Recipe) :
    C.rel (Installing.attemptOrStop s h r) (Installing.attemptOrStop t h r) := by
  refine C.bind (C.attempt h r) fun b => ?_
  match b with
  | .ok true => exact C.present _ rfl
  | .ok false => exact C.bind (C.present _ rfl) fun _ => C.fail _
  | .error e => exact C.bind (C.present _ rfl) fun _ => C.fail _

/-- Attempts that are warned of are coupled. -/
theorem attemptOrWarn (h : Host) (r : Recipe) :
    C.rel (Installing.attemptOrWarn s h r) (Installing.attemptOrWarn t h r) := by
  refine C.bind (C.attempt h r) fun b => ?_
  match b with
  | .ok true => exact C.present _ rfl
  | .ok false => exact C.bind (C.present _ rfl) fun _ => C.present _ rfl
  | .error e => exact C.bind (C.present _ rfl) fun _ => C.present _ rfl

/-- Installations of the agent are coupled. -/
theorem installAgent (host : Option Host) (h : Host) :
    C.rel (Installing.installAgent s host h) (Installing.installAgent t host h) :=
  C.bind (C.findOrStop host agentRecipe) fun r => C.attemptOrStop h r

/-- Questions about the same log files are coupled. -/
theorem askConsent (found : List LogWatch) :
    C.rel (Installing.askConsent s found) (Installing.askConsent t found) := by
  induction found with
  | nil => exact C.pure []
  | cons w rest ih =>
    refine C.bind (C.ask (.confirm w) rfl) fun a => ?_
    match a with
    | .ok true => exact C.bind ih fun ws => C.pure (w :: ws)
    | .ok false => exact ih
    | .error e => exact ih

/-- What the operator accepts of the same log files is coupled. -/
theorem accepted (found : List LogWatch) :
    C.rel (Installing.accepted s found) (Installing.accepted t found) :=
  C.bind (C.askConsent found) fun ws => C.pure (WatchList.mk ws)

/-- The setups of logging are coupled. -/
theorem installLogging (host : Option Host) (h : Host) (wanted : List Recipe) :
    C.rel (Installing.installLogging s host h wanted)
      (Installing.installLogging t host h wanted) := by
  refine C.bind (C.findOrStop host loggingRecipe) fun r => ?_
  refine C.bind (C.ask (.findLogs wanted) rfl) fun a => C.bind (C.orStop _ a) fun found => ?_
  refine C.bind (C.accepted found) fun ws => C.bind (C.present _ rfl) fun _ => ?_
  exact C.attemptOrStop h (r.withAccepted ws)

/-- Installations of the same recipes are coupled. -/
theorem installAll (h : Host) (wanted : List Recipe) :
    C.rel (Installing.installAll s h wanted) (Installing.installAll t h wanted) := by
  induction wanted with
  | nil => exact C.pure ()
  | cons r rest ih => exact C.bind (C.attemptOrWarn h r) fun _ => ih

/-! ## The whole installation -/

section
variable {β : Type} {x x' : Installing σ α} {y y' : Installing τ α} {f : α → Installing σ β}
  {g : α → Installing τ β}

/-- One of two pieces of work, of which a condition selects one. -/
theorem ite (c : Bool) (hx : C.rel x y) (hx' : C.rel x' y') :
    C.rel (if c then x else x') (if c then y else y') := by
  cases c with
  | true => exact hx
  | false => exact hx'

/-- Work after one of two pieces of work, of which a condition selects one. -/
theorem ite_bind (c : Bool)
    (h : C.rel ((if c then x else x') >>= f) ((if c then y else y') >>= g)) :
    C.rel (if c then x >>= f else x' >>= f) (if c then y >>= g else y' >>= g) := by
  cases c with
  | true => exact h
  | false => exact h

end

/-- Work after other work that is only done on a condition. -/
theorem when_bind {β : Type} {x : Installing σ Unit} {y : Installing τ Unit}
    {f : Unit → Installing σ β} {g : Unit → Installing τ β} (c : Bool) (hx : C.rel x y)
    (hf : C.rel (f ()) (g ())) :
    C.rel (if c then x >>= f else f ()) (if c then y >>= g else g ()) :=
  C.ite c (C.bind hx fun _ => hf) hf

/-- The phases before the integrations are coupled. -/
theorem prepare (p : Plan) : C.rel (Installing.prepare s p) (Installing.prepare t p) := by
  refine C.ite_bind _ (C.bind (C.ite _ (C.pure none) ?_) fun host => ?_)
  · exact C.bind C.discover fun h => C.pure (some h)
  refine C.bind (C.acquire host p.selection) fun wanted => ?_
  refine C.when_bind _ (C.installAgent host _) (C.when_bind _ ?_ (C.pure _))
  exact C.installLogging host _ wanted

/-- Two installations with coupled services are coupled. -/
theorem install (p : Plan) : C.rel (Installing.install s p) (Installing.install t p) := by
  refine C.bind (C.present _ rfl) fun _ => C.bind ?_ fun _ => C.present _ rfl
  rw [Installing.phases_eq, Installing.phases_eq]
  exact C.bind (C.prepare p) fun a => C.ite _ (C.installAll a.1 a.2) (C.pure ())

end Coupling

end Provision
