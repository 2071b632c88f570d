import Provision.Failure

/-!
# Actions

What the parts of the program do is `Work`: it reads and changes a world, may fail, and leaves a
log on the way, in order. An `Action` is work whose log is what it shows to the user: text on
standard output, lines on standard error, and messages. Work goes on after a failure only where the
failure is asked for (`Work.attempt`); what was logged and changed before it stays.
-/

namespace Provision

/-- How important a message is. -/
inductive Level where
  | error | warn | info | debug | trace
  deriving Repr, DecidableEq

/-- The name of a level. -/
def Level.name : Level → String
  | .error => "ERROR"
  | .warn => "WARN"
  | .info => "INFO"
  | .debug => "DEBUG"
  | .trace => "TRACE"

/-- How much is said at a level and the ones before it. -/
def Level.rank : Level → Nat
  | .error => 1
  | .warn => 2
  | .info => 3
  | .debug => 4
  | .trace => 5

/-- The part of the program that a message comes from. -/
inductive Part where
  | program | profiles | command | discovery | installation | consent | execution | logFiles
  | catalog | recipeFile | status | validation
  deriving Repr, DecidableEq

/-- The name of a part, by which its messages are asked for. -/
def Part.name : Part → String
  | .program => "instrumentor"
  | .profiles => "instrumentor::config"
  | .command => "instrumentor::commands::install"
  | .discovery => "instrumentor::discovery"
  | .installation => "instrumentor::install::orchestrator"
  | .consent => "instrumentor::install::consent"
  | .execution => "instrumentor::execution"
  | .logFiles => "instrumentor::logs"
  | .catalog => "instrumentor::recipe::catalog"
  | .recipeFile => "instrumentor::recipe::file"
  | .status => "instrumentor::status"
  | .validation => "instrumentor::validation"

/-- Something that is said about the work: how important it is, where it comes from, the text, and
named values. -/
structure Message where
  level : Level
  part : Part
  text : String
  fields : List (String × String)
  deriving Repr, DecidableEq

/-- Something that is shown: text on standard output, a line on standard error, or a message. -/
inductive Output where
  | stdout (text : String)
  | stderr (line : String)
  | message (message : Message)
  deriving Repr, DecidableEq

/-- What work leaves: its value or its failure, its log, and the world. -/
structure Outcome (ω σ α : Type) where
  value : Except Failure α
  log : List ω
  world : σ

/-- Work on a world of type `σ` that logs entries of type `ω`. -/
def Work (ω σ α : Type) : Type := σ → Outcome ω σ α

/-- Work whose log is what it shows. -/
abbrev Action (σ α : Type) : Type := Work Output σ α

namespace Work

variable {ω σ τ α β : Type}

/-- Work that only has a value. -/
protected def pure (a : α) : Work ω σ α := fun w => ⟨.ok a, [], w⟩

/-- One piece of work after another; the second is left out if the first fails. -/
protected def bind (x : Work ω σ α) (f : α → Work ω σ β) : Work ω σ β := fun w =>
  let r := x w
  match r.value with
  | .error e => ⟨.error e, r.log, r.world⟩
  | .ok a =>
    let s := f a r.world
    ⟨s.value, r.log ++ s.log, s.world⟩

instance : Monad (Work ω σ) where
  pure := Work.pure
  bind := Work.bind

/-- Work that fails. -/
def fail (e : Failure) : Work ω σ α := fun w => ⟨.error e, [], w⟩

/-- Work that logs an entry. -/
def tell (o : ω) : Work ω σ Unit := fun w => ⟨.ok (), [o], w⟩

/-- The world. -/
def world : Work ω σ σ := fun w => ⟨.ok w, [], w⟩

/-- Changes the world. -/
def change (f : σ → σ) : Work ω σ Unit := fun w => ⟨.ok (), [], f w⟩

/-- A result that needs no world. -/
def ofExcept : Except Failure α → Work ω σ α
  | .ok a => Work.pure a
  | .error e => fail e

/-- Work with its failure as a value. -/
def attempt (x : Work ω σ α) : Work ω σ (Except Failure α) := fun w =>
  let r := x w
  ⟨.ok r.value, r.log, r.world⟩

/-- Work on a part of the world. -/
def zoom (get : τ → σ) (set : σ → τ → τ) (x : Work ω σ α) : Work ω τ α := fun w =>
  let r := x (get w)
  ⟨r.value, r.log, set r.world w⟩

/-- An answer that is there already logs nothing and leaves the world as it is. -/
theorem pure_apply (a : α) (w : σ) :
    (pure a : Work ω σ α) w = ⟨.ok a, [], w⟩ := rfl

/-- Work is done after other work on the world that this leaves, unless it failed; the logs are
joined. -/
theorem bind_apply (x : Work ω σ α) (f : α → Work ω σ β) (w : σ) :
    (x >>= f) w = match (x w).value with
      | .error e => ⟨.error e, (x w).log, (x w).world⟩
      | .ok a => ⟨(f a (x w).world).value, (x w).log ++ (f a (x w).world).log,
          (f a (x w).world).world⟩ := rfl

/-- Work after work that goes well. -/
theorem bind_eq_of_ok {x : Work ω σ α} {w : σ} {a : α} (h : (x w).value = .ok a)
    (f : α → Work ω σ β) : (x >>= f) w =
      ⟨(f a (x w).world).value, (x w).log ++ (f a (x w).world).log, (f a (x w).world).world⟩ := by
  rw [bind_apply, h]

/-- Work after work that fails is not done. -/
theorem bind_eq_of_error {x : Work ω σ α} {w : σ} {e : Failure} (h : (x w).value = .error e)
    (f : α → Work ω σ β) : (x >>= f) w = ⟨.error e, (x w).log, (x w).world⟩ := by
  rw [bind_apply, h]

/-- Work after work goes well if both do. -/
theorem bind_ok {x : Work ω σ α} {f : α → Work ω σ β} {w : σ} {b : β}
    (h : ((x >>= f) w).value = .ok b) :
    ∃ a, (x w).value = .ok a ∧ (f a (x w).world).value = .ok b ∧
      ((x >>= f) w).world = (f a (x w).world).world := by
  rw [bind_apply] at h ⊢
  cases hx : (x w).value with
  | error e => simp [hx] at h
  | ok a => exact ⟨a, rfl, by simpa [hx] using h, rfl⟩

/-- Work whose value is answered as it is, is that work. -/
theorem bind_pure_eq (x : Work ω σ α) : x >>= Pure.pure = x := by
  funext w
  cases h : (x w).value with
  | error e => rw [bind_eq_of_error h, ← h]
  | ok a => rw [bind_eq_of_ok h, pure_apply, List.append_nil, ← h]

/-- It does not matter how three pieces of work are put together. -/
theorem bind_assoc_eq {γ : Type} (x : Work ω σ α) (f : α → Work ω σ β) (g : β → Work ω σ γ) :
    x >>= f >>= g = x >>= fun a => f a >>= g := by
  funext w
  cases h : (x w).value with
  | error e =>
    have hf : ((x >>= f) w).value = .error e := by rw [bind_eq_of_error h]
    rw [bind_eq_of_error hf, bind_eq_of_error h, bind_eq_of_error h]
  | ok a =>
    have hx := bind_eq_of_ok h f
    cases h' : (f a (x w).world).value with
    | error e =>
      have hf : ((x >>= f) w).value = .error e := by rw [hx, h']
      rw [bind_eq_of_error hf, hx, bind_eq_of_ok h, bind_eq_of_error h']
    | ok b =>
      have hf : ((x >>= f) w).value = .ok b := by rw [hx, h']
      rw [bind_eq_of_ok hf, hx, bind_eq_of_ok h, bind_eq_of_ok h', List.append_assoc]

instance : LawfulMonad (Work ω σ) :=
  LawfulMonad.mk' _ bind_pure_eq (fun _ _ => rfl) bind_assoc_eq

end Work

namespace Action

variable {σ : Type}

/-- Says something. -/
def say (level : Level) (part : Part) (text : String) (fields : List (String × String)) :
    Action σ Unit := Work.tell (.message ⟨level, part, text, fields⟩)

end Action

end Provision
