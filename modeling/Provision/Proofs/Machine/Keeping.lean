import Provision.Install.Local

/-!
# Work that keeps a property of the machine

`Work.Keeps` says that a property of the world is still there after the work, also if this fails. It
is put together as the work is. Recipe files and the network are only asked, so every property of
the machine is kept; discovery, catalogs and log files look for an interrupt as well, so that they
keep what a look keeps (`Catalog.keeps_load`, `LogFiles.keeps_filter`).
-/

namespace Provision

variable {ω σ τ α β : Type}

/-- Work that keeps a property of the world, also if it fails. -/
def Work.Keeps (P : σ → Prop) (x : Work ω σ α) : Prop := ∀ w, P w → P (x w).world

namespace Work.Keeps

variable {P : σ → Prop} {x : Work ω σ α} {f : α → Work ω σ β}

/-- An answer changes nothing. -/
theorem pure (a : α) : Keeps P (Pure.pure a : Work ω σ α) := fun _ hw => hw

/-- A failure changes nothing. -/
theorem fail (e : Failure) : Keeps P (Work.fail e : Work ω σ α) := fun _ hw => hw

/-- A line of the log changes nothing. -/
theorem tell (o : ω) : Keeps P (Work.tell o : Work ω σ Unit) := fun _ hw => hw

/-- Looking at the world changes nothing. -/
theorem world : Keeps P (Work.world : Work ω σ σ) := fun _ hw => hw

/-- What is known already changes nothing. -/
theorem ofExcept (v : Except Failure α) : Keeps P (Work.ofExcept v : Work ω σ α) := by
  cases v with
  | ok a => exact pure a
  | error e => exact fail e

/-- Work and what comes after it keep what each of them keeps. -/
theorem bind (hx : Keeps P x) (hf : ∀ a, Keeps P (f a)) : Keeps P (x >>= f) := by
  intro w hw
  rw [Work.bind_apply]
  cases (x w).value with
  | error e => exact hx w hw
  | ok a => exact hf a _ (hx w hw)

/-- Work that fails on a condition, and else goes on. -/
theorem fail_or {c : Prop} [Decidable c] {e : Failure} {g : α → Work ω σ β} {y : Work ω σ β}
    (hy : Keeps P y) : Keeps P (if c then Work.fail e >>= g else y) := by
  by_cases hc : c
  · rw [if_pos hc]
    exact .fail e
  · rwa [if_neg hc]

/-- Work on the first of two worlds keeps what it keeps of this world. -/
theorem zoom_fst {P : σ → Prop} {x : Work ω σ α} (hx : Keeps P x) :
    Keeps (fun w : σ × τ => P w.1) (Work.zoom Prod.fst (fun v w => (v, w.2)) x) :=
  fun w hw => hx w.1 hw

end Work.Keeps

variable {P : Machine → Prop}

/-! ## Work that only asks -/

/-- A question about the files changes nothing. -/
theorem Machine.keeps_askDisk (f : Files.Disk → Except Files.Problem α) (wrap : String → Failure) :
    Work.Keeps P (askDisk f wrap) := by
  intro m hm
  unfold askDisk
  cases f m.disk <;> exact hm

/-- Reading a recipe file changes nothing. -/
theorem Recipe.keeps_loadFile (path : String) : Work.Keeps P (Recipe.loadFile path) := by
  refine .bind (Machine.keeps_askDisk _ _) fun resolved => .bind (.tell _) fun _ => ?_
  exact .bind (Machine.keeps_askDisk _ _) fun text => .ofExcept _

/-- Fetching a recipe file changes nothing. -/
theorem Recipe.keeps_fetchFile (u : Url) : Work.Keeps P (Recipe.fetchFile u) := by
  refine .bind (.tell _) fun _ => .fail_or (.bind .world fun m => ?_)
  cases m.network u.withoutUser.text with
  | none => exact .fail _
  | some r =>
    simp only
    cases r.statusError? with
    | none => exact .ofExcept _
    | some problem => exact .fail _

/-- Asking the operator changes nothing. -/
theorem Services.keeps_askOperator (operator : Operator) (w : LogWatch) :
    Work.Keeps P (askOperator operator w) := by
  refine .bind .world fun m => ?_
  cases operator w m with
  | ok answer => exact .pure answer
  | error reason => exact .bind (.tell _) fun _ => .pure false

/-! ## Work that also looks for an interrupt -/

section
variable (hcheck : Work.Keeps P Machine.check)
include hcheck

/-- Discovery keeps what a look keeps. -/
theorem Machine.keeps_discover : Work.Keeps P discover :=
  .bind hcheck fun _ => .bind hcheck fun _ => .bind .world fun _ => .bind (.tell _) fun _ => .pure _

namespace Catalog

/-- Reading the visits to a catalog keeps what a look keeps. -/
theorem keeps_readVisits (root : String) (visits : List Files.Visit) :
    Work.Keeps P (readVisits root visits) := by
  induction visits with
  | nil => exact .pure []
  | cons v rest ih =>
    refine .bind hcheck fun _ => ?_
    cases v.barrier? root with
    | some p => exact .bind hcheck fun _ => .fail _
    | none =>
      cases isRecipeFile v with
      | false => exact ih
      | true =>
        simp only [Bool.not_true, Bool.false_eq_true, if_false]
        cases readRecipe root v with
        | ok r => exact .bind ih fun more => .pure _
        | error e => exact .bind (.tell _) fun _ => ih

/-- Loading a catalog keeps what a look keeps. -/
theorem keeps_load (c : Catalog) : Work.Keeps P c.load := by
  refine .bind .world fun m => .fail_or ?_
  exact .bind (keeps_readVisits hcheck _ _) fun rs => .bind (.tell _) fun _ => .pure _

/-- Asking a catalog for a name keeps what a look keeps. -/
theorem keeps_find (c : Catalog) (name : String) : Work.Keeps P (c.find name) :=
  .bind (c.keeps_load hcheck) fun _ => .pure _

/-- Asking a catalog for recommendations keeps what a look keeps. -/
theorem keeps_recommend (c : Catalog) (host : Option Host) : Work.Keeps P (c.recommend host) := by
  cases host with
  | none => exact .bind (.tell _) fun _ => .pure _
  | some h => exact .bind (c.keeps_load hcheck) fun _ => .pure _

end Catalog

namespace LogFiles

/-- Looking for files to patterns keeps what a look keeps. -/
theorem keeps_filterFrom (seen : List String) (ws : List LogWatch) :
    Work.Keeps P (filterFrom seen ws) := by
  induction ws generalizing seen with
  | nil => exact .pure []
  | cons w rest ih =>
    refine .bind hcheck fun _ => ?_
    cases seen.contains w.file with
    | true => exact ih seen
    | false =>
      refine .bind .world fun m => ?_
      match present m.disk w.file with
      | .error problem => exact .bind (.tell _) fun _ => ih _
      | .ok false => exact ih _
      | .ok true => exact .bind (.tell _) fun _ => .bind (ih _) fun more => .pure _

/-- Looking for the log files of recipes keeps what a look keeps. -/
theorem keeps_filter (recipes : List Recipe) : Work.Keeps P (filter recipes) :=
  keeps_filterFrom hcheck _ _

end LogFiles

end

end Provision
