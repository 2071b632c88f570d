import Provision.Failure
import Provision.Proofs.Text.Pieces

/-!
# Kinds of failures

The class of a failure tells its kind and nothing else (`Failure.code_eq_iff`), and what the user
may do about it depends on the kind alone (`Failure.help?_of_code_eq`). The exit status does not: a
failure that wraps work which can be interrupted counts as an interrupt if its text ends like one
(`Failure.isCancellation_eq`). All other failures are what they are, whatever their text is, and so
is one that a question to the operator or a request ends in (`Failure.exitCode_of_question`).
-/

namespace Provision.Failure

variable {f g : Failure}

/-! ## Classes and help -/

/-- One failure of each kind, in the order of the kinds. -/
def examples : List Failure :=
  [discovery "", loading "" "", fetching "" "", invalidRecipe "" "", retrieval "" "",
    unknownRecipe "", recommendation "", catalog "" "", logSearch "", installation "" "", noData "",
    step "" "", validation "", profile "", malformed "" "", statusFile "" "", request "", io "",
    unknownShell "", cancelled]

/-- Every failure has the class and the help of the example of its kind. -/
theorem exists_example (f : Failure) :
    ∃ e, examples[f.ctorIdx]? = some e ∧ f.code = e.code ∧ f.help? = e.help? := by
  cases f <;> exact ⟨_, rfl, rfl, rfl⟩

/-- No two kinds of failures have the same class. -/
theorem nodup_codes : (examples.map code).Nodup := by decide

/-- Failures have the same class just if they are of one kind. -/
theorem code_eq_iff : f.code = g.code ↔ f.ctorIdx = g.ctorIdx := by
  obtain ⟨d, hd, hf, -⟩ := f.exists_example
  obtain ⟨e, he, hg, -⟩ := g.exists_example
  have hcodes : (examples.map code)[f.ctorIdx]? = some f.code := by
    rw [List.getElem?_map, hd, hf, Option.map_some]
  have hcodes' : (examples.map code)[g.ctorIdx]? = some g.code := by
    rw [List.getElem?_map, he, hg, Option.map_some]
  constructor
  · intro h
    obtain ⟨hlength, -⟩ := List.getElem?_eq_some_iff.1 hcodes
    exact (List.getElem?_inj hlength nodup_codes).1 (by rw [hcodes, hcodes', h])
  · intro h
    rw [h, hcodes'] at hcodes
    exact (Option.some.inj hcodes).symm

/-- What the user may do about a failure depends on its class alone. -/
theorem help?_of_code_eq (h : f.code = g.code) : f.help? = g.help? := by
  obtain ⟨d, hd, -, hf⟩ := f.exists_example
  obtain ⟨e, he, -, hg⟩ := g.exists_example
  rw [code_eq_iff.1 h, he] at hd
  rw [hf, hg, Option.some.inj hd]

/-! ## Failures that count as interrupts -/

/-- A reason ends like an interrupt if the text of an interrupt is at its end. -/
theorem endsCancelled_iff {reason : String} :
    endsCancelled reason = true ↔ cancelledText.toList <:+ reason.toList := Text.endsWith_iff

/-- The opening of a text that ends with a colon and a space. -/
def EndsInColon (opening : String) : Prop := [':', ' '] <:+ opening.toList

instance (opening : String) : Decidable (EndsInColon opening) :=
  inferInstanceAs (Decidable ([':', ' '] <:+ opening.toList))

/-- What comes before an opening does not change how it ends. -/
theorem EndsInColon.append {opening : String} (h : EndsInColon opening) (before : String) :
    EndsInColon (before ++ opening) := by
  rw [EndsInColon, String.toList_append]
  exact h.trans (List.suffix_append _ _)

/-- The text of an interrupt cannot be cut behind a colon and a space, nor within these. -/
theorem cancelledText_uncut {before after l : List Char}
    (h : cancelledText.toList = before ++ after) (hl : before <:+ l) (hcolon : [':', ' '] <:+ l) :
    before = [] := by
  have hcut : ∀ n < 20, n ≠ 0 → ¬ cancelledText.toList.take n <:+ [':', ' '] ∧
      ¬ [':', ' '] <:+ cancelledText.toList.take n := by
    decide
  have hn : before = cancelledText.toList.take before.length := by
    rw [h, List.take_left]
  have hlt : before.length < 20 := by
    have h19 : (before ++ after).length = 19 := h ▸ rfl
    rw [List.length_append] at h19
    omega
  by_cases hne : before.length = 0
  · exact List.length_eq_zero_iff.1 hne
  obtain ⟨h₁, h₂⟩ := hcut before.length hlt hne
  rw [← hn] at h₁ h₂
  rcases List.suffix_or_suffix_of_suffix hl hcolon with h | h
  · exact absurd h h₁
  · exact absurd h h₂

/-- Whether a reason ends like an interrupt is decided by what follows its last colon. -/
theorem EndsInColon.endsCancelled {opening : String} (hopening : EndsInColon opening)
    (reason : String) : endsCancelled (opening ++ reason) = endsCancelled reason := by
  rw [Bool.eq_iff_iff, endsCancelled_iff, endsCancelled_iff, String.toList_append]
  refine ⟨fun ⟨before, h⟩ => ?_, fun h => h.trans (List.suffix_append _ _)⟩
  -- The text of an interrupt lies behind the colon, or it is cut there.
  rcases List.append_eq_append_iff.1 h with ⟨part, hl, he⟩ | ⟨part, -, hr⟩
  · rw [cancelledText_uncut he ⟨before, hl.symm⟩ hopening] at he
    exact he ▸ List.suffix_rfl
  · exact ⟨part, hr.symm⟩

/-- A text that ends with that of an interrupt is recognised as such. -/
theorem endsCancelled_append (opening : String) :
    endsCancelled (opening ++ cancelledText) = true := by
  rw [endsCancelled_iff, String.toList_append]
  exact List.suffix_append ..

/-- Whether a failure is an interrupt or wraps work that can be interrupted. -/
def heedsInterrupts : Failure → Bool
  | cancelled | discovery _ | recommendation _ | retrieval .. | installation .. | logSearch _ =>
    true
  | _ => false

/-- A failure counts as an interrupt if its kind allows for one and its text ends like one. -/
theorem isCancellation_eq (f : Failure) :
    f.isCancellation = (f.heedsInterrupts && endsCancelled f.message) := by
  cases f with
  | discovery reason | recommendation reason | logSearch reason =>
    exact (EndsInColon.endsCancelled (by decide) reason).symm
  | retrieval name reason | installation name reason =>
    exact (EndsInColon.endsCancelled (.append (by decide) _) reason).symm
  | cancelled => decide
  | _ => rfl

/-- An exit status is that of an interrupt or that of a failure. -/
theorem exitCode_eq (f : Failure) : f.exitCode = 130 ∨ f.exitCode = 1 := by
  unfold exitCode
  split
  · exact .inl rfl
  · exact .inr rfl

/-- A failure whose kind allows for no interrupt has the exit status of a failure, whatever its text
is. -/
theorem exitCode_of_not_heeds (h : f.heedsInterrupts = false) : f.exitCode = 1 := by
  rw [exitCode, isCancellation_eq, h, Bool.false_and, if_neg Bool.false_ne_true]

/-- A question to the operator that fails, or a request that cannot be sent, is not mistaken for an
interrupt, whatever it is about. -/
theorem exitCode_of_question (reason address : String) :
    (ofQuestion reason).exitCode = 1 ∧ (ofUnsent address).exitCode = 1 :=
  ⟨exitCode_of_not_heeds rfl, exitCode_of_not_heeds rfl⟩

end Provision.Failure
