/-!
# Lists that are cut and put together

Runs and drafts are cut at an element: a log at a command that is started in it, calls at an
execution, commands at the first one of a kind. What is read or looked up for the elements of a list
is put before what comes of the rest of it, if that succeeds.
-/

namespace Provision

variable {α : Type}

/-- A list in two parts, of which the first does not have an element, is cut at the element in the
second. -/
theorem append_eq_append_cons (cs : List α) {ds pre post : List α} {c : α}
    (h : cs ++ ds = pre ++ c :: post) (hc : c ∉ cs) :
    ∃ pre', pre = cs ++ pre' ∧ ds = pre' ++ c :: post := by
  rcases List.append_eq_append_iff.1 h with ⟨as, rfl, hd⟩ | ⟨bs, rfl, hd⟩
  · exact ⟨as, rfl, hd⟩
  · cases bs with
    | nil => exact ⟨[], by simp, by simpa using hd.symm⟩
    | cons b bs =>
      cases hd
      exact absurd (List.mem_append_right _ List.mem_cons_self) hc

/-- The place of the first element of a kind is the number of the elements before it. -/
theorem findIdx?_eq_some_iff_append {p : α → Bool} {l : List α} {i : Nat} :
    l.findIdx? p = some i ↔ ∃ before a after, l = before ++ a :: after ∧ before.length = i ∧
      p a = true ∧ ∀ b ∈ before, p b = false := by
  constructor
  · intro h
    obtain ⟨hi, hp, hbefore⟩ := List.findIdx?_eq_some_iff_getElem.1 h
    refine ⟨l.take i, l[i], l.drop (i + 1), ?_, List.length_take_of_le (Nat.le_of_lt hi), hp,
      fun b hb => ?_⟩
    · rw [List.getElem_cons_drop, List.take_append_drop]
    · obtain ⟨j, hj, rfl⟩ := List.mem_take_iff_getElem.1 hb
      exact Bool.eq_false_iff.2 (hbefore j (by omega))
  · rintro ⟨before, a, after, rfl, rfl, ha, hbefore⟩
    rw [List.findIdx?_append, List.findIdx?_eq_none_iff.2 hbefore, List.findIdx?_cons, ha]
    simp

/-- Nothing is put before the outcome of the rest, which stays as it is. -/
theorem map_nil_append {ε : Type} (rest : Except ε (List α)) :
    rest.map (fun as => [] ++ as) = rest := by
  cases rest <;> rfl

end Provision
