/-!
# Cutting texts into pieces

Paths, patterns and command lines are cut at a separator, and queries have a placeholder filled
in. Everything works on lists of characters; `joinWith_splitAt` says that cutting a text loses
nothing.
-/

namespace Provision.Text

/-- The pieces of a text between the separators; there is one piece more than separators. -/
def splitAt (sep : Char) : List Char → List (List Char)
  | [] => [[]]
  | c :: cs =>
    if c = sep then [] :: splitAt sep cs
    else match splitAt sep cs with
      | [] => [[c]]
      | p :: ps => (c :: p) :: ps

/-- The pieces with the separator between them. -/
def joinWith (sep : Char) : List (List Char) → List Char
  | [] => []
  | [p] => p
  | p :: q :: ps => p ++ sep :: joinWith sep (q :: ps)

/-- There is at least one piece, also of the empty text. -/
theorem splitAt_ne_nil (sep : Char) (cs : List Char) : splitAt sep cs ≠ [] := by
  induction cs with
  | nil => simp [splitAt]
  | cons c cs ih =>
    unfold splitAt
    split
    · simp
    · split <;> simp

/-- Before a separator there is an empty piece. -/
theorem splitAt_self (sep : Char) (cs : List Char) :
    splitAt sep (sep :: cs) = [] :: splitAt sep cs := if_pos rfl

/-- Any other character belongs to the first piece. -/
theorem splitAt_cons_of_ne {sep c : Char} (hc : c ≠ sep) (cs : List Char) :
    ∃ p ps, splitAt sep cs = p :: ps ∧ splitAt sep (c :: cs) = (c :: p) :: ps := by
  obtain ⟨p, ps, hp⟩ := List.exists_cons_of_ne_nil (splitAt_ne_nil sep cs)
  exact ⟨p, ps, hp, by rw [splitAt, if_neg hc, hp]⟩

/-- The first character of the first piece is the first one of the whole. -/
theorem joinWith_cons_cons (sep c : Char) (p : List Char) (ps : List (List Char)) :
    joinWith sep ((c :: p) :: ps) = c :: joinWith sep (p :: ps) := by
  cases ps <;> simp [joinWith]

/-- Putting the separators back restores the text. -/
theorem joinWith_splitAt (sep : Char) (cs : List Char) : joinWith sep (splitAt sep cs) = cs := by
  induction cs with
  | nil => rfl
  | cons c cs ih =>
    by_cases hc : c = sep
    · subst hc
      obtain ⟨p, ps, hp⟩ := List.exists_cons_of_ne_nil (splitAt_ne_nil c cs)
      rw [splitAt_self, hp, joinWith, ← hp, ih, List.nil_append]
    · obtain ⟨p, ps, hp, hcons⟩ := splitAt_cons_of_ne hc cs
      rw [hcons, joinWith_cons_cons, ← hp, ih]

/-- No piece holds the separator. -/
theorem not_mem_of_mem_splitAt {sep : Char} {cs : List Char} {p : List Char}
    (h : p ∈ splitAt sep cs) : sep ∉ p := by
  induction cs generalizing p with
  | nil => simp [splitAt] at h; simp [h]
  | cons c cs ih =>
    by_cases hc : c = sep
    · subst hc
      rw [splitAt_self] at h
      rcases List.mem_cons.1 h with rfl | h
      · exact List.not_mem_nil
      · exact ih h
    · obtain ⟨q, qs, hq, hcons⟩ := splitAt_cons_of_ne hc cs
      rw [hcons] at h
      rcases List.mem_cons.1 h with rfl | h
      · simpa [Ne.symm hc] using ih (hq ▸ List.mem_cons_self)
      · exact ih (hq ▸ List.mem_cons_of_mem _ h)

/-- The rest of a text after a given beginning, if it begins so. -/
def afterStart : List Char → List Char → Option (List Char)
  | [], cs => some cs
  | _ :: _, [] => none
  | p :: ps, c :: cs => if p = c then afterStart ps cs else none

/-- What is after a start is what has to follow it in the text. -/
theorem afterStart_eq_some {ps cs rest : List Char} :
    afterStart ps cs = some rest ↔ cs = ps ++ rest := by
  induction ps generalizing cs with
  | nil => simp [afterStart]
  | cons p ps ih =>
    cases cs with
    | nil => simp [afterStart]
    | cons c cs =>
      by_cases h : p = c
      · subst h; simp [afterStart, ih]
      · simp [afterStart, h, Ne.symm h]

/-- Whether a text begins with another. -/
def startsWith (start cs : List Char) : Bool :=
  (afterStart start cs).isSome

/-- Whether a text ends with another. -/
def endsWith (ending cs : List Char) : Bool :=
  startsWith ending.reverse cs.reverse

/-- A text starts with another one if this is a prefix of it. -/
theorem startsWith_iff {start cs : List Char} : startsWith start cs = true ↔ start <+: cs := by
  rw [startsWith, Option.isSome_iff_exists]
  exact exists_congr fun rest => afterStart_eq_some.trans eq_comm

/-- A text ends with another one if this is a suffix of it. -/
theorem endsWith_iff {ending cs : List Char} : endsWith ending cs = true ↔ ending <:+ cs := by
  rw [endsWith, startsWith_iff, List.reverse_prefix]

/-- Every occurrence of `old`, found from the left and without overlap, becomes `new`. The text
that is skipped after an occurrence is counted down in `skip`. -/
def replaceFrom (old new : List Char) (skip : Nat) : List Char → List Char
  | [] => []
  | c :: cs =>
    match skip with
    | n + 1 => replaceFrom old new n cs
    | 0 =>
      if startsWith old (c :: cs) then new ++ replaceFrom old new (old.length - 1) cs
      else c :: replaceFrom old new 0 cs

/-- `replaceAll old new s` is `s` with `new` for each occurrence of `old`, which is not empty. -/
def replaceAll (old new s : String) : String :=
  String.ofList (replaceFrom old.toList new.toList 0 s.toList)

/-- Whether a text occurs somewhere in another. -/
def occursIn (part : List Char) : List Char → Bool
  | [] => part.isEmpty
  | c :: cs => startsWith part (c :: cs) || occursIn part cs

/-- The lines of a text as a terminal shows them: a line break ends a line, and what follows the
last one is a line only if there is something. -/
def linesOf (cs : List Char) : List (List Char) :=
  let pieces := splitAt '\n' cs
  if pieces.getLast? = some [] then pieces.dropLast else pieces

end Provision.Text
