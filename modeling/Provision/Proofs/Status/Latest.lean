import Mathlib.Data.List.Induction
import Provision.Status

/-!
# The latest mention of each recipe

A report mentions recipes, each with a state, a message and an entity (`Report.mentions`). A status
list after some mentions is fixed by two facts: its names are those that were mentioned, in the
order of their first mention (`StatusList.names_ofMentions`), and the entry of a name is the record
of its latest mention (`StatusList.find?_ofMentions`). Both are proved one mention at a time, from
what `StatusList.put` does to the names and to the entry of a name.
-/

namespace Provision

/-- What a report says of one recipe. -/
structure Mention where
  recipe : Recipe
  state : RecipeState
  message : String
  entity : String

/-- What a report says, recipe by recipe. -/
def Report.mentions : Report → List Mention
  | available rs => rs.map fun r => ⟨r, .available, "", ""⟩
  | installed r message entity => [⟨r, .installed, message, entity⟩]
  | failed r message entity => [⟨r, .failed, message, entity⟩]

namespace Mention

/-- The name of the recipe that is mentioned. -/
def name (m : Mention) : String := m.recipe.name

/-- The entry that records a mention. -/
def entry (m : Mention) : RecipeStatus := m.recipe.status m.state m.message m.entity

/-- The entry of a mention has its name. -/
@[simp] theorem entry_name (m : Mention) : m.entry.name = m.name := rfl

/-- The latest mention of a name. -/
def latest (n : String) (ms : List Mention) : Option Mention :=
  (ms.filter (·.name = n)).getLast?

/-- The latest mention of a name is the last one, if that has the name. -/
theorem latest_concat (n : String) (ms : List Mention) (m : Mention) :
    latest n (ms ++ [m]) = if m.name = n then some m else latest n ms := by
  by_cases h : m.name = n <;> simp [latest, h]

/-- Of two runs of mentions the later one decides, if it has the name. -/
theorem latest_append (n : String) (ms ms' : List Mention) :
    latest n (ms ++ ms') = (latest n ms').or (latest n ms) := by
  simp [latest, List.getLast?_append]

/-- The latest mention of a name is a mention of it. -/
theorem mem_of_latest {n : String} {ms : List Mention} {m : Mention} (h : latest n ms = some m) :
    m ∈ ms ∧ m.name = n := by
  simpa using List.mem_of_getLast? h

/-- A name has no latest mention if it was never mentioned. -/
theorem latest_eq_none {n : String} {ms : List Mention} :
    latest n ms = none ↔ ∀ m ∈ ms, m.name ≠ n := by
  simp [latest]

end Mention

namespace StatusList

/-! ## Putting an entry -/

/-- Putting an entry keeps the names, and adds its own at the end if it is new. -/
theorem names_put (e : RecipeStatus) (l : List RecipeStatus) :
    (put e l).map RecipeStatus.name =
      if e.name ∈ l.map RecipeStatus.name then l.map RecipeStatus.name
      else l.map RecipeStatus.name ++ [e.name] := by
  induction l with
  | nil => simp [put]
  | cons s rest ih =>
    by_cases h : s.name = e.name
    · simp [put, h]
    · simp only [put, if_neg h, List.map_cons, ih, List.mem_cons, Ne.symm h, false_or]
      split <;> rfl

/-- After putting an entry its name has it, and every other name has what it had. -/
theorem find?_put (e : RecipeStatus) (l : List RecipeStatus) (n : String) :
    (put e l).find? (·.name = n) = if e.name = n then some e else l.find? (·.name = n) := by
  induction l with
  | nil => by_cases h : e.name = n <;> simp [put, h]
  | cons s rest ih =>
    by_cases h : s.name = e.name
    · by_cases hn : e.name = n <;> simp [put, h, hn]
    · rw [put, if_neg h, List.find?_cons, List.find?_cons, ih]
      by_cases hs : s.name = n
      · have hn : e.name ≠ n := fun he => h (hs.trans he.symm)
        simp [hs, hn]
      · simp [hs]

/-! ## The list after mentions -/

/-- The list after a mention. -/
def mention (l : StatusList) (m : Mention) : StatusList := l.record m.entry

/-- The list after mentions, one after the other. -/
def ofMentions (ms : List Mention) : StatusList := ms.foldl mention .empty

/-- The last mention is put into the list of those before it. -/
theorem ofMentions_concat (ms : List Mention) (m : Mention) :
    (ofMentions (ms ++ [m])).statuses = put m.entry (ofMentions ms).statuses := by
  simp [ofMentions, mention, record]

/-- A report is taken note of mention by mention. -/
theorem update_eq (l : StatusList) (r : Report) : l.update r = r.mentions.foldl mention l := by
  cases r with
  | available rs => simp [update, Report.mentions, List.foldl_map, mention, Mention.entry]
  | installed r message entity => rfl
  | failed r message entity => rfl

/-- Of a list with one more element, the first occurrences are those before, and it if it is new. -/
theorem eraseDups_concat (as : List String) (a : String) :
    (as ++ [a]).eraseDups = if a ∈ as then as.eraseDups else as.eraseDups ++ [a] := by
  rw [List.eraseDups_append]
  by_cases h : a ∈ as
  · simp [List.removeAll, h]
  · simp [List.removeAll, h, List.eraseDups_cons]

/-- The names of a status list are in the order of their first mention, each once. -/
theorem names_ofMentions (ms : List Mention) :
    (ofMentions ms).statuses.map RecipeStatus.name = (ms.map Mention.name).eraseDups := by
  induction ms using List.reverseRecOn with
  | nil => rfl
  | append_singleton ms m ih =>
    rw [ofMentions_concat, names_put, ih, List.map_append, List.map_singleton, eraseDups_concat]
    simp only [Mention.entry_name, List.mem_eraseDups]

/-- Nothing is in a list twice whose duplicates were erased. -/
theorem nodup_eraseDups (as : List String) : as.eraseDups.Nodup := by
  induction as using List.reverseRecOn with
  | nil => exact List.nodup_nil
  | append_singleton as a ih =>
    rw [eraseDups_concat]
    split
    · exact ih
    · next h =>
      refine List.nodup_append.2 ⟨ih, List.pairwise_singleton _ a, fun b hb c hc hbc => h ?_⟩
      rw [← List.mem_singleton.1 hc, ← hbc]
      exact List.mem_eraseDups.1 hb

/-- No two entries of a status list have one name. -/
theorem nodup_names (ms : List Mention) :
    ((ofMentions ms).statuses.map RecipeStatus.name).Nodup :=
  names_ofMentions ms ▸ nodup_eraseDups _

/-- The entry of a name is the record of its latest mention. -/
theorem find?_ofMentions (ms : List Mention) (n : String) :
    (ofMentions ms).statuses.find? (·.name = n) = (Mention.latest n ms).map Mention.entry := by
  induction ms using List.reverseRecOn with
  | nil => rfl
  | append_singleton ms m ih =>
    rw [ofMentions_concat, find?_put, ih, Mention.latest_concat]
    by_cases h : m.name = n <;> simp [h]

/-- Every entry is the record of the latest mention of its name. -/
theorem latest_of_mem {ms : List Mention} {s : RecipeStatus} (hs : s ∈ (ofMentions ms).statuses) :
    ∃ m, Mention.latest s.name ms = some m ∧ s = m.entry := by
  -- No other entry has the name, so the entry is the one that is found by it.
  have hfind : (ofMentions ms).statuses.find? (·.name = s.name) = some s := by
    obtain ⟨pre, post, hl⟩ := List.append_of_mem hs
    have hnodup := nodup_names ms
    rw [hl, List.map_append, List.map_cons, List.nodup_append] at hnodup
    rw [hl, List.find?_append, List.find?_eq_none.2, Option.none_or, List.find?_cons]
    · simp
    · intro u hu
      simpa using hnodup.2.2 _ (List.mem_map_of_mem hu) _ List.mem_cons_self
  rw [find?_ofMentions, Option.map_eq_some_iff] at hfind
  obtain ⟨m, hm, he⟩ := hfind
  exact ⟨m, hm, he.symm⟩

end StatusList

end Provision
