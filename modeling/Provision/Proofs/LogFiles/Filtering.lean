import Provision.Proofs.Catalog.Loading
import Provision.Proofs.LogFiles.Present
import Provision.Proofs.Machine.Interrupted

/-!
# Which log files are kept

Recipes may name the same log files. The filter looks at each pattern where it is named first
(`LogFiles.firstOfEach`), keeps it there if a file is found for it, and warns of it there if it is
no glob. Before each log watch, also before one that it has nothing to do with any more, it looks
for an interrupt; so an interrupt that comes in time leaves nothing of the result
(`LogFiles.filter_first`).

The loop carries the patterns that it has seen. What it does to the rest is what it would do to the
rest without them (`LogFiles.filterFrom_eq`).
-/

namespace Provision.LogFiles

open Files (Disk)

/-! ## The first log watch of each pattern -/

section
variable {ws : List LogWatch} {w : LogWatch}

/-- The log watches without those whose pattern was named before. -/
def firstOfEach (ws : List LogWatch) : List LogWatch :=
  ws.eraseDupsBy fun v w => v.file == w.file

/-- After the first log watch, those with its pattern do not count. -/
theorem firstOfEach_cons (w : LogWatch) (ws : List LogWatch) :
    firstOfEach (w :: ws) = w :: firstOfEach (ws.filter fun v => v.file ≠ w.file) := by
  rw [firstOfEach, List.eraseDupsBy_cons]
  simp [firstOfEach]

/-- It does not matter whether patterns are left out before or after. -/
theorem firstOfEach_filter (p : String → Bool) (ws : List LogWatch) :
    firstOfEach (ws.filter fun v => p v.file) = (firstOfEach ws).filter fun v => p v.file := by
  match ws with
  | [] => rfl
  | w :: ws =>
    have ih := firstOfEach_filter p (ws.filter fun v => v.file ≠ w.file)
    rw [firstOfEach_cons, List.filter_cons, List.filter_cons, ← ih]
    cases hw : p w.file with
    | true =>
      rw [if_pos rfl, if_pos rfl, firstOfEach_cons, List.filter_filter, List.filter_filter]
      simp only [Bool.and_comm]
    | false =>
      have hsame : ∀ v : LogWatch, p v.file = true → v.file ≠ w.file := by
        rintro v hv hvw
        rw [hvw, hw] at hv
        cases hv
      rw [if_neg Bool.false_ne_true, if_neg Bool.false_ne_true, List.filter_filter]
      refine congrArg firstOfEach (List.filter_congr fun v _ => ?_)
      cases hv : p v.file with
      | true => simp [hsame v hv]
      | false => rfl
termination_by ws.length
decreasing_by exact Nat.lt_succ_of_le (List.length_filter_le _ _)

/-- The first log watches of each pattern are some of all, in their order. -/
theorem firstOfEach_sublist (ws : List LogWatch) : (firstOfEach ws).Sublist ws := by
  induction ws with
  | nil => exact .slnil
  | cons w ws ih =>
    rw [firstOfEach_cons, firstOfEach_filter (fun f => f ≠ w.file)]
    exact (List.filter_sublist.trans ih).cons_cons w

/-- No pattern is there twice. -/
theorem nodup_firstOfEach (ws : List LogWatch) : ((firstOfEach ws).map LogWatch.file).Nodup := by
  induction ws with
  | nil => exact List.nodup_nil
  | cons w ws ih =>
    rw [firstOfEach_cons, firstOfEach_filter (fun f => f ≠ w.file), List.map_cons]
    refine List.nodup_cons.2 ⟨?_, ih.sublist (List.filter_sublist.map _)⟩
    simp

/-- What is there of a pattern is the first log watch with it. -/
theorem find?_firstOfEach (f : String) (ws : List LogWatch) :
    (firstOfEach ws).find? (fun v => v.file = f) = ws.find? fun v => v.file = f := by
  induction ws with
  | nil => rfl
  | cons w ws ih =>
    rw [firstOfEach_cons, firstOfEach_filter (fun f => f ≠ w.file), List.find?_cons,
      List.find?_cons, List.find?_filter, ← ih]
    by_cases hw : w.file = f
    · simp [hw]
    · have hne : ∀ v : LogWatch, (v.file ≠ w.file ∧ v.file = f) ↔ v.file = f :=
        fun v => and_iff_right_of_imp fun hv hvw => hw (hvw.symm.trans hv)
      simp [hw, hne]

/-- Every pattern has its first log watch. -/
theorem exists_mem_firstOfEach (hw : w ∈ ws) : ∃ v ∈ firstOfEach ws, v.file = w.file ∧
    ws.find? (fun v => v.file = w.file) = some v := by
  have hsome : (ws.find? fun v => v.file = w.file).isSome = true :=
    List.find?_isSome.2 ⟨w, hw, decide_eq_true rfl⟩
  obtain ⟨v, hv⟩ := Option.isSome_iff_exists.1 hsome
  have hfile := List.find?_some hv
  refine ⟨v, ?_, of_decide_eq_true hfile, hv⟩
  exact List.mem_of_find?_eq_some ((find?_firstOfEach w.file ws).trans hv)

/-- If no pattern is named twice, all log watches are the first of theirs. -/
theorem firstOfEach_of_nodup (h : (ws.map LogWatch.file).Nodup) : firstOfEach ws = ws := by
  induction ws with
  | nil => rfl
  | cons w ws ih =>
    obtain ⟨hw, hws⟩ := List.nodup_cons.1 h
    rw [firstOfEach_cons, firstOfEach_filter (fun f => f ≠ w.file), ih hws]
    refine congrArg _ (List.filter_eq_self.2 fun v hv => decide_eq_true fun hvw => hw ?_)
    exact hvw ▸ List.mem_map_of_mem hv

end

/-! ## One log watch after the other -/

section
variable {m : Machine} {seen : List String} {w : LogWatch} {ws : List LogWatch}

/-- Whether a file is there for a log watch. -/
def found (d : Disk) (w : LogWatch) : Bool :=
  match present d w.file with
  | .ok there => there
  | .error _ => false

/-- A file is found for a log watch if its pattern has one that is present. -/
theorem found_iff {d : Disk} : found d w = true ↔ present d w.file = .ok true := by
  unfold found
  cases present d w.file <;> simp

/-- The warning of a pattern that is no glob. -/
def warning (p : String × Glob.Problem) : Output :=
  .message ⟨.warn, .logFiles, "Ignoring invalid log file pattern " ++ p.1 ++ ": " ++ p.2, []⟩

/-- What is said of a log watch, if anything is. -/
def note (d : Disk) (w : LogWatch) : Option Output :=
  match present d w.file with
  | .error problem => some (warning (w.file, problem))
  | .ok true => some (.message ⟨.debug, .logFiles, "Found log files", [("pattern", w.file)]⟩)
  | .ok false => none

/-- The log watches with a pattern that was not seen. -/
def fresh (seen : List String) (ws : List LogWatch) : List LogWatch :=
  ws.filter fun w => !seen.contains w.file

/-- If nothing was seen, every log watch is fresh. -/
theorem fresh_nil (ws : List LogWatch) : fresh [] ws = ws := List.filter_eq_self.2 fun _ _ => rfl

/-- A log watch whose pattern was seen is not fresh. -/
theorem fresh_cons_seen (hw : seen.contains w.file = true) (ws : List LogWatch) :
    fresh seen (w :: ws) = fresh seen ws := by
  rw [fresh, List.filter_cons, hw]
  rfl

/-- After a new pattern no log watch with it counts any more. -/
theorem firstOfEach_fresh_cons (hw : seen.contains w.file = false) (ws : List LogWatch) :
    firstOfEach (fresh seen (w :: ws)) = w :: firstOfEach (fresh (w.file :: seen) ws) := by
  rw [fresh, List.filter_cons, hw, Bool.not_false, if_pos rfl, firstOfEach_cons,
    List.filter_filter, fresh]
  refine congrArg (fun vs => w :: firstOfEach vs) (List.filter_congr fun v _ => ?_)
  rw [List.contains_cons, Bool.not_or, decide_not]
  rfl

/-- The log watches that are come to before a look sees an interrupt. -/
def reached (m : Machine) (ws : List LogWatch) : List LogWatch :=
  m.interrupt.quiet.elim ws fun n => ws.take n

/-- On an interrupted machine no log watch is come to. -/
theorem reached_eq_nil (hm : m.Interrupted) (ws : List LogWatch) : reached m ws = [] := by
  rw [reached, hm.eq_tripped]
  rfl

/-- Only log watches of the list are come to. -/
theorem mem_of_mem_reached (h : w ∈ reached m ws) : w ∈ ws := by
  unfold reached at h
  cases hq : m.interrupt.quiet with
  | none => rwa [hq] at h
  | some n =>
    rw [hq] at h
    exact List.mem_of_mem_take h

/-- On any other machine the first log watch is come to, and then those after it. -/
theorem reached_cons (hm : ¬ m.Interrupted) (w : LogWatch) (ws : List LogWatch) :
    reached m (w :: ws) = w :: reached m.looked ws := by
  unfold reached Machine.looked Interrupt.next
  cases hq : m.interrupt.quiet with
  | none => rfl
  | some n =>
    cases n with
    | zero => exact absurd (by simp [Machine.Interrupted, Interrupt.isTripped, hq]) hm
    | succ n => rfl

/-- All log watches are come to if so many looks see no interrupt. -/
theorem reached_of_quiet (h : m.Quiet ws.length) : reached m ws = ws := by
  unfold reached
  cases hq : m.interrupt.quiet with
  | none => rfl
  | some n => exact List.take_of_length_le (h n hq)

/-- If a look sees an interrupt, some log watch is not come to. -/
theorem length_reached_lt (h : ¬ m.Quiet ws.length) : (reached m ws).length < ws.length := by
  unfold Machine.Quiet at h
  push Not at h
  obtain ⟨n, hn, hlt⟩ := h
  rw [reached, hn, Option.elim_some, List.length_take]
  omega

/-- A log watch whose pattern was seen is passed over. -/
theorem filterFrom_cons_seen (hm : ¬ m.Interrupted) (hw : seen.contains w.file = true) :
    filterFrom seen (w :: ws) m = filterFrom seen ws m.looked := by
  rw [filterFrom, Machine.check_bind_of_not_interrupted hm, if_pos hw]

/-- A log watch whose pattern was not seen is kept if a file is found for it, and said what there is
to say of it. Its pattern was seen from then on. -/
theorem filterFrom_cons_new (hm : ¬ m.Interrupted) (hw : seen.contains w.file = false) :
    filterFrom seen (w :: ws) m =
      ⟨(filterFrom (w.file :: seen) ws m.looked).value.map
          ((if found m.disk w then [w] else []) ++ ·),
        (note m.disk w).toList ++ (filterFrom (w.file :: seen) ws m.looked).log,
        (filterFrom (w.file :: seen) ws m.looked).world⟩ := by
  have hdisk : m.looked.disk = m.disk := rfl
  rw [filterFrom, Machine.check_bind_of_not_interrupted hm, if_neg (Bool.eq_false_iff.1 hw)]
  rw [Work.bind_eq_of_ok (a := m.looked) rfl, found, note]
  simp only [Work.world, hdisk, List.nil_append]
  cases present m.disk w.file with
  | error problem =>
    simp only [Bool.false_eq_true, if_false, map_nil_append]
    rfl
  | ok there =>
    cases there with
    | false => simp only [Bool.false_eq_true, if_false, map_nil_append]; rfl
    | true =>
      simp only [if_true]
      rw [Work.bind_eq_of_ok (a := ()) rfl]
      cases hrest : (filterFrom (w.file :: seen) ws m.looked).value with
      | error e =>
        rw [Work.bind_eq_of_error (by exact hrest)]
        rfl
      | ok rest =>
        rw [Work.bind_eq_of_ok (by exact hrest)]
        simp only [Work.pure_apply, List.append_nil]
        rfl

/-- Where no look sees an interrupt, what is left is the first log watch of each pattern that was
not seen, if a file is found for it; where one does, nothing is. What is said concerns the first log
watch of each such pattern among those that are come to. -/
theorem filterFrom_eq (seen : List String) (ws : List LogWatch) (m : Machine) :
    (filterFrom seen ws m).value =
        (if (reached m ws).length < ws.length then .error .cancelled
        else .ok ((firstOfEach (fresh seen ws)).filter (found m.disk))) ∧
      (filterFrom seen ws m).log =
        (firstOfEach (fresh seen (reached m ws))).filterMap (note m.disk) := by
  induction ws generalizing seen m with
  | nil =>
    have hnil : reached m [] = [] := reached_of_quiet fun _ _ => Nat.zero_le _
    rw [hnil]
    exact ⟨rfl, rfl⟩
  | cons w ws ih =>
    by_cases hm : m.Interrupted
    · rw [reached_eq_nil hm, filterFrom, hm.check_bind]
      exact ⟨rfl, rfl⟩
    · rw [reached_cons hm, List.length_cons, List.length_cons]
      simp only [Nat.add_lt_add_iff_right]
      cases hw : seen.contains w.file with
      | true =>
        rw [filterFrom_cons_seen hm hw, fresh_cons_seen hw, fresh_cons_seen hw]
        exact ih seen m.looked
      | false =>
        obtain ⟨hvalue, hlog⟩ := ih (w.file :: seen) m.looked
        have hdisk : m.looked.disk = m.disk := rfl
        rw [filterFrom_cons_new hm hw, hvalue, hlog, hdisk, firstOfEach_fresh_cons hw,
          firstOfEach_fresh_cons hw, List.filterMap_cons, List.filter_cons]
        constructor
        · by_cases hlt : (reached m.looked ws).length < ws.length
          · simp only [if_pos hlt]
            rfl
          · simp only [if_neg hlt]
            cases found m.disk w <;> rfl
        · cases note m.disk w <;> rfl

/-- Where no look sees an interrupt, the first log watch of each pattern is kept if a file is found
for it. -/
theorem filterFrom_of_quiet (h : m.Quiet ws.length) :
    (filterFrom [] ws m).value = .ok ((firstOfEach ws).filter (found m.disk)) := by
  rw [(filterFrom_eq [] ws m).1, reached_of_quiet h, if_neg (Nat.lt_irrefl _), fresh_nil]

/-- Where a look sees an interrupt, nothing is kept. -/
theorem filterFrom_of_not_quiet (h : ¬ m.Quiet ws.length) :
    (filterFrom seen ws m).value = .error .cancelled := by
  rw [(filterFrom_eq seen ws m).1, if_pos (length_reached_lt h)]

end

/-! ## What is warned of -/

/-- Whether something that is shown is a warning. -/
def isWarning : Output → Bool
  | .message m => m.level = .warn
  | _ => false

/-- The pattern of a log watch with what is wrong with it, if it is no glob. -/
def problem? (d : Disk) (w : LogWatch) : Option (String × Glob.Problem) :=
  match present d w.file with
  | .error problem => some (w.file, problem)
  | .ok _ => none

/-- A problem is that of the pattern, if this is no glob. -/
theorem problem?_eq_some {d : Disk} {w : LogWatch} {p : String × Glob.Problem} :
    problem? d w = some p ↔ w.file = p.1 ∧ present d w.file = .error p.2 := by
  unfold problem?
  cases present d w.file <;> simp [Prod.ext_iff]

/-- The warnings among what is said of log watches are those of patterns that are no globs. -/
theorem filter_isWarning_note (d : Disk) (ws : List LogWatch) :
    (ws.filterMap (note d)).filter isWarning = (ws.filterMap (problem? d)).map warning := by
  rw [List.filter_filterMap, List.map_filterMap]
  refine List.filterMap_congr fun w _ => ?_
  unfold note problem?
  cases present d w.file with
  | error problem => rfl
  | ok there => cases there <;> rfl

/-- If no pattern is named twice, no problem is told twice. -/
theorem nodup_problems {ws : List LogWatch} (h : (ws.map LogWatch.file).Nodup) (d : Disk) :
    ((ws.filterMap (problem? d)).map Prod.fst).Nodup := by
  refine List.Pairwise.map _ (fun _ _ hne => hne) (List.pairwise_filterMap.2 ?_)
  refine (List.pairwise_map.1 h).imp fun {v w} hvw p hp q hq => ?_
  rw [← (problem?_eq_some.1 hp).1, ← (problem?_eq_some.1 hq).1]
  exact hvw

/-! ## What is kept -/

/-- Where the patterns differ, the only log watch with one of them is the one that is there. -/
theorem filter_eq_singleton {ws : List LogWatch} {v : LogWatch}
    (h : (ws.map LogWatch.file).Nodup) (hv : v ∈ ws) :
    (ws.filter fun w => w.file = v.file) = [v] := by
  obtain ⟨before, after, rfl⟩ := List.append_of_mem hv
  have hnodup := List.pairwise_map.1 h
  obtain ⟨-, hafter, hbefore⟩ := List.pairwise_append.1 hnodup
  rw [List.filter_append, List.filter_cons, if_pos (by simp), List.filter_eq_nil_iff.2,
    List.filter_eq_nil_iff.2, List.nil_append]
  · intro w hw
    simpa using (List.rel_of_pairwise_cons hafter hw).symm
  · intro w hw
    simpa using hbefore w hw v List.mem_cons_self

/-- The filter keeps the first log watch of each pattern for which a file is there, as it is and in
the order in which they are named, and nothing else; the others with the pattern count for nothing,
and neither does it matter which recipe names what. What was kept is kept again. Of each pattern
that is no glob one warning is given at most, and exactly one if no interrupt is seen. If one is
seen by one of the looks, of which there is one for each log watch, the filter is cancelled. -/
theorem filter_first (recipes : List Recipe) (m : Machine) :
    let ws := recipes.flatMap (·.logWatches)
    let kept := (firstOfEach ws).filter (found m.disk)
    (m.Quiet ws.length → (filter recipes m).value = .ok kept) ∧
    (¬ m.Quiet ws.length → (filter recipes m).value = .error .cancelled) ∧
    (kept.map LogWatch.file).Nodup ∧ kept.Sublist ws ∧
    (∀ w ∈ ws, present m.disk w.file = .ok true →
      ∃ v, ws.find? (fun v => v.file = w.file) = some v ∧
        (kept.filter fun v => v.file = w.file) = [v]) ∧
    (∀ recipes', recipes'.flatMap (·.logWatches) = ws → filter recipes' = filter recipes) ∧
    (∀ (r : Recipe) (m' : Machine), r.logWatches = kept → m'.disk = m.disk →
      m'.Quiet kept.length → (filter [r] m').value = .ok kept) ∧
    ∃ warned : List (String × Glob.Problem), (warned.map Prod.fst).Nodup ∧
      (∀ p ∈ warned, present m.disk p.1 = .error p.2 ∧ ∃ w ∈ ws, w.file = p.1) ∧
      (filter recipes m).log.filter isWarning = warned.map warning ∧
      (m.Quiet ws.length → ∀ w ∈ ws, ∀ problem, present m.disk w.file = .error problem →
        (w.file, problem) ∈ warned) := by
  intro ws kept
  have hnodup : (kept.map LogWatch.file).Nodup :=
    (nodup_firstOfEach ws).sublist (List.filter_sublist.map _)
  have hlog : (filter recipes m).log = (firstOfEach (reached m ws)).filterMap (note m.disk) := by
    rw [filter, (filterFrom_eq [] ws m).2, fresh_nil]
  refine ⟨filterFrom_of_quiet, filterFrom_of_not_quiet, hnodup,
    List.filter_sublist.trans (firstOfEach_sublist ws), fun w hw hpresent => ?_,
    fun recipes' h => by rw [filter, filter, h], fun r m' hr hdisk h => ?_,
    (firstOfEach (reached m ws)).filterMap (problem? m.disk), ?_, ?_, ?_, ?_⟩
  · obtain ⟨v, hv, hfile, hfind⟩ := exists_mem_firstOfEach hw
    rw [← hfile] at hpresent hfind ⊢
    have hfound : found m.disk v = true := found_iff.2 hpresent
    exact ⟨v, hfind, filter_eq_singleton hnodup (List.mem_filter.2 ⟨hv, hfound⟩)⟩
  · have hagain : kept.filter (found m.disk) = kept :=
      List.filter_eq_self.2 fun _ hw => (List.mem_filter.1 hw).2
    rw [filter, List.flatMap_singleton, hr, filterFrom_of_quiet h, firstOfEach_of_nodup hnodup,
      hdisk, hagain]
  · exact nodup_problems (nodup_firstOfEach _) m.disk
  · intro p hp
    obtain ⟨w, hw, hproblem⟩ := List.mem_filterMap.1 hp
    obtain ⟨hfile, hpresent⟩ := problem?_eq_some.1 hproblem
    have hreached := (firstOfEach_sublist _).subset hw
    rw [hfile] at hpresent
    exact ⟨hpresent, w, mem_of_mem_reached hreached, hfile⟩
  · rw [hlog, filter_isWarning_note]
  · intro h w hw problem hpresent
    obtain ⟨v, hv, hfile, -⟩ := exists_mem_firstOfEach hw
    rw [← hfile] at hpresent ⊢
    rw [reached_of_quiet h]
    exact List.mem_filterMap.2 ⟨v, hv, problem?_eq_some.2 ⟨rfl, hpresent⟩⟩

/-- Of two log watches for one file the first is kept. -/
example :
    let naming (name : String) : Recipe :=
      { (default : Recipe) with logWatches := [⟨name, "syslog", default⟩] }
    (filter [naming "a", naming "b"] { (default : Machine) with disk := flat }).value.toOption =
      some [⟨"a", "syslog", default⟩] := by
  decide +kernel

end Provision.LogFiles
