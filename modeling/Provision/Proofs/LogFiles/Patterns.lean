import Mathlib.Data.List.TakeWhile
import Provision.LogFiles
import Provision.Proofs.Text.Pieces

/-!
# How patterns are split

The `components` of a pattern are its names, with backslashes read as slashes. A pattern without
glob signs stands for itself (`split_eq_none`). Any other one is cut before the first name with such
a sign: the names before it lead to a folder, and the rest is a glob (`split_of_components`). So
nothing of a pattern is lost but what leads nowhere else (`split_lossless`).
-/

namespace Provision.LogFiles

/-! ## Slashes -/

/-- Only the backslashes of a pattern are replaced. -/
theorem toList_forwardSlashes (s : String) :
    (forwardSlashes s).toList = s.toList.map fun c => if c == '\\' then '/' else c :=
  String.toList_ofList

/-- No backslash is left. -/
theorem not_mem_forwardSlashes (s : String) : '\\' ∉ (forwardSlashes s).toList := by
  rw [toList_forwardSlashes, List.mem_map]
  rintro ⟨c, -, hc⟩
  split at hc
  · cases hc
  · next h => exact h (by simp [hc])

/-- A pattern without backslashes stays as it is. -/
theorem forwardSlashes_of_not_mem {s : String} (h : '\\' ∉ s.toList) : forwardSlashes s = s := by
  rw [← String.toList_inj, toList_forwardSlashes]
  refine (List.map_congr_left fun c hc => if_neg ?_).trans (List.map_id _)
  rintro hback
  exact h (eq_of_beq hback ▸ hc)

/-- The names of a pattern. -/
def components (pattern : String) : List (List Char) :=
  Text.splitAt '/' (forwardSlashes pattern).toList

section
variable {pattern : String} {name : List Char}

/-- The components of a pattern make up the pattern. -/
theorem joinWith_components (pattern : String) :
    Text.joinWith '/' (components pattern) = (forwardSlashes pattern).toList :=
  Text.joinWith_splitAt ..

/-- No slash is in a component. -/
theorem slash_not_mem_component (h : name ∈ components pattern) : '/' ∉ name :=
  Text.not_mem_of_mem_splitAt h

/-- What is in a component is in the pattern. -/
theorem mem_of_mem_component {c : Char} (h : name ∈ components pattern) (hc : c ∈ name) :
    c ∈ (forwardSlashes pattern).toList :=
  (Text.exists_mem_splitAt.1 ⟨name, h, hc⟩).1

/-- A slash is no more a glob sign than a backslash. -/
theorem any_forwardSlashes (s : String) :
    (forwardSlashes s).toList.any isGlobSign = s.toList.any isGlobSign := by
  rw [toList_forwardSlashes, List.any_map]
  congr 1
  funext c
  by_cases hc : c = '\\'
  · rw [hc]
    rfl
  · simp [hc]

/-- No name of a pattern has a glob sign if the pattern has none, and the other way round. -/
theorem components_plain : (∀ n ∈ components pattern, n.any isGlobSign = false) ↔
    pattern.toList.any isGlobSign = false := by
  rw [← any_forwardSlashes]
  constructor
  · intro h
    refine List.any_eq_false.2 fun c hc => ?_
    by_cases hslash : c = '/'
    · rw [hslash]
      exact Bool.false_ne_true
    · obtain ⟨n, hn, hcn⟩ := Text.exists_mem_splitAt.2 ⟨hc, hslash⟩
      exact List.any_eq_false.1 (h n hn) c hcn
  · intro h n hn
    exact List.any_eq_false.2 fun c hc =>
      List.any_eq_false.1 h c (mem_of_mem_component hn hc)

end

/-! ## Folders and globs -/

/-- The folder that the names before a glob lead to. -/
def folderOf (plain : List (List Char)) : String :=
  if joinNames plain ≠ "" then joinNames plain else if plain = [] then "." else "/"

section
variable {pattern : String} {plain more : List (List Char)} {name : List Char}

/-- What is left after the longest start of a kind begins where the start ends. -/
theorem drop_takeWhile {α : Type} (p : α → Bool) (l : List α) :
    l.drop (l.takeWhile p).length = l.dropWhile p := by
  have h : (l.takeWhile p ++ l.dropWhile p).drop (l.takeWhile p).length = l.dropWhile p :=
    List.drop_left
  rwa [List.takeWhile_append_dropWhile] at h

/-- The names from the first one on that has a glob sign. -/
def globbed (pattern : String) : List (List Char) :=
  (components pattern).dropWhile fun n => !n.any isGlobSign

/-- A pattern is split before its first component that has a sign of a glob. -/
theorem split_eq (h : (components pattern).takeWhile (fun n => !n.any isGlobSign) = plain) :
    split pattern = if (globbed pattern).isEmpty then (forwardSlashes pattern, none)
      else (if joinNames plain ≠ "" then joinNames plain
          else if Files.isAbsolute (forwardSlashes pattern) then "/" else ".",
        some (joinNames (globbed pattern))) := by
  unfold split
  simp only [drop_takeWhile]
  rw [← h]
  rfl

/-- A pattern without glob signs stands for itself, and no other one does. -/
theorem split_eq_none {path : String} : split pattern = (path, none) ↔
    path = forwardSlashes pattern ∧ pattern.toList.any isGlobSign = false := by
  have hrest : (globbed pattern).isEmpty = true ↔ pattern.toList.any isGlobSign = false := by
    rw [← components_plain, globbed, List.isEmpty_iff, List.dropWhile_eq_nil_iff]
    simp only [Bool.not_eq_true']
  rw [split_eq rfl, ← hrest]
  split
  · next h => simp [h, eq_comm]
  · next h => simp [h]

/-- The names on a path of plain components are these components. -/
theorem names_joinNames (hne : plain ≠ []) (h : ∀ p ∈ plain, '/' ∉ p) :
    Files.names (joinNames plain) = plain.map String.ofList := by
  rw [Files.names, joinNames, String.toList_ofList, Text.splitAt_joinWith hne h]

/-- Components that make up nothing are none, or a single empty one. -/
theorem joinNames_eq_empty (h : joinNames plain = "") : plain = [] ∨ plain = [[]] := by
  have hjoin : Text.joinWith '/' plain = [] := by
    rw [← String.toList_inj, joinNames, String.toList_ofList] at h
    exact h
  match plain with
  | [] => exact .inl rfl
  | [p] => exact .inr (congrArg (· :: []) hjoin)
  | p :: q :: ps => simp [Text.joinWith] at hjoin

/-- The folder of a pattern begins at the root if the pattern does. -/
theorem isAbsolute_folderOf (h : components pattern = plain ++ name :: more)
    (hname : name.any isGlobSign = true) :
    Files.isAbsolute (folderOf plain) = Files.isAbsolute (forwardSlashes pattern) := by
  have hmem : name ∈ components pattern := h ▸ List.mem_append_right _ List.mem_cons_self
  have hpath : (forwardSlashes pattern).toList = Text.joinWith '/' (plain ++ name :: more) :=
    h ▸ (joinWith_components pattern).symm
  rw [folderOf, Files.isAbsolute, Files.isAbsolute, hpath]
  by_cases hempty : joinNames plain = ""
  · rcases joinNames_eq_empty hempty with rfl | rfl
    · obtain ⟨c, hc, -⟩ := List.any_eq_true.1 hname
      obtain ⟨a, as, rfl⟩ := List.exists_cons_of_ne_nil (List.ne_nil_of_mem hc)
      have ha : a ≠ '/' := (List.ne_of_not_mem_cons (slash_not_mem_component hmem)).symm
      rw [List.nil_append, Text.joinWith_cons_cons]
      simpa [hempty] using ha
    · simp [hempty, Text.joinWith]
  · have hne : plain ≠ [] := fun hnil => hempty (by rw [hnil]; rfl)
    have hjoined : Text.joinWith '/' plain ≠ [] := fun hnil =>
      hempty (by rw [joinNames, hnil])
    obtain ⟨c, cs, hc⟩ := List.exists_cons_of_ne_nil hjoined
    rw [if_pos hempty, joinNames, String.toList_ofList, Text.joinWith_append hne (by simp), hc]
    rfl

/-- A pattern is cut before its first name with a glob sign. -/
theorem split_of_components (h : components pattern = plain ++ name :: more)
    (hplain : ∀ n ∈ plain, n.any isGlobSign = false) (hname : name.any isGlobSign = true) :
    split pattern = (folderOf plain, some (joinNames (name :: more))) := by
  have hpos : ∀ n ∈ plain, (!n.any isGlobSign) = true := fun n hn => by simp [hplain n hn]
  have htake : (components pattern).takeWhile (fun n => !n.any isGlobSign) = plain := by
    rw [h, List.takeWhile_append_of_pos hpos]
    simp [hname]
  have hrest : globbed pattern = name :: more := by
    rw [globbed, h, List.dropWhile_append_of_pos hpos]
    simp [hname]
  rw [split_eq htake, hrest, ← isAbsolute_folderOf h hname, folderOf]
  by_cases hempty : joinNames plain = ""
  · simp only [ne_eq, hempty, not_true_eq_false, if_false]
    by_cases hnil : plain = []
    · rw [if_pos hnil]
      rfl
    · rw [if_neg hnil]
      rfl
  · simp [hempty]

/-- So every pattern with a glob is cut. -/
theorem exists_components {folder glob : String} (h : split pattern = (folder, some glob)) :
    ∃ plain name more, components pattern = plain ++ name :: more ∧
      (∀ n ∈ plain, n.any isGlobSign = false) ∧ name.any isGlobSign = true ∧
      folder = folderOf plain ∧ glob = joinNames (name :: more) := by
  cases hrest : globbed pattern with
  | nil =>
    rw [split_eq rfl, hrest] at h
    exact nomatch congrArg Prod.snd h
  | cons name more =>
    have hcut : components pattern =
        (components pattern).takeWhile (fun n => !n.any isGlobSign) ++ name :: more := by
      rw [← hrest, globbed, List.takeWhile_append_dropWhile]
    have hplain : ∀ n ∈ (components pattern).takeWhile (fun n => !n.any isGlobSign),
        n.any isGlobSign = false := fun n hn => by simpa using List.mem_takeWhile_imp hn
    have hname : name.any isGlobSign = true := by
      have hhead := List.head?_dropWhile_not (fun n => !n.any isGlobSign) (components pattern)
      rw [← globbed, hrest] at hhead
      simpa using hhead
    rw [split_of_components hcut hplain hname] at h
    obtain ⟨hfolder, hglob⟩ := Prod.mk.inj h
    exact ⟨_, name, more, hcut, hplain, hname, hfolder.symm, (Option.some.inj hglob).symm⟩

/-! ## Nothing is lost -/

/-- The folder of a pattern has the names before the glob, but for names that lead nowhere else. -/
theorem names_folderOf (h : ∀ p ∈ plain, '/' ∉ p) :
    (Files.names (folderOf plain)).filter (!Files.staysHere ·) =
      (plain.map String.ofList).filter (!Files.staysHere ·) := by
  by_cases hempty : joinNames plain = ""
  · rcases joinNames_eq_empty hempty with rfl | rfl <;> decide
  · have hne : plain ≠ [] := fun hnil => hempty (by rw [hnil]; rfl)
    rw [folderOf, if_pos hempty, names_joinNames hne h]

/-- A name without the signs of globs. -/
def IsPlain (name : String) : Prop :=
  ∀ c ∈ name.toList, c ≠ '*' ∧ c ≠ '?' ∧ c ≠ '[' ∧ c ≠ '\x7b'

/-- A name is plain if no sign of a glob is in it. -/
theorem isPlain_iff {name : String} : IsPlain name ↔ name.toList.any isGlobSign = false := by
  simp only [IsPlain, List.any_eq_false, isGlobSign, Bool.or_eq_true, beq_iff_eq, not_or, and_assoc]

/-- The names on the path of the folder are plain. -/
theorem isPlain_of_mem_folderOf (h : ∀ p ∈ plain, '/' ∉ p)
    (hplain : ∀ n ∈ plain, n.any isGlobSign = false) {n : String}
    (hn : n ∈ Files.names (folderOf plain)) : IsPlain n := by
  rw [isPlain_iff]
  by_cases hstays : Files.staysHere n = true
  · rcases Bool.or_eq_true_iff.1 hstays with hempty | hdot
    · rw [eq_of_beq hempty]
      rfl
    · rw [eq_of_beq hdot]
      rfl
  · have hmem : n ∈ (Files.names (folderOf plain)).filter (!Files.staysHere ·) :=
      List.mem_filter.2 ⟨hn, by simpa using hstays⟩
    rw [names_folderOf h] at hmem
    obtain ⟨p, hp, rfl⟩ := List.mem_map.1 (List.mem_filter.1 hmem).1
    rw [String.toList_ofList]
    exact hplain p hp

/-- A pattern, read with slashes for its backslashes, has no glob just if it has no glob sign, and
then it stands for itself. Otherwise the glob begins with a name that has one and the folder has no
such name, the folder begins at the root just if the pattern does, and the names of the folder and
those of the glob are the names of the pattern, but for empty names and dots in the folder. The glob
is the end of the pattern. -/
theorem split_lossless (pattern : String) :
    ((split pattern).2 = none ↔ IsPlain (forwardSlashes pattern)) ∧
    ((split pattern).2 = none → (split pattern).1 = forwardSlashes pattern) ∧
    ∀ folder glob, split pattern = (folder, some glob) →
      (∃ first, (Files.names glob).head? = some first ∧ ¬ IsPlain first) ∧
      (∀ name ∈ Files.names folder, IsPlain name) ∧
      Files.isAbsolute folder = Files.isAbsolute (forwardSlashes pattern) ∧
      (∃ before, Files.names (forwardSlashes pattern) = before ++ Files.names glob ∧
        (Files.names folder).filter (!Files.staysHere ·) =
          before.filter (!Files.staysHere ·)) ∧
      glob.toList <:+ (forwardSlashes pattern).toList := by
  have hnone : (split pattern).2 = none ↔ split pattern = (forwardSlashes pattern, none) := by
    constructor
    · intro h
      have hsplit : split pattern = ((split pattern).1, none) := Prod.ext rfl h
      exact hsplit.trans (congrArg (·, none) (split_eq_none.1 hsplit).1)
    · intro h
      rw [h]
  refine ⟨?_, fun h => congrArg Prod.fst (hnone.1 h), fun folder glob h => ?_⟩
  · rw [hnone, split_eq_none, isPlain_iff, any_forwardSlashes, and_iff_right rfl]
  · obtain ⟨plain, name, more, hcut, hplain, hname, rfl, rfl⟩ := exists_components h
    have hslash : ∀ p ∈ plain ++ name :: more, '/' ∉ p := fun p hp =>
      slash_not_mem_component (hcut ▸ hp)
    have hfolder : ∀ p ∈ plain, '/' ∉ p := fun p hp => hslash p (List.mem_append_left _ hp)
    have hglob : Files.names (joinNames (name :: more)) = (name :: more).map String.ofList :=
      names_joinNames (List.cons_ne_nil _ _) fun p hp => hslash p (List.mem_append_right _ hp)
    refine ⟨⟨String.ofList name, by rw [hglob]; rfl, ?_⟩,
      fun n => isPlain_of_mem_folderOf hfolder hplain, isAbsolute_folderOf hcut hname,
      ⟨plain.map String.ofList, ?_, names_folderOf hfolder⟩, ?_⟩
    · rw [isPlain_iff, String.toList_ofList, hname]
      exact nofun
    · rw [hglob, Files.names, ← components, hcut, List.map_append]
    · rw [joinNames, String.toList_ofList, ← joinWith_components, hcut]
      cases plain with
      | nil => exact List.suffix_rfl
      | cons p ps =>
        rw [Text.joinWith_append (List.cons_ne_nil p ps) (List.cons_ne_nil name more)]
        exact (List.suffix_cons ..).trans (List.suffix_append ..)

end

/-- Slashes that are written twice stay in the folder. -/
example : split "\\var//log/*.log" = ("/var//log", some "*.log") := by decide +kernel

end Provision.LogFiles
