import Provision.Catalog
import Provision.Proofs.Files.WalkOrder

/-!
# Recipe files

What makes a file of a catalog one that holds a recipe: its name has the ending of a recipe file
(`Catalog.Candidate`), the system lets it be read, for which its path must not be too long, and its
content is a text that decodes to a draft without faults (`Catalog.Holds`). The recipes that a walk
finds are those that the files of the tree hold (`Catalog.mem_found_iff`), one for each such file,
in the order of the walk; they do not depend on anything else in the tree (`Catalog.found_congr`).
The other recipe files are skipped (`Catalog.mem_skipped_iff`).
-/

namespace Provision

open Files (Entry Visit Earlier)

/-! ## Endings of file names -/

namespace Files

/-- A text is cut at its last dot. -/
theorem takeWhile_dropWhile_dot {cs stem ext : List Char} (hext : '.' ∉ ext)
    (h : cs = ext ++ '.' :: stem) :
    cs.takeWhile (· != '.') = ext ∧ cs.dropWhile (· != '.') = '.' :: stem := by
  have hpos : ∀ c ∈ ext, (c != '.') = true := fun c hc => by
    rw [bne_iff_ne]
    rintro rfl
    exact hext hc
  rw [h, List.takeWhile_append_of_pos hpos, List.dropWhile_append_of_pos hpos]
  simp

/-- The extension of a file name is what comes after its last dot, if something is before it. -/
theorem extension?_eq_some {name ext : String} : extension? name = some ext ↔
    name ≠ ".." ∧ '.' ∉ ext.toList ∧ ∃ stem ≠ [], name.toList = stem ++ '.' :: ext.toList := by
  have hdots : name.toList.reverse = ['.', '.'] ↔ name = ".." := by
    rw [List.reverse_eq_iff, ← String.toList_inj]
    rfl
  constructor
  · intro h
    simp only [extension?] at h
    split at h
    · cases h
    next hcond =>
    cases h
    obtain ⟨hstem, hne⟩ := not_or.1 (mt Bool.or_eq_true_iff.2 hcond)
    have hcut := List.takeWhile_append_dropWhile (p := (· != '.')) (l := name.toList.reverse)
    have hhead := List.head?_dropWhile_not (· != '.') name.toList.reverse
    cases hdrop : name.toList.reverse.dropWhile (· != '.') with
    | nil => simp [hdrop] at hstem
    | cons c stem =>
      rw [hdrop] at hcut hstem hhead
      have hc : c = '.' := by simpa using hhead
      subst hc
      refine ⟨mt hdots.2 (by simpa using hne), ?_, stem.reverse, by simpa using hstem, ?_⟩
      · intro hmem
        have hmem : '.' ∈ name.toList.reverse.takeWhile (· != '.') := by simpa using hmem
        simpa using List.all_eq_true.1 List.all_takeWhile '.' hmem
      · have hname := congrArg List.reverse hcut
        simpa using hname.symm
  · rintro ⟨hne, hext, stem, hstem, hname⟩
    have hcut : name.toList.reverse = ext.toList.reverse ++ '.' :: stem.reverse := by simp [hname]
    obtain ⟨htake, hdrop⟩ := takeWhile_dropWhile_dot (by simpa using hext) hcut
    simp only [extension?, htake, hdrop, List.drop_one, List.tail_cons]
    rw [if_neg (by simp [hstem, hdots, hne]), List.reverse_reverse, String.ofList_toList]

/-- A file name has one of some extensions if its own is one of them up to case. -/
theorem hasExtension_iff {extensions : List String} {name : String} :
    hasExtension extensions name = true ↔
      ∃ ext, extension? name = some ext ∧ ∃ e ∈ extensions, Text.sameLetters ext e = true := by
  simp [hasExtension, Option.any_eq_true]

end Files

namespace Catalog

/-! ## Candidates -/

/-- The name of a recipe file: something, a dot, and one of the endings in any case of the ASCII
letters. -/
def IsRecipeName (name : String) : Prop :=
  ∃ stem ext, stem ≠ "" ∧ name = stem ++ "." ++ ext ∧
    (Text.sameLetters ext "yml" = true ∨ Text.sameLetters ext "yaml" = true)

/-- An ending has no dot, and more letters than `..` has dots. -/
theorem ending_plain {ext : String}
    (h : Text.sameLetters ext "yml" = true ∨ Text.sameLetters ext "yaml" = true) :
    '.' ∉ ext.toList ∧ 3 ≤ ext.toList.length := by
  have hlowered : Text.lowered ext = ['y', 'm', 'l'] ∨ Text.lowered ext = ['y', 'a', 'm', 'l'] :=
    h.imp Text.sameLetters_iff.1 Text.sameLetters_iff.1
  constructor
  · intro hdot
    have hmem : '.'.toLower ∈ Text.lowered ext := List.mem_map_of_mem hdot
    rcases hlowered with h | h <;> rw [h] at hmem <;> revert hmem <;> decide
  · have hlength : (Text.lowered ext).length = ext.toList.length := List.length_map ..
    rcases hlowered with h | h <;> rw [h] at hlength <;> simp at hlength <;> omega

/-- The endings of recipe files are found on the names of recipe files, and only there. -/
theorem hasExtension_iff_isRecipeName {name : String} :
    Files.hasExtension extensions name = true ↔ IsRecipeName name := by
  have hendings (ext : String) : (∃ e ∈ extensions, Text.sameLetters ext e = true) ↔
      Text.sameLetters ext "yml" = true ∨ Text.sameLetters ext "yaml" = true := by
    simp [extensions]
  simp only [Files.hasExtension_iff, Files.extension?_eq_some, hendings]
  constructor
  · rintro ⟨ext, ⟨-, -, stem, hstem, hname⟩, hext⟩
    refine ⟨String.ofList stem, ext, ?_, ?_, hext⟩
    · rwa [Ne, ← String.toList_inj, String.toList_ofList]
    · rw [← String.toList_inj, hname]
      simp
  · rintro ⟨stem, ext, hstem, rfl, hext⟩
    obtain ⟨hdot, hlength⟩ := ending_plain hext
    refine ⟨ext, ⟨?_, hdot, stem.toList, ?_, by simp⟩, hext⟩
    · intro hdots
      have := congrArg (fun s => s.toList.length) hdots
      simp at this
      omega
    · rwa [Ne, String.toList_eq_nil_iff]

/-- A visit to a file with the name of a recipe file. -/
structure Candidate (v : Visit) : Prop where
  file : v.entry.isFile = true
  name : ∃ name, v.names.getLast? = some name ∧ IsRecipeName name

/-- Those visits are taken for visits to recipe files. -/
theorem isRecipeFile_iff {v : Visit} : isRecipeFile v = true ↔ Candidate v := by
  rw [isRecipeFile, Bool.and_eq_true, Option.any_eq_true]
  simp only [hasExtension_iff_isRecipeName]
  exact ⟨fun h => ⟨h.1, h.2⟩, fun h => ⟨h.file, h.name⟩⟩

/-! ## Files that hold a recipe -/

/-- A file holds a recipe: it has the name of a recipe file, its path is short enough for it to be
opened, it is not closed, and its content is a text that decodes to a draft without faults, which
gives the recipe. -/
structure Holds (root : String) (v : Visit) (r : Recipe) : Prop where
  candidate : Candidate v
  opens : (v.path root).utf8ByteSize ≤ Files.maxPath
  valid : ∃ text draft, v.entry = .file (Text.bytesOf text) ∧
    Draft.ofYaml unknownSource text = .ok draft ∧ draft.check = .ok r

/-- The recipe that a visited entry holds. -/
def held? (root : String) (v : Visit) : Option Recipe :=
  if isRecipeFile v then (readRecipe root v).toOption else none

/-- A text is read from a visited entry if this is a file that can be opened and holds the text. -/
theorem readText_eq_ok {root text : String} {v : Visit} : v.readText root = .ok text ↔
    (v.path root).utf8ByteSize ≤ Files.maxPath ∧ v.entry = .file (Text.bytesOf text) := by
  rw [Files.Visit.readText, Files.Visit.opens]
  by_cases hopens : (v.path root).utf8ByteSize ≤ Files.maxPath
  · rw [if_pos (decide_eq_true hopens), and_iff_right hopens]
    cases v.entry with
    | file content =>
      rw [Entry.file.injEq]
      exact Files.textOf_eq_ok
    | link | folder | closedFile | closedFolder => exact iff_of_false nofun nofun
  · rw [if_neg (by simpa using hopens)]
    exact iff_of_false nofun fun h => hopens h.1

/-- A recipe is read from a file that can be opened and whose content is a text of a draft without
faults. -/
theorem readRecipe_eq_ok {root : String} {v : Visit} {r : Recipe} : readRecipe root v = .ok r ↔
    (v.path root).utf8ByteSize ≤ Files.maxPath ∧ ∃ text draft,
      v.entry = .file (Text.bytesOf text) ∧ Draft.ofYaml unknownSource text = .ok draft ∧
      draft.check = .ok r := by
  have hread : readRecipe root v = .ok r ↔ ∃ text draft, v.readText root = .ok text ∧
      Draft.ofYaml unknownSource text = .ok draft ∧ draft.check = .ok r := by
    rw [readRecipe]
    cases v.readText root with
    | error p => simp
    | ok text =>
      cases hdraft : Draft.ofYaml unknownSource text <;> simp [hdraft, Except.bind]
  simp only [hread, readText_eq_ok, and_assoc, exists_and_left]

/-- A file holds a recipe if it is the one that is read from it. -/
theorem held?_eq_some {root : String} {v : Visit} {r : Recipe} :
    held? root v = some r ↔ Holds root v r := by
  unfold held?
  constructor
  · intro h
    split at h
    · next hcandidate =>
      cases hread : readRecipe root v with
      | error e => rw [hread] at h; cases h
      | ok s =>
        rw [hread] at h
        cases h
        obtain ⟨hopens, hvalid⟩ := readRecipe_eq_ok.1 hread
        exact ⟨isRecipeFile_iff.1 hcandidate, hopens, hvalid⟩
    · cases h
  · intro h
    rw [if_pos (isRecipeFile_iff.2 h.candidate), readRecipe_eq_ok.2 ⟨h.opens, h.valid⟩]
    rfl

/-- A file holds at most one recipe. -/
theorem Holds.unique {root : String} {v : Visit} {r s : Recipe} (hr : Holds root v r)
    (hs : Holds root v s) : r = s :=
  Option.some.inj ((held?_eq_some.2 hr).symm.trans (held?_eq_some.2 hs))

/-- Why a visited recipe file holds no recipe. -/
def fault? (root : String) (v : Visit) : Option Failure :=
  if isRecipeFile v then
    match readRecipe root v with
    | .ok _ => none
    | .error e => some e
  else none

/-- A recipe file has a fault if reading it fails with that. -/
theorem fault?_eq_some {root : String} {v : Visit} {e : Failure} :
    fault? root v = some e ↔ Candidate v ∧ readRecipe root v = .error e := by
  rw [fault?, ← isRecipeFile_iff]
  cases isRecipeFile v <;> cases readRecipe root v <;> simp

/-- Every recipe file either holds a recipe or has a fault. -/
theorem exists_fault?_iff {root : String} {v : Visit} :
    (∃ e, fault? root v = some e) ↔ Candidate v ∧ ∀ r, ¬ Holds root v r := by
  simp only [fault?_eq_some, exists_and_left, ← held?_eq_some]
  refine and_congr_right fun hv => ?_
  rw [held?, if_pos (isRecipeFile_iff.2 hv)]
  cases readRecipe root v <;> simp [Except.toOption]

/-! ## What a walk gathers -/

section
variable {α : Type} {f : Visit → Option α} {visits : List Visit}

/-- What visited entries have to offer, with the visits. -/
def gathered (f : Visit → Option α) (visits : List Visit) : List (Visit × α) :=
  visits.filterMap fun v => (f v).map (v, ·)

/-- What the first visit offers comes before what the others offer. -/
theorem gathered_cons (v : Visit) : gathered f (v :: visits) =
    (f v).toList.map (v, ·) ++ gathered f visits := by
  rw [gathered, gathered, List.filterMap_cons]
  cases f v <;> rfl

/-- Gathered is what the visits offer, each with its visit. -/
theorem mem_gathered {v : Visit} {a : α} :
    (v, a) ∈ gathered f visits ↔ v ∈ visits ∧ f v = some a := by
  simp only [gathered, List.mem_filterMap, Option.map_eq_some_iff, Prod.mk.injEq]
  constructor
  · rintro ⟨w, hw, b, hb, rfl, rfl⟩
    exact ⟨hw, hb⟩
  · rintro ⟨hv, ha⟩
    exact ⟨v, hv, a, ha, rfl, rfl⟩

/-- What is gathered is in the order of the visits. -/
theorem pairwise_gathered (h : visits.Pairwise fun v w => Earlier v.names w.names) :
    (gathered f visits).Pairwise fun p q => Earlier p.1.names q.1.names := by
  refine List.pairwise_filterMap.2 (h.imp fun hvw p hp q hq => ?_)
  obtain ⟨a, -, rfl⟩ := Option.map_eq_some_iff.1 hp
  obtain ⟨b, -, rfl⟩ := Option.map_eq_some_iff.1 hq
  exact hvw

end

/-- The files of a catalog that hold a recipe, with the recipes, in the order of the walk. -/
def found (c : Catalog) (m : Machine) : List (Visit × Recipe) :=
  gathered (held? c.root) (m.disk.walk true none c.root)

/-- The other recipe files of a catalog, with what is wrong with them, in the order of the walk. -/
def skipped (c : Catalog) (m : Machine) : List (Visit × Failure) :=
  gathered (fault? c.root) (m.disk.walk true none c.root)

section
variable {c : Catalog} {m m' : Machine} {children children' : List (String × Entry)}

/-- What is found are the recipes that files of the tree hold. -/
theorem mem_found_iff (h : m.disk.entry? c.root = some (.folder children)) {v : Visit}
    {r : Recipe} : (v, r) ∈ found c m ↔
      (Entry.folder children).Leads v.names v.entry ∧ Holds c.root v r := by
  rw [found, mem_gathered, held?_eq_some]
  exact and_congr_left fun hr => Files.Disk.mem_walk_sorted_file h hr.candidate.file

/-- What is skipped are the recipe files of the tree that hold no recipe. -/
theorem mem_skipped_iff (h : m.disk.entry? c.root = some (.folder children)) {v : Visit} :
    (∃ e, (v, e) ∈ skipped c m) ↔ (Entry.folder children).Leads v.names v.entry ∧
      Candidate v ∧ ∀ r, ¬ Holds c.root v r := by
  simp only [skipped, mem_gathered, exists_and_left, exists_fault?_iff]
  exact and_congr_left fun hv => Files.Disk.mem_walk_sorted_file h hv.1.file

/-- The recipes are found in the order of the walk. -/
theorem pairwise_found (h : m.disk.entry? c.root = some (.folder children))
    (hnames : (Entry.folder children).NamesDiffer) :
    (found c m).Pairwise fun p q => Earlier p.1.names q.1.names :=
  pairwise_gathered (Files.Disk.pairwise_walk_sorted h hnames)

/-- The other recipe files are skipped in the order of the walk. -/
theorem pairwise_skipped (h : m.disk.entry? c.root = some (.folder children))
    (hnames : (Entry.folder children).NamesDiffer) :
    (skipped c m).Pairwise fun p q => Earlier p.1.names q.1.names :=
  pairwise_gathered (Files.Disk.pairwise_walk_sorted h hnames)

/-- A recipe that some file of a catalog holds. -/
def Offers (c : Catalog) (children : List (String × Entry)) (r : Recipe) : Prop :=
  ∃ v : Visit, (Entry.folder children).Leads v.names v.entry ∧ Holds c.root v r

/-- The recipes that are found are those that the catalog offers. -/
theorem mem_recipes_iff (h : m.disk.entry? c.root = some (.folder children)) {r : Recipe} :
    r ∈ (found c m).map Prod.snd ↔ c.Offers children r := by
  simp only [List.mem_map, Prod.exists, exists_eq_right, mem_found_iff h]
  rfl

/-- Nothing but the files that hold a recipe makes a difference to what is found. -/
theorem found_congr (h : m.disk.entry? c.root = some (.folder children))
    (hnames : (Entry.folder children).NamesDiffer)
    (h' : m'.disk.entry? c.root = some (.folder children'))
    (hnames' : (Entry.folder children').NamesDiffer)
    (hsame : ∀ v r, Holds c.root v r → ((Entry.folder children').Leads v.names v.entry ↔
      (Entry.folder children).Leads v.names v.entry)) : found c m' = found c m := by
  refine Text.eq_of_pairwise (fun _ _ => Earlier.asymm) (pairwise_found h' hnames')
    (pairwise_found h hnames) ?_
  rintro ⟨v, r⟩
  rw [mem_found_iff h, mem_found_iff h']
  exact and_congr_left fun hr => hsame v r hr

end

end Catalog

end Provision
