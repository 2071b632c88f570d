import Provision.Proofs.Catalog.RecipeFiles
import Provision.Proofs.Lists
import Provision.Proofs.Text.Pieces

/-!
# Loading a catalog

Loading a catalog goes from visit to visit, looks for an interrupt at each, and stops at a folder
that cannot be opened. If neither stops it, it gathers the recipes of the files that hold one, and
warns of every other recipe file (`Catalog.readVisits_eq`). What the catalog answers depends on the
recipes that were gathered, and so on nothing but the files that hold them (`Catalog.load_files`).
-/

namespace Provision

open Files (Entry Visit Earlier)

/-! ## Looks that see no interrupt -/

namespace Machine

/-- So many looks of a machine see no interrupt. -/
def Quiet (looks : Nat) (m : Machine) : Prop :=
  ∀ quiet, m.interrupt.quiet = some quiet → looks ≤ quiet

/-- A look that sees no interrupt leaves one look less, and the files as they are. -/
theorem Quiet.check {n : Nat} {m : Machine} (h : m.Quiet (n + 1)) :
    ∃ m', Machine.check m = ⟨.ok (), [], m'⟩ ∧ m'.Quiet n := by
  have hquiet : m.interrupt.isTripped = false := by
    cases hq : m.interrupt.quiet with
    | none => simp [Interrupt.isTripped, hq]
    | some k =>
      have hk := h k hq
      simp only [Interrupt.isTripped, hq, Option.some.injEq, decide_eq_false_iff_not]
      omega
  refine ⟨{ m with interrupt := m.interrupt.next }, ?_, ?_⟩
  · simp [Machine.check, Interrupt.check, hquiet]
  · intro k hk
    obtain ⟨j, hj, rfl⟩ := Option.map_eq_some_iff.1 hk
    have := h j hj
    omega

end Machine

namespace Catalog

/-! ## Reading the visits -/

section
variable {root : String} {m : Machine} {v : Visit} {vs : List Visit} {rs : List Recipe}

/-- The warning of a recipe file that holds no recipe. -/
def warning (root : String) (p : Visit × Failure) : Output :=
  .message ⟨.warn, .catalog, skipping root p.1 p.2, []⟩

/-- A visit where nothing stops the reading: what is there is added to what comes after it. -/
theorem readVisits_cons {m' : Machine} (hcheck : Machine.check m = ⟨.ok (), [], m'⟩)
    (hopen : v.barrier? root = none) : readVisits root (v :: vs) m =
      ⟨(readVisits root vs m').value.map ((held? root v).toList ++ ·),
        ((fault? root v).toList.map fun e => warning root (v, e)) ++ (readVisits root vs m').log,
        (readVisits root vs m').world⟩ := by
  have hok : (Machine.check m).value = .ok () := by rw [hcheck]
  rw [readVisits, Work.bind_eq_of_ok hok, hcheck]
  simp only [hopen, List.nil_append, held?, fault?]
  cases hv : isRecipeFile v with
  | false =>
    simp only [Bool.not_false, Bool.false_eq_true, if_true, if_false, Option.toList_none,
      map_nil_append]
    rfl
  | true =>
    simp only [Bool.not_true, Bool.false_eq_true, if_false, if_true]
    cases hread : readRecipe root v with
    | error e =>
      simp only [Except.toOption, Option.toList_none, map_nil_append]
      rfl
    | ok r =>
      cases hrest : (readVisits root vs m').value with
      | error e =>
        simp only [Work.bind_eq_of_error hrest]
        rfl
      | ok rs =>
        simp only [Work.bind_eq_of_ok hrest, Work.pure_apply, List.append_nil]
        rfl

/-- Visits are read to the end if every folder can be opened and no interrupt is seen: the recipes
are gathered, and the faults are warned of. -/
theorem readVisits_eq (hopen : ∀ v ∈ vs, v.barrier? root = none) (hquiet : m.Quiet vs.length) :
    (readVisits root vs m).value = .ok ((gathered (held? root) vs).map Prod.snd) ∧
      (readVisits root vs m).log = (gathered (fault? root) vs).map (warning root) := by
  induction vs generalizing m with
  | nil => exact ⟨rfl, rfl⟩
  | cons v vs ih =>
    obtain ⟨hv, hvs⟩ := List.forall_mem_cons.1 hopen
    obtain ⟨m', hcheck, hquiet'⟩ := Machine.Quiet.check hquiet
    obtain ⟨hvalue, hlog⟩ := ih hvs hquiet'
    rw [readVisits_cons hcheck hv, hvalue, hlog, gathered_cons, gathered_cons]
    simp [Except.map, Function.comp_def]

/-- What is read in the end, if nothing stops the reading, are the recipes of the visits. -/
theorem eq_of_readVisits (h : (readVisits root vs m).value = .ok rs) :
    rs = (gathered (held? root) vs).map Prod.snd := by
  induction vs generalizing m rs with
  | nil =>
    cases h
    rfl
  | cons v vs ih =>
    cases hcheck : (Machine.check m).value with
    | error e =>
      rw [readVisits, Work.bind_eq_of_error hcheck] at h
      cases h
    | ok =>
      cases hv : v.barrier? root with
      | some p =>
        rw [readVisits, Work.bind_eq_of_ok hcheck] at h
        simp only [hv] at h
        cases hagain : (Machine.check (Machine.check m).world).value with
        | error e =>
          rw [Work.bind_eq_of_error hagain] at h
          cases h
        | ok =>
          rw [Work.bind_eq_of_ok hagain] at h
          cases h
      | none =>
        have hlog : Machine.check m = ⟨.ok (), [], (Machine.check m).world⟩ := by
          rw [← hcheck]
          rfl
        rw [readVisits_cons hlog hv] at h
        cases hrest : (readVisits root vs (Machine.check m).world).value with
        | error e =>
          rw [hrest] at h
          cases h
        | ok more =>
          rw [hrest] at h
          cases h
          rw [ih hrest, gathered_cons]
          simp [Function.comp_def]

end

/-! ## Loading -/

variable {c : Catalog} {m m' : Machine} {children children' : List (String × Entry)}
  {rs : List Recipe}

/-- A catalog whose folder can be walked: its path leads to it, the names in every folder below it
differ, every folder can be opened by its path and none is closed, and no interrupt is seen on the
way. -/
structure Walkable (c : Catalog) (m : Machine) (children : List (String × Entry)) : Prop where
  folder : m.disk.entry? c.root = some (.folder children)
  namesDiffer : (Entry.folder children).NamesDiffer
  opens : ∀ names below, (Entry.folder children).Leads names (.folder below) →
    (Files.Visit.path c.root ⟨names, .folder below⟩).utf8ByteSize ≤ Files.maxPath
  notClosed : ∀ names reason, ¬ (Entry.folder children).Leads names (.closedFolder reason)
  quiet : m.Quiet (m.disk.walk true none c.root).length

/-- No folder stops the walk over a catalog that can be walked. -/
theorem Walkable.barrier?_eq_none (h : c.Walkable m children) {v : Visit}
    (hv : v ∈ m.disk.walk true none c.root) : v.barrier? c.root = none := by
  obtain ⟨e, hleads, hentry⟩ := (Files.Disk.mem_walk_sorted h.folder).1 hv
  obtain ⟨names, entry⟩ := v
  cases entry with
  | file | link | closedFile => rfl
  | folder below' =>
    obtain ⟨below, rfl⟩ := Entry.exists_of_sorted_eq_folder hentry.symm
    exact if_pos (decide_eq_true (h.opens names below hleads))
  | closedFolder reason =>
    have he : e = .closedFolder reason := by
      cases e with
      | file | link | closedFile | closedFolder => exact hentry.symm
      | folder => rw [Entry.sorted] at hentry; cases hentry
    exact absurd (he ▸ hleads) (h.notClosed names reason)

/-- What is said when a catalog was loaded. -/
def loadedMessage (c : Catalog) (count : Nat) : Output :=
  .message ⟨.debug, .catalog, "Loaded recipe catalog",
    [("catalog", c.root), ("count", toString count)]⟩

/-- If the catalog is a folder, it is loaded by reading the visits to it. -/
theorem load_of_folder (h : m.disk.isFolder c.root = true) : c.load m =
    (readVisits c.root (m.disk.walk true none c.root) >>= fun recipes =>
      Work.tell (loadedMessage c recipes.length) >>= fun _ => pure (byName recipes)) m := by
  rw [load, Work.bind_eq_of_ok (a := m) rfl]
  simp only [Work.world, h, Bool.not_true, Bool.false_eq_true, if_false, List.nil_append]
  rfl

/-- A catalog that can be walked is loaded: all recipes that were found are there, and all files
that were skipped are warned of. -/
theorem Walkable.load_eq (h : c.Walkable m children) :
    (c.load m).value = .ok (byName ((found c m).map Prod.snd)) ∧
      (c.load m).log =
        (skipped c m).map (warning c.root) ++ [loadedMessage c (found c m).length] := by
  obtain ⟨hvalue, hlog⟩ := readVisits_eq (fun v hv => h.barrier?_eq_none hv) h.quiet
  have hfolder := Files.Disk.isFolder_iff.2 ⟨_, h.folder, rfl⟩
  rw [load_of_folder hfolder, Work.bind_eq_of_ok hvalue, hlog]
  refine ⟨rfl, ?_⟩
  rw [found, ← List.length_map (f := Prod.snd)]
  rfl

/-- A catalog that was loaded is a folder, and what was loaded is what was found. -/
theorem eq_of_load (h : (c.load m).value = .ok rs) :
    m.disk.isFolder c.root = true ∧ rs = byName ((found c m).map Prod.snd) := by
  cases hfolder : m.disk.isFolder c.root with
  | false =>
    rw [load, Work.bind_eq_of_ok (a := m) rfl] at h
    simp only [Work.world, hfolder, Bool.not_false, if_true] at h
    cases h
  | true =>
    rw [load_of_folder hfolder] at h
    cases hread : (readVisits c.root (m.disk.walk true none c.root) m).value with
    | error e =>
      rw [Work.bind_eq_of_error hread] at h
      cases h
    | ok recipes =>
      rw [Work.bind_eq_of_ok hread] at h
      cases h
      exact ⟨rfl, congrArg byName (eq_of_readVisits hread)⟩

/-! ## Answers -/

/-- A name is answered with the first of the loaded recipes that has it. -/
theorem find_eq_of_load (h : (c.load m).value = .ok rs) (name : String) :
    (c.find name m).value = .ok (rs.find? (·.isNamed name)) := by
  rw [find, Work.bind_eq_of_ok h]
  rfl

/-- Recommended are the loaded recipes that target the host and concern what runs there. -/
theorem recommend_eq_of_load (h : (c.load m).value = .ok rs) (host : Option Host) :
    (c.recommend host m).value = .ok (match host with
      | none => []
      | some h => rs.filter fun r => r.targetsHost h && r.concernsHost h) := by
  cases host with
  | none => rfl
  | some host =>
    rw [recommend]
    simp only [Work.bind_eq_of_ok h]
    rfl

/-- Catalogs that load the same recipes answer the same. -/
theorem answers_of_load {c' : Catalog} (h : (c.load m).value = .ok rs)
    (h' : (c'.load m').value = .ok rs) :
    (∀ name, ∃ answer, (c.find name m).value = .ok answer ∧
      (c'.find name m').value = .ok answer) ∧
    ∀ host, ∃ answer, (c.recommend host m).value = .ok answer ∧
      (c'.recommend host m').value = .ok answer :=
  ⟨fun name => ⟨_, find_eq_of_load h name, find_eq_of_load h' name⟩,
    fun host => ⟨_, recommend_eq_of_load h host, recommend_eq_of_load h' host⟩⟩

/-! ## Small catalogs -/

/-- A machine with nothing but a folder `catalog`. -/
def machineWith (children : List (String × Entry)) : Machine where
  disk := ⟨.folder [("catalog", .folder children)], []⟩
  environment := []
  home := none
  host := .unknown
  network _ := none
  interrupt := .never

/-- The path of the catalog with so many slashes at its end. -/
def slashed : Nat → String
  | 0 => "catalog"
  | n + 1 => slashed n ++ "/"

/-- Each slash makes the path of the catalog a byte longer. -/
theorem utf8ByteSize_slashed (n : Nat) : (slashed n).utf8ByteSize = 7 + n := by
  induction n with
  | zero => rfl
  | succ n ih =>
    rw [slashed, String.utf8ByteSize_append, ih]
    rfl

/-- The path of the catalog is its name and then the slashes. -/
theorem toList_slashed (n : Nat) :
    (slashed n).toList = "catalog".toList ++ List.replicate n '/' := by
  induction n with
  | zero => simp [slashed]
  | succ n ih =>
    rw [slashed, String.toList_append, ih, List.append_assoc, List.replicate_succ']
    rfl

/-- Slashes at the end cut off nothing but empty pieces. -/
theorem splitAt_slashes {p : List Char} (hp : '/' ∉ p) (n : Nat) :
    Text.splitAt '/' (p ++ List.replicate n '/') = p :: List.replicate n [] := by
  induction n generalizing p with
  | zero => rw [List.replicate_zero, List.append_nil, Text.splitAt_of_not_mem hp]; rfl
  | succ n ih =>
    rw [List.replicate_succ, Text.splitAt_append_cons hp, ← List.nil_append (List.replicate n '/'),
      ih List.not_mem_nil]
    rfl

/-- Slashes at the end of a path lead nowhere else, as long as the system takes the path. -/
theorem entry?_slashed {n : Nat} (hn : 7 + n ≤ Files.maxPath) :
    (machineWith children).disk.entry? (slashed n) = some (.folder children) := by
  have hnames : Files.names (slashed n) = "catalog" :: List.replicate n "" := by
    rw [Files.names, toList_slashed, splitAt_slashes (by decide), List.map_cons,
      List.map_replicate]
    rfl
  have hzero : '\x00' ∉ (slashed n).toList := by
    rw [toList_slashed, List.mem_append, List.mem_replicate]
    simp
  have hrelative : Files.isAbsolute (slashed n) = false := by
    rw [Files.isAbsolute, toList_slashed]
    rfl
  refine Files.Disk.entry?_eq_some.2 ⟨["catalog"], Files.Disk.resolve_eq_ok.2
    ⟨?_, hzero, by rwa [utf8ByteSize_slashed], ?_⟩⟩
  · intro hempty
    have hsize := utf8ByteSize_slashed n
    rw [hempty] at hsize
    simp at hsize
    omega
  · rw [hnames, Files.Disk.start, hrelative]
    have hbound : Files.Disk.bound = 172073 + 1 := rfl
    have hall : (List.replicate n "").all Files.staysHere = true :=
      List.all_eq_true.2 fun name hname => by rw [(List.mem_replicate.1 hname).2]; rfl
    rw [hbound, Files.resolveFrom, if_neg (by decide), if_neg (by decide), if_neg (by simp),
      if_neg (by decide)]
    refine (Files.resolveFrom_staysHere hall ?_).trans rfl
    have hmax : Files.maxPath = 4095 := rfl
    rw [List.length_replicate]
    omega

/-- After a slash a name is written as it is. -/
theorem path_slashed (n : Nat) {name : String} (hname : Files.isAbsolute name = false)
    (e : Entry) : Files.Visit.path (slashed (n + 1)) ⟨[name], e⟩ = slashed (n + 1) ++ name := by
  have hlast : (slashed (n + 1)).toList.getLast? = some '/' := by
    rw [slashed, String.toList_append, List.getLast?_append]
    rfl
  rw [Files.Visit.path, List.foldl_cons, List.foldl_nil, Files.join, hname, Bool.false_or, if_neg,
    if_pos hlast]
  intro hempty
  rw [of_decide_eq_true hempty] at hlast
  cases hlast

/-- The files of a catalog without folders in it. -/
theorem leads_file_iff (hfiles : ∀ child ∈ children, child.2.isFile = true)
    {v : Visit} (hv : v.entry.isFile = true) :
    (Entry.folder children).Leads v.names v.entry ↔
      ∃ child ∈ children, v = ⟨[child.1], child.2⟩ := by
  obtain ⟨names, entry⟩ := v
  constructor
  · intro h
    rcases Entry.leads_folder_iff.1 h with ⟨-, rfl⟩ | ⟨child, hchild, rest, rfl, hbelow⟩
    · cases hv
    · obtain ⟨rfl, rfl⟩ := hbelow.eq_of_isFile (hfiles child hchild)
      exact ⟨child, hchild, rfl⟩
  · rintro ⟨⟨name, e⟩, hchild, hvisit⟩
    cases hvisit
    exact .into hchild (.here _)

/-- What the files of a catalog without folders hold, if it is known of each of them. -/
theorem holds_iff_mem (root : String) (known : List (Visit × Recipe))
    (hfiles : ∀ child ∈ children, child.2.isFile = true)
    (hknown : ∀ p ∈ known, (∃ child ∈ children, p.1 = ⟨[child.1], child.2⟩) ∧ Holds root p.1 p.2)
    (hrest : ∀ child ∈ children, (∃ r, (⟨[child.1], child.2⟩, r) ∈ known) ∨
      ∀ r, ¬ Holds root ⟨[child.1], child.2⟩ r) (v : Visit) (r : Recipe) :
    (Entry.folder children).Leads v.names v.entry ∧ Holds root v r ↔ (v, r) ∈ known := by
  constructor
  · rintro ⟨hleads, hholds⟩
    obtain ⟨child, hchild, rfl⟩ := (leads_file_iff hfiles hholds.candidate.file).1 hleads
    rcases hrest child hchild with ⟨s, hs⟩ | hnone
    · rwa [hholds.unique (hknown _ hs).2]
    · exact absurd hholds (hnone r)
  · intro hmem
    obtain ⟨hchild, hholds⟩ := hknown (v, r) hmem
    exact ⟨(leads_file_iff hfiles hholds.candidate.file).2 hchild, hholds⟩

/-- If it is known which files hold a recipe, the catalog offers their recipes. -/
theorem offers_iff_of_held {known : List (Visit × Recipe)}
    (h : ∀ v r, (Entry.folder children).Leads v.names v.entry ∧ Holds c.root v r ↔
      (v, r) ∈ known) {r : Recipe} : c.Offers children r ↔ r ∈ known.map Prod.snd := by
  rw [Offers, exists_congr fun v => h v r]
  simp

/-- A catalog without folders in it is walked if the names of the files differ. -/
theorem walkable_files {n : Nat} (hn : 7 + n ≤ Files.maxPath)
    (hnames : (children.map Prod.fst).Nodup)
    (hfiles : ∀ child ∈ children, child.2.isFile = true) :
    (⟨slashed n⟩ : Catalog).Walkable (machineWith children) children where
  folder := entry?_slashed hn
  namesDiffer := by
    refine Entry.namesDiffer_folder.2 ⟨hnames, fun child hchild => ?_⟩
    exact Entry.namesDiffer_of_isFile (hfiles child hchild)
  opens names below hleads := by
    rcases Entry.leads_folder_iff.1 hleads with ⟨rfl, -⟩ | ⟨child, hchild, rest, -, hbelow⟩
    · rwa [← utf8ByteSize_slashed] at hn
    · obtain ⟨-, hentry⟩ := hbelow.eq_of_isFile (hfiles child hchild)
      have hfile := hfiles child hchild
      rw [← hentry] at hfile
      cases hfile
  notClosed names reason hleads := by
    rcases Entry.leads_folder_iff.1 hleads with ⟨-, ⟨⟩⟩ | ⟨child, hchild, rest, -, hbelow⟩
    obtain ⟨-, hentry⟩ := hbelow.eq_of_isFile (hfiles child hchild)
    have hfile := hfiles child hchild
    rw [← hentry] at hfile
    cases hfile
  quiet := nofun

/-- A draft with nothing but a name. -/
def nameOnly (name : String) : Draft := ⟨name, none, none, none, [], [], [], none, []⟩

/-- Why the system refuses to open a file that its owner has closed. -/
def refused : String := "Permission denied (os error 13)"

/-- A recipe file with nothing but a name. -/
def plainFile (name : String) : Entry := .file (Text.bytesOf ("name: " ++ name ++ "\n"))

/-- The recipe in such a file. -/
def plainRecipe (name : String) : Recipe := (nameOnly name).toRecipe []

/-- A file with nothing but a name holds a recipe, if its text decodes to that draft. -/
theorem valid_plainFile {name : String} (hdraft : (Draft.ofYaml unknownSource
    ("name: " ++ name ++ "\n")).toOption = some (nameOnly name))
    (hcheck : (nameOnly name).check = .ok (plainRecipe name)) :
    ∃ text draft, plainFile name = .file (Text.bytesOf text) ∧
      Draft.ofYaml unknownSource text = .ok draft ∧ draft.check = .ok (plainRecipe name) := by
  refine ⟨_, nameOnly name, rfl, ?_, hcheck⟩
  cases hyaml : Draft.ofYaml unknownSource ("name: " ++ name ++ "\n") with
  | error e => rw [hyaml] at hdraft; cases hdraft
  | ok draft => rw [hyaml] at hdraft; cases hdraft; rfl

/-- The file that names a recipe `a` holds it. -/
theorem valid_a : ∃ text draft, plainFile "a" = .file (Text.bytesOf text) ∧
    Draft.ofYaml unknownSource text = .ok draft ∧ draft.check = .ok (plainRecipe "a") :=
  valid_plainFile (by decide +kernel) rfl

/-- The file that names a recipe `b` holds it. -/
theorem valid_b : ∃ text draft, plainFile "b" = .file (Text.bytesOf text) ∧
    Draft.ofYaml unknownSource text = .ok draft ∧ draft.check = .ok (plainRecipe "b") :=
  valid_plainFile (by decide +kernel) rfl

/-- A file of which nothing is read holds no recipe. -/
theorem not_holds {root : String} {v : Visit} (h : (held? root v).isNone = true) (r : Recipe) :
    ¬ Holds root v r := by
  intro hr
  rw [held?_eq_some.2 hr] at h
  cases h

/-! ## What loading comes to -/

/-- Loading a catalog loses nothing and invents nothing. There is one recipe for each file of the
tree that holds one, and nothing else; they are sorted by name, in the order of its bytes, and those
of one name are in the order of the walk. There is one warning for each other recipe file, with its
path and what is wrong with it, in the order of the walk too. What the catalog answers depends on
the files that hold a recipe: it stays the same if anything else is added to the tree or removed. -/
theorem load_files (h : c.Walkable m children) :
    ∃ (valid : List (Visit × Recipe)) (invalid : List (Visit × Failure)) (rs : List Recipe),
      (valid.Pairwise fun p q => Earlier p.1.names q.1.names) ∧
      (∀ v r, (v, r) ∈ valid ↔
        (Entry.folder children).Leads v.names v.entry ∧ Holds c.root v r) ∧
      (invalid.Pairwise fun p q => Earlier p.1.names q.1.names) ∧
      (∀ v, (∃ e, (v, e) ∈ invalid) ↔
        (Entry.folder children).Leads v.names v.entry ∧ Candidate v ∧ ∀ r, ¬ Holds c.root v r) ∧
      (∀ v e, (v, e) ∈ invalid → readRecipe c.root v = .error e) ∧
      (c.load m).value = .ok rs ∧ rs.Perm (valid.map Prod.snd) ∧
      (rs.Pairwise fun r s =>
        ¬ List.Lex (· < ·) (Text.bytesOf s.name) (Text.bytesOf r.name)) ∧
      (∀ name, (rs.filter fun r => r.name = name) =
        (valid.map Prod.snd).filter fun r => r.name = name) ∧
      (c.load m).log = (invalid.map fun p => .message ⟨.warn, .catalog,
          "Skipping invalid recipe file " ++ p.1.path c.root ++ ": " ++ p.2.message, []⟩) ++
        [.message ⟨.debug, .catalog, "Loaded recipe catalog",
          [("catalog", c.root), ("count", toString rs.length)]⟩] ∧
      ∀ m' children', c.Walkable m' children' →
        (∀ v r, Holds c.root v r → ((Entry.folder children').Leads v.names v.entry ↔
          (Entry.folder children).Leads v.names v.entry)) →
        (∀ name, ∃ answer, (c.find name m).value = .ok answer ∧
          (c.find name m').value = .ok answer) ∧
        ∀ host, ∃ answer, (c.recommend host m).value = .ok answer ∧
          (c.recommend host m').value = .ok answer := by
  obtain ⟨hvalue, hlog⟩ := h.load_eq
  have hlength : (byName ((found c m).map Prod.snd)).length = (found c m).length := by
    rw [byName, List.length_mergeSort, List.length_map]
  refine ⟨found c m, skipped c m, _, pairwise_found h.folder h.namesDiffer,
    fun _ _ => mem_found_iff h.folder, pairwise_skipped h.folder h.namesDiffer,
    fun _ => mem_skipped_iff h.folder, fun v e he => ?_, hvalue, List.mergeSort_perm _ _, ?_, ?_,
    ?_, ?_⟩
  · exact (fault?_eq_some.1 (mem_gathered.1 he).2).2
  · refine (Text.pairwise_le_mergeSort Recipe.name _).imp fun hle hlt => ?_
    exact String.not_lt.2 hle (Text.bytesOf_lt_iff.1 hlt)
  · exact Text.filter_mergeSort Recipe.name _
  · rw [hlog, hlength]
    rfl
  · intro m' children' h' hsame
    have hfound := found_congr h.folder h.namesDiffer h'.folder h'.namesDiffer hsame
    have hvalue' := h'.load_eq.1
    rw [hfound] at hvalue'
    exact answers_of_load hvalue hvalue'

/-- A broken recipe file and one that the system refuses to open are warned of, and neither they nor
a file of another kind make a difference to what is found. -/
theorem load_files_added :
    let c : Catalog := ⟨slashed 0⟩
    let few := [("a.yml", plainFile "a")]
    let more := few ++ [("b.yaml", Entry.file [0xFF]), ("c.yml", Entry.closedFile refused),
      ("notes.txt", Entry.file [])]
    c.Walkable (machineWith more) more ∧ c.Walkable (machineWith few) few ∧
      (∃ rs, (c.load (machineWith more)).value = .ok rs ∧ plainRecipe "a" ∈ rs) ∧
      (∃ reason, .message ⟨.warn, .catalog,
        "Skipping invalid recipe file " ++ "catalog/b.yaml" ++ ": " ++ reason, []⟩ ∈
          (c.load (machineWith more)).log) ∧
      .message ⟨.warn, .catalog,
        "Skipping invalid recipe file " ++ "catalog/c.yml" ++ ": " ++ (Failure.io refused).message,
        []⟩ ∈ (c.load (machineWith more)).log ∧
      ∀ name, ∃ answer, (c.find name (machineWith more)).value = .ok answer ∧
        (c.find name (machineWith few)).value = .ok answer := by
  intro c few more
  have hfew : ∀ child ∈ few, child.2.isFile = true := by simp [few, plainFile, Entry.isFile]
  have hmore : ∀ child ∈ more, child.2.isFile = true := by
    simp [few, more, plainFile, Entry.isFile]
  have hwalkFew : c.Walkable (machineWith few) few := walkable_files (by decide) (by decide) hfew
  have hwalkMore : c.Walkable (machineWith more) more :=
    walkable_files (by decide) (by decide) hmore
  have hbroken : ∀ r, ¬ Holds "catalog" ⟨["b.yaml"], .file [0xFF]⟩ r :=
    not_holds (by decide +kernel)
  have hclosed : ∀ r, ¬ Holds "catalog" ⟨["c.yml"], .closedFile refused⟩ r :=
    not_holds (by decide +kernel)
  have hnotes : ∀ r, ¬ Holds "catalog" ⟨["notes.txt"], .file []⟩ r :=
    not_holds (by decide +kernel)
  obtain ⟨valid, invalid, rs, -, hvalid, -, hinvalid, hfault, hvalue, hperm, -, -, hlog, hsame⟩ :=
    load_files hwalkMore
  refine ⟨hwalkMore, hwalkFew, ⟨rs, hvalue, ?_⟩, ?_, ?_, (hsame _ few hwalkFew ?_).1⟩
  · have hmem := (hvalid ⟨["a.yml"], plainFile "a"⟩ (plainRecipe "a")).2
      ⟨.into (.head _) (.here _), isRecipeFile_iff.1 rfl, by decide +kernel, valid_a⟩
    exact hperm.mem_iff.2 (List.mem_map_of_mem hmem)
  · obtain ⟨e, he⟩ := (hinvalid ⟨["b.yaml"], .file [0xFF]⟩).2 ⟨.into (.tail _ (.head _)) (.here _),
      isRecipeFile_iff.1 rfl, hbroken⟩
    have hpath : Files.Visit.path c.root ⟨["b.yaml"], .file [0xFF]⟩ = "catalog/b.yaml" := by
      decide +kernel
    refine ⟨e.message, ?_⟩
    rw [hlog, ← hpath]
    exact List.mem_append_left _ (List.mem_map.2 ⟨_, he, rfl⟩)
  · obtain ⟨e, he⟩ := (hinvalid ⟨["c.yml"], .closedFile refused⟩).2
      ⟨.into (.tail _ (.tail _ (.head _))) (.here _), isRecipeFile_iff.1 rfl, hclosed⟩
    have hpath : Files.Visit.path c.root ⟨["c.yml"], .closedFile refused⟩ = "catalog/c.yml" := by
      decide +kernel
    have hreason : readRecipe c.root ⟨["c.yml"], .closedFile refused⟩ = .error (.io refused) := by
      rw [readRecipe, Files.Visit.readText, if_pos (by decide +kernel)]
      rfl
    obtain rfl : e = .io refused := Except.error.inj ((hfault _ _ he).symm.trans hreason)
    rw [hlog, ← hpath]
    exact List.mem_append_left _ (List.mem_map.2 ⟨_, he, rfl⟩)
  · intro v r hr
    rw [leads_file_iff hfew hr.candidate.file, leads_file_iff hmore hr.candidate.file]
    constructor
    · rintro ⟨child, hchild, hv⟩
      exact ⟨child, List.mem_append_left _ hchild, hv⟩
    · rintro ⟨child, hchild, rfl⟩
      rcases List.mem_append.1 hchild with hchild | hchild
      · exact ⟨child, hchild, rfl⟩
      · simp only [List.mem_cons, List.not_mem_nil, or_false] at hchild
        rcases hchild with rfl | rfl | rfl
        · exact absurd hr (hbroken r)
        · exact absurd hr (hclosed r)
        · exact absurd hr (hnotes r)

/-- A recipe file whose path is a byte too long for it to be opened is skipped, although there is
nothing wrong with its content, and the tree can be walked. -/
theorem load_files_too_long :
    let c : Catalog := ⟨slashed 4084⟩
    let children := [("a.yml", plainFile "a")]
    let v : Visit := ⟨["a.yml"], plainFile "a"⟩
    c.Walkable (machineWith children) children ∧
      (Entry.folder children).Leads v.names v.entry ∧ Candidate v ∧
      (∃ text draft r, v.entry = .file (Text.bytesOf text) ∧
        Draft.ofYaml unknownSource text = .ok draft ∧ draft.check = .ok r) ∧
      (c.load (machineWith children)).value = .ok [] := by
  intro c children v
  have hfiles : ∀ child ∈ children, child.2.isFile = true := by
    simp [children, plainFile, Entry.isFile]
  have hwalk : c.Walkable (machineWith children) children :=
    walkable_files (by decide) (by decide) hfiles
  have hleads : (Entry.folder children).Leads v.names v.entry := .into (.head _) (.here _)
  refine ⟨hwalk, hleads, isRecipeFile_iff.1 rfl, ?_, ?_⟩
  · obtain ⟨text, draft, hvalid⟩ := valid_a
    exact ⟨text, draft, _, hvalid⟩
  have hfound : found c (machineWith children) = [] := by
    refine List.eq_nil_iff_forall_not_mem.2 fun (w, r) hmem => ?_
    obtain ⟨hw, hr⟩ := (mem_found_iff hwalk.folder).1 hmem
    obtain ⟨child, hchild, rfl⟩ := (leads_file_iff hfiles hr.candidate.file).1 hw
    have hopens := hr.opens
    rw [List.mem_singleton.1 hchild, path_slashed 4083 rfl, String.utf8ByteSize_append,
      utf8ByteSize_slashed] at hopens
    exact absurd hopens (by decide)
  rw [hwalk.load_eq.1, hfound, List.map_nil, byName, List.mergeSort_nil]

end Catalog

end Provision
