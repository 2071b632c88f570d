import Provision.Proofs.Files.Visits
import Provision.Proofs.Text.Order

/-!
# The order of a sorted walk

A sorted walk visits the same places as any other one (`Entry.leads_sorted_iff`): sorting changes
the order in a folder, and nothing else. If no folder has two children of one name, the names that
lead to the visits rise from visit to visit (`Disk.pairwise_walk_sorted`). So the walk depends on
the places only, and not on how the folders list their children.
-/

namespace Provision.Files

/-! ## Earlier names -/

/-- Names lead to an earlier visit than others: a folder is visited before what is below it, and
the children of a folder are visited in the order of their names, which is that of the bytes of the
names (`Text.bytesOf_lt_iff`). -/
def Earlier (ns ms : List String) : Prop := List.Lex (· < ·) ns ms

namespace Earlier

variable {ns ms : List String}

/-- Of two visits at most one is earlier than the other. -/
theorem asymm (h : Earlier ns ms) : ¬ Earlier ms ns := List.lex_asymm String.lt_asymm h

/-- No visit is earlier than itself. -/
theorem irrefl (ns : List String) : ¬ Earlier ns ns := fun h => h.asymm h

/-- The order does not depend on where the walk begins. -/
theorem append_left (before : List String) (h : Earlier ns ms) :
    Earlier (before ++ ns) (before ++ ms) :=
  List.lex_lt.2 (List.append_left_lt (List.lex_lt.1 h))

/-- A folder is earlier than what is below it. -/
theorem below (before : List String) (name : String) (ns : List String) :
    Earlier before (before ++ name :: ns) := by
  have h : Earlier (before ++ []) (before ++ name :: ns) := append_left before .nil
  rwa [List.append_nil] at h

/-- What is below a child is earlier than what is below a later one. -/
theorem siblings {name name' : String} (h : name < name') (before ns ms : List String) :
    Earlier (before ++ name :: ns) (before ++ name' :: ms) :=
  append_left before (.rel h)

end Earlier

namespace Entry

/-! ## Trees with different names -/

/-- No folder has two children of one name. The operations on trees keep this
(`NamesDiffer.put`, `NamesDiffer.erase`). -/
def NamesDiffer (e : Entry) : Prop :=
  ∀ names children, e.Leads names (folder children) → (children.map Prod.fst).Nodup

/-- The children of every folder are listed in the order of their names. -/
def Rising (e : Entry) : Prop :=
  ∀ names children, e.Leads names (folder children) →
    (children.map Prod.fst).Pairwise (· < ·)

/-- Names lead from a folder to itself, or on from one of its children. -/
theorem leads_folder_iff {children : List (String × Entry)} {names : List String} {e : Entry} :
    (folder children).Leads names e ↔ names = [] ∧ e = folder children ∨
      ∃ c ∈ children, ∃ rest, names = c.1 :: rest ∧ c.2.Leads rest e := by
  constructor
  · intro h
    cases h with
    | here => exact .inl ⟨rfl, rfl⟩
    | into hc h => exact .inr ⟨_, hc, _, rfl, h⟩
  · rintro (⟨rfl, rfl⟩ | ⟨⟨name, c⟩, hc, rest, rfl, h⟩)
    · exact .here _
    · exact .into hc h

/-- Names differ in a folder if they differ among its children and below each of them. -/
theorem namesDiffer_folder {children : List (String × Entry)} :
    (folder children).NamesDiffer ↔
      (children.map Prod.fst).Nodup ∧ ∀ c ∈ children, c.2.NamesDiffer := by
  constructor
  · intro h
    refine ⟨h [] children (.here _), fun (name, c) hc names grandchildren hleads => ?_⟩
    exact h (name :: names) grandchildren (.into hc hleads)
  · rintro ⟨hnodup, hbelow⟩ names grandchildren hleads
    rcases leads_folder_iff.1 hleads with ⟨-, h⟩ | ⟨c, hc, rest, -, h⟩
    · cases h
      exact hnodup
    · exact hbelow c hc rest grandchildren h

/-- There is nothing below a file. -/
theorem Leads.eq_of_isFile {e f : Entry} {names : List String} (h : e.Leads names f)
    (hfile : e.isFile = true) : names = [] ∧ f = e := by
  cases h with
  | here => exact ⟨rfl, rfl⟩
  | into => cases hfile

/-- In a file there are no names. -/
theorem namesDiffer_of_isFile {e : Entry} (h : e.isFile = true) : e.NamesDiffer := by
  intro names children hleads
  obtain ⟨-, rfl⟩ := hleads.eq_of_isFile h
  cases h

/-- If names differ in a tree, they do below every child. -/
theorem NamesDiffer.child? {e c : Entry} {name : String} (h : e.NamesDiffer)
    (hc : e.child? name = some c) : c.NamesDiffer := by
  cases e with
  | folder children => exact (namesDiffer_folder.1 h).2 (name, c) (mem_of_child? hc)
  | file | link | closedFile | closedFolder => cases hc

/-- The children of a folder into which one was put are that one and some that were there. -/
theorem mem_putChild {name : String} {e : Entry} {children : List (String × Entry)}
    {c : String × Entry} (h : c ∈ putChild name e children) : c = (name, e) ∨ c ∈ children := by
  induction children with
  | nil => exact .inl (List.mem_singleton.1 h)
  | cons d children ih =>
    rw [putChild] at h
    split at h
    · exact (List.mem_cons.1 h).imp_right (.tail _)
    · rcases List.mem_cons.1 h with rfl | h
      · exact .inr (.head _)
      · exact (ih h).imp_right (.tail _)

/-- A child takes the place of the one of its name. -/
theorem NamesDiffer.putChild {name : String} {e : Entry} {children : List (String × Entry)}
    (h : (folder children).NamesDiffer) (he : e.NamesDiffer) :
    (folder (putChild name e children)).NamesDiffer := by
  obtain ⟨hnodup, hbelow⟩ := namesDiffer_folder.1 h
  refine namesDiffer_folder.2 ⟨?_, fun c hc => ?_⟩
  · clear h hbelow
    induction children with
    | nil => exact List.nodup_cons.2 ⟨List.not_mem_nil, List.nodup_nil⟩
    | cons d children ih =>
      obtain ⟨hd, hnodup⟩ := List.nodup_cons.1 hnodup
      rw [Entry.putChild]
      split
      · next hname => exact List.nodup_cons.2 ⟨hname ▸ hd, hnodup⟩
      · next hname =>
        refine List.nodup_cons.2 ⟨fun hmem => ?_, ih hnodup⟩
        obtain ⟨c, hc, hcd⟩ := List.mem_map.1 hmem
        rcases mem_putChild hc with rfl | hc
        · exact hname hcd.symm
        · exact hd (hcd ▸ List.mem_map_of_mem hc)
  · rcases mem_putChild hc with rfl | hc
    · exact he
    · exact hbelow c hc

/-- Names differ in a tree into which something was put. -/
theorem NamesDiffer.put {t e : Entry} (ht : t.NamesDiffer) (he : e.NamesDiffer)
    (names : List String) : (t.put names e).NamesDiffer := by
  have hempty : (folder []).NamesDiffer := namesDiffer_folder.2 ⟨List.nodup_nil, nofun⟩
  induction names generalizing t with
  | nil => rwa [Entry.put]
  | cons name rest ih =>
    cases t with
    | folder children =>
      refine ht.putChild (ih ?_)
      cases hc : (folder children).child? name with
      | none => exact hempty
      | some c => exact ht.child? hc
    | file | link | closedFile | closedFolder => exact hempty.putChild (ih hempty)

/-- Names differ in a tree from which something was taken. -/
theorem NamesDiffer.erase {t : Entry} (ht : t.NamesDiffer) (names : List String) :
    (t.erase names).NamesDiffer := by
  fun_induction Entry.erase names t with
  | case1 e => exact ht
  | case2 name children =>
    obtain ⟨hnodup, hbelow⟩ := namesDiffer_folder.1 ht
    refine namesDiffer_folder.2 ⟨hnodup.sublist (List.filter_sublist.map _), fun c hc => ?_⟩
    exact hbelow c (List.mem_filter.1 hc).1
  | case3 name names hne children e he ih => exact ht.putChild (ih (ht.child? he))
  | case4 => exact ht
  | case5 => exact ht

/-! ## Sorting -/

/-- Children are sorted each by itself. -/
theorem sortedChildren_eq_map (children : List (String × Entry)) :
    sortedChildren children = children.map fun c => (c.1, c.2.sorted) := by
  induction children with
  | nil => rw [sortedChildren, List.map_nil]
  | cons c children ih => rw [sortedChildren, ih, List.map_cons]

/-- A folder is sorted by the names of its children, which are sorted as well. -/
theorem sorted_folder (children : List (String × Entry)) : (folder children).sorted =
    folder ((children.map fun c => (c.1, c.2.sorted)).mergeSort fun a b => a.1 ≤ b.1) := by
  rw [sorted, sortedChildren_eq_map]

/-- Only a folder is one after sorting. -/
theorem exists_of_sorted_eq_folder {e : Entry} {children : List (String × Entry)}
    (h : e.sorted = folder children) : ∃ children', e = folder children' := by
  cases e with
  | folder children' => exact ⟨children', rfl⟩
  | file | link | closedFile | closedFolder => simp [sorted] at h

/-- Names lead to the same places in a sorted tree. -/
theorem leads_sorted_iff {e f : Entry} {names : List String} :
    e.sorted.Leads names f ↔ ∃ g, e.Leads names g ∧ f = g.sorted := by
  constructor
  · intro h
    generalize he : e.sorted = s at h
    induction h generalizing e with
    | here => exact ⟨e, .here e, he.symm⟩
    | into hc _ ih =>
      obtain ⟨children, rfl⟩ := exists_of_sorted_eq_folder he
      rw [sorted_folder] at he
      cases he
      obtain ⟨⟨name, c⟩, hmem, hpair⟩ := List.mem_map.1 (List.mem_mergeSort.1 hc)
      cases hpair
      obtain ⟨g, hg, hf⟩ := ih rfl
      exact ⟨g, .into hmem hg, hf⟩
  · rintro ⟨g, hg, rfl⟩
    induction hg with
    | here => exact .here _
    | into hc _ ih =>
      rw [sorted_folder]
      exact .into (List.mem_mergeSort.2 (List.mem_map.2 ⟨_, hc, rfl⟩)) ih

/-- Sorting leaves files as they are. -/
theorem sorted_eq_of_isFile {e f : Entry} (hf : f.isFile = true) : e.sorted = f ↔ e = f := by
  cases e with
  | folder children =>
    have hno (children' : List (String × Entry)) : folder children' ≠ f := by
      rintro rfl
      cases hf
    rw [sorted_folder]
    exact iff_of_false (hno _) (hno _)
  | file | link | closedFile | closedFolder => simp [sorted]

/-- If names differ, they rise after sorting. -/
theorem NamesDiffer.rising_sorted {e : Entry} (h : e.NamesDiffer) : e.sorted.Rising := by
  intro names children' hleads
  obtain ⟨g, hg, hchildren⟩ := leads_sorted_iff.1 hleads
  obtain ⟨children, rfl⟩ := exists_of_sorted_eq_folder hchildren.symm
  rw [sorted_folder] at hchildren
  cases hchildren
  have hne : (children.map fun c => (c.1, c.2.sorted)).Pairwise fun a b => a.1 ≠ b.1 :=
    List.pairwise_map.2 (List.pairwise_map.1 (h names children hg))
  refine List.pairwise_map.2 ((Text.pairwise_mergeSort_key Prod.fst hne).imp fun hab => ?_)
  exact hab.resolve_right fun hsame => hsame.2 hsame.1

/-! ## Walking -/

/-- The children of a folder are walked one after the other. -/
theorem walkChildren_eq_flatMap (depth : Nat) (before : List String)
    (children : List (String × Entry)) : walkChildren depth before children =
      children.flatMap fun c => c.2.walk depth (before ++ [c.1]) := by
  induction children with
  | nil => rw [walkChildren, List.flatMap_nil]
  | cons c children ih => rw [walkChildren, ih, List.flatMap_cons]

/-- Names rise along a walk over a tree in which they rise. -/
theorem Rising.pairwise_walk {e : Entry} (h : e.Rising) (depth : Nat) (before : List String) :
    (e.walk depth before).Pairwise fun v w => Earlier v.names w.names := by
  induction depth generalizing e before with
  | zero => cases e <;> simp [walk]
  | succ n ih =>
    cases e with
    | file | link | closedFile | closedFolder => simp [walk]
    | folder children =>
      rw [walk, walkChildren_eq_flatMap, List.pairwise_cons, List.pairwise_flatMap]
      have hnames {c : String × Entry} {v : Visit} (hv : v ∈ c.2.walk n (before ++ [c.1])) :
          ∃ rest, v.names = before ++ c.1 :: rest := by
        obtain ⟨rest, hrest, -⟩ := mem_walk_iff.1 hv
        exact ⟨rest, hrest.trans (List.append_cons ..).symm⟩
      refine ⟨fun v hv => ?_, fun c hc => ?_, ?_⟩
      · obtain ⟨c, -, hv⟩ := List.mem_flatMap.1 hv
        obtain ⟨rest, hrest⟩ := hnames hv
        rw [hrest]
        exact .below before c.1 rest
      · exact ih (fun names grandchildren hleads => h (c.1 :: names) grandchildren
          (.into hc hleads)) _
      · refine (List.pairwise_map.1 (h [] children (.here _))).imp fun hlt v hv w hw => ?_
        obtain ⟨rest, hrest⟩ := hnames hv
        obtain ⟨rest', hrest'⟩ := hnames hw
        rw [hrest, hrest']
        exact .siblings hlt before rest rest'

end Entry

namespace Disk

variable {d : Disk} {path : String} {children : List (String × Entry)}

/-- The sorted walk from a path to a folder. -/
theorem walk_sorted_eq (h : d.entry? path = some (.folder children)) :
    d.walk true none path =
      (Entry.folder children).sorted.walk (Entry.folder children).height [] := by
  rw [walk, walkStart?_eq_folder.2 h]
  rfl

/-- A sorted walk visits all that is below the folder where it begins. -/
theorem mem_walk_sorted (h : d.entry? path = some (.folder children)) {v : Visit} :
    v ∈ d.walk true none path ↔
      ∃ e, (Entry.folder children).Leads v.names e ∧ v.entry = e.sorted := by
  rw [walk_sorted_eq h, Entry.mem_walk_iff]
  simp only [List.nil_append, Entry.leads_sorted_iff]
  constructor
  · rintro ⟨names, rfl, -, hleads⟩
    exact hleads
  · rintro ⟨e, hleads, hentry⟩
    exact ⟨v.names, rfl, hleads.length_le_height, e, hleads, hentry⟩

/-- A sorted walk visits the files below the folder where it begins. -/
theorem mem_walk_sorted_file (h : d.entry? path = some (.folder children)) {v : Visit}
    (hfile : v.entry.isFile = true) :
    v ∈ d.walk true none path ↔ (Entry.folder children).Leads v.names v.entry := by
  rw [mem_walk_sorted h]
  constructor
  · rintro ⟨e, hleads, he⟩
    rwa [(Entry.sorted_eq_of_isFile hfile).1 he.symm] at hleads
  · intro hleads
    exact ⟨_, hleads, ((Entry.sorted_eq_of_isFile hfile).2 rfl).symm⟩

/-- Names rise along a sorted walk over a tree in which they differ. -/
theorem pairwise_walk_sorted (h : d.entry? path = some (.folder children))
    (hnames : (Entry.folder children).NamesDiffer) :
    (d.walk true none path).Pairwise fun v w => Earlier v.names w.names := by
  rw [walk_sorted_eq h]
  exact hnames.rising_sorted.pairwise_walk _ []

end Disk

end Provision.Files
