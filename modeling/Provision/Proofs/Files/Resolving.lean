import Provision.Proofs.Files.ReadBack

/-!
# Where paths lead

A path is gone along name by name. Whether a link at its end is followed changes nothing else
(`resolveFrom_follow`). Where a path leads to a file that is at its end itself, the names before
the last one lead to a folder, and the file is a child of it (`resolveFrom_concat`): links in the
middle are followed the same way with the last name and without it.
-/

namespace Provision.Files

namespace Entry

/-- More names lead on from where the first ones lead. -/
theorem at?_append (t : Entry) (ns ms : List String) :
    t.at? (ns ++ ms) = (t.at? ns).bind (at? ms) := by
  induction ns generalizing t with
  | nil => rfl
  | cons n ns ih =>
    rw [List.cons_append, at?, at?]
    cases t.child? n with
    | none => rfl
    | some u => exact ih u

/-- The child of a name is one of the children. -/
theorem mem_of_child? {children : List (String × Entry)} {name : String} {e : Entry}
    (h : (folder children).child? name = some e) : (name, e) ∈ children := by
  rw [child?, Option.map_eq_some_iff] at h
  obtain ⟨c, hc, rfl⟩ := h
  obtain rfl : c.1 = name := by simpa using List.find?_some hc
  exact List.mem_of_find?_eq_some hc

/-- A folder is at the end of some names. -/
def HasFolder (root : Entry) (ns : List String) : Prop :=
  ∃ children, root.at? ns = some (folder children)

/-- Above a folder there are folders. -/
theorem HasFolder.of_prefix {root : Entry} {ns ms : List String} (h : root.HasFolder ms)
    (hp : ns <+: ms) : root.HasFolder ns := by
  obtain ⟨rest, rfl⟩ := hp
  obtain ⟨children, h⟩ := h
  rw [at?_append, Option.bind_eq_some_iff] at h
  obtain ⟨e, he, h⟩ := h
  cases rest with
  | nil => exact ⟨children, he.trans h⟩
  | cons n rest =>
    obtain ⟨siblings, -, rfl, -⟩ := at?_cons_eq_some h
    exact ⟨siblings, he⟩

/-- A folder, closed or not, is at the end of some names. -/
def IsFolderAt (root : Entry) (ns : List String) : Prop :=
  ∃ e, root.at? ns = some e ∧ e.isFolder = true

/-- Above a folder, closed or not, there are folders. -/
theorem IsFolderAt.of_prefix {root : Entry} {ns ms : List String} (h : root.IsFolderAt ms)
    (hp : ns <+: ms) : root.IsFolderAt ns := by
  obtain ⟨rest, rfl⟩ := hp
  obtain ⟨f, h, hf⟩ := h
  cases rest with
  | nil => exact ⟨f, by rwa [List.append_nil] at h, hf⟩
  | cons n rest =>
    rw [at?_append, Option.bind_eq_some_iff] at h
    obtain ⟨e, he, h⟩ := h
    obtain ⟨siblings, -, rfl, -⟩ := at?_cons_eq_some h
    exact ⟨_, he, rfl⟩

/-- A file is no folder. -/
theorem isFolder_of_isFile {e : Entry} (h : e.isFile = true) : e.isFolder = false := by
  cases e with
  | file | closedFile => rfl
  | link | folder | closedFolder => cases h

end Entry

open Entry (IsFolderAt)

section
variable {root : Entry} {bound links : Nat} {here rest : List String} {place : Place}
  {name : String} {e : Entry} {making : Bool}

/-- Whether a link at the end is followed makes no difference, unless one is there. -/
theorem resolveFrom_follow :
    resolveFrom root false making bound links here rest =
        resolveFrom root true making bound links here rest ∨
      ∃ ns target,
        resolveFrom root false making bound links here rest = .ok ⟨ns, some (.link target)⟩ := by
  induction bound generalizing links here rest with
  | zero => cases rest <;> exact .inl rfl
  | succ n ih =>
    cases rest with
    | nil => exact .inl rfl
    | cons name rest =>
      rw [resolveFrom, resolveFrom]
      by_cases hs : staysHere name = true
      · simp only [if_pos hs]
        exact ih
      by_cases hup : name = ".."
      · simp only [if_neg hs, if_pos hup]
        exact ih
      simp only [if_neg hs, if_neg hup]
      split
      · exact .inl rfl
      split
      · exact .inl rfl
      cases root.at? (name :: here).reverse with
      | none => exact .inl rfl
      | some e =>
        cases e with
        | folder => exact ih
        | file | closedFile | closedFolder => exact .inl rfl
        | link target =>
          cases rest with
          | nil => exact .inr ⟨_, target, rfl⟩
          | cons r rest =>
            cases links with
            | zero => exact .inl rfl
            | succ l =>
              by_cases ht : target = ""
              · exact .inl (by simp [ht])
              · simp only [List.isEmpty_cons, Bool.false_and, Bool.false_eq_true, if_false,
                  if_neg ht]
                exact ih

/-- Names that lead nowhere else. -/
theorem resolveFrom_staysHere {follow : Bool} (h : rest.all staysHere = true)
    (hb : rest.length ≤ bound) : resolveFrom root follow making bound links here rest =
      .ok ⟨here.reverse, root.at? here.reverse⟩ := by
  induction rest generalizing bound with
  | nil => rw [resolveFrom]
  | cons n rest ih =>
    obtain ⟨hn, hrest⟩ := Bool.and_eq_true_iff.1 (List.all_cons ▸ h)
    obtain ⟨b, rfl⟩ := Nat.exists_eq_add_one_of_ne_zero (Nat.ne_zero_of_lt hb)
    rw [resolveFrom, if_pos hn]
    exact ih hrest (Nat.le_of_succ_le_succ hb)

/-- A file at the end of one more name is a child of the folder before it. -/
theorem resolveFrom_singleton (hhere : root.IsFolderAt here.reverse)
    (h : resolveFrom root false false bound links here [name] = .ok place)
    (hentry : place.entry = some e) (hfile : e.isFile = true) :
    ∃ children, root.at? here.reverse = some (.folder children) ∧
      (Entry.folder children).child? name = some e := by
  -- A walk that stays in folders ends at no file.
  have hno : ∀ {ns : List String}, ns <+: here.reverse → root.at? ns ≠ some e := by
    intro ns hns hat
    obtain ⟨f, hf, hfolder⟩ := hhere.of_prefix hns
    obtain rfl : e = f := Option.some.inj (hat.symm.trans hf)
    exact Bool.false_ne_true ((Entry.isFolder_of_isFile hfile).symm.trans hfolder)
  have hat := (resolveFrom_entry h).symm.trans hentry
  cases bound with
  | zero => cases h
  | succ n =>
    by_cases hs : staysHere name = true
    · rw [resolveFrom_staysHere (by simpa using hs) (by simp)] at h
      cases h
      exact absurd hat (hno List.prefix_rfl)
    · by_cases hup : name = ".."
      · rw [resolveFrom, if_neg hs, if_pos hup, resolveFrom] at h
        cases h
        refine absurd hat (hno ?_)
        rw [List.reverse_drop]
        exact List.take_prefix ..
      · have hnames : place.names = (name :: here).reverse := by
          rw [resolveFrom, if_neg hs, if_neg hup, if_neg (by simp)] at h
          split at h
          · cases h
          split at h
          · cases h; rfl
          · rw [resolveFrom] at h
            cases h; rfl
          all_goals cases h; rfl
        rw [hnames, List.reverse_cons, Entry.at?_append, Option.bind_eq_some_iff] at hat
        obtain ⟨f, hf, hat⟩ := hat
        obtain ⟨children, -, rfl, -⟩ := Entry.at?_cons_eq_some hat
        exact ⟨children, hf, by simpa [Entry.at?] using hat⟩

/-- The file at the end of a path is a child of the folder that the names before the last one lead
to. -/
theorem resolveFrom_concat (hhere : root.IsFolderAt here.reverse)
    (h : resolveFrom root false false bound links here (rest ++ [name]) = .ok place)
    (hentry : place.entry = some e) (hfile : e.isFile = true) :
    ∃ ns children, resolveFrom root true false bound links here rest =
        .ok ⟨ns, some (.folder children)⟩ ∧
      (Entry.folder children).child? name = some e := by
  have hroot : root.IsFolderAt [] := hhere.of_prefix List.nil_prefix
  induction bound generalizing links here rest with
  | zero => cases rest <;> cases h
  | succ n ih =>
    cases rest with
    | nil =>
      obtain ⟨children, hat, hchild⟩ := resolveFrom_singleton hhere h hentry hfile
      exact ⟨_, children, by rw [resolveFrom, hat], hchild⟩
    | cons first rest =>
      rw [List.cons_append, resolveFrom] at h
      rw [resolveFrom]
      by_cases hs : staysHere first = true
      · simp only [if_pos hs] at h ⊢
        exact ih hhere h
      by_cases hup : first = ".."
      · simp only [if_neg hs, if_pos hup] at h ⊢
        refine ih (hhere.of_prefix ?_) h
        rw [List.reverse_drop]
        exact List.take_prefix ..
      simp only [if_neg hs, if_neg hup, Bool.false_and, Bool.false_eq_true, if_false] at h ⊢
      split at h
      · cases h
      next hlen =>
      rw [if_neg hlen]
      cases hat : root.at? (first :: here).reverse with
      | none =>
        -- Nothing is there, so no file is.
        simp only [hat] at h
        split at h <;> cases h
        cases hentry
      | some f =>
        simp only [hat] at h
        cases f with
        | folder children => exact ih ⟨_, hat, rfl⟩ h
        | file | closedFile => simp at h
        | closedFolder reason =>
          -- Nothing below a closed folder is reached, and the folder itself is no file.
          dsimp only at h
          split at h
          · cases h
            cases hentry
            cases hfile
          · cases h
        | link target =>
          have hlast : (rest ++ [name]).isEmpty = false := by simp
          simp only [hlast, Bool.false_and, Bool.false_eq_true, if_false] at h
          cases links with
          | zero => cases h
          | succ l =>
            by_cases ht : target = ""
            · simp [ht] at h
            · simp only [if_neg ht, ← List.append_assoc, Bool.not_true, Bool.and_false,
                Bool.false_eq_true, if_false] at h ⊢
              refine ih ?_ h
              split
              · exact hroot
              · exact hhere

end

/-! ## Paths of a disk -/

namespace Disk

variable {d : Disk} {path : String} {place : Place} {follow : Bool}

/-- A path that is only followed leads somewhere if the system takes it and its names lead there.
-/
theorem resolve_eq_ok : d.resolve follow path = .ok place ↔
    path ≠ "" ∧ '\x00' ∉ path.toList ∧ path.utf8ByteSize ≤ maxPath ∧
      resolveFrom d.root follow false bound maxLinks (d.start path) (names path) = .ok place :=
  locate_eq_ok

/-- Whether a link at the end of a path is followed makes no difference, unless one is there. -/
theorem resolve_follow (d : Disk) (path : String) :
    d.resolve false path = d.resolve true path ∨
      ∃ ns target, d.resolve false path = .ok ⟨ns, some (.link target)⟩ := by
  unfold resolve locate
  split
  · exact .inl rfl
  split
  · exact .inl rfl
  split
  · exact .inl rfl
  · exact resolveFrom_follow

/-- If no link is at the end of a path, following links makes no difference. -/
theorem resolve_followed (h : d.resolve false path = .ok place)
    (hlink : ∀ target, place.entry ≠ some (.link target)) : d.resolve true path = .ok place := by
  rcases d.resolve_follow path with heq | ⟨ns, target, hns⟩
  · rwa [← heq]
  · cases h.symm.trans hns
    exact absurd rfl (hlink target)

/-- Whether there is a link at the end of a path. -/
def isLink (d : Disk) (path : String) : Bool :=
  match d.resolve false path with
  | .ok ⟨_, some (.link _)⟩ => true
  | _ => false

/-- Something is at the end of a path if the path leads there with links followed. -/
theorem entry?_eq_some {e : Entry} :
    d.entry? path = some e ↔ ∃ ns, d.resolve true path = .ok ⟨ns, some e⟩ := by
  unfold entry?
  cases d.resolve true path with
  | error => simp
  | ok place =>
    obtain ⟨ns, entry⟩ := place
    simp

/-- A file is there if the path leads to one. -/
theorem isFile_iff : d.isFile path = true ↔ ∃ e, d.entry? path = some e ∧ e.isFile = true :=
  Option.any_eq_true ..

/-- A folder is there if the path leads to one. -/
theorem isFolder_iff : d.isFolder path = true ↔ ∃ e, d.entry? path = some e ∧ e.isFolder = true :=
  Option.any_eq_true ..

/-- What is found at the end of a path where no link is, is there itself. -/
theorem resolve_of_not_isLink {e : Entry} (h : d.entry? path = some e)
    (hlink : d.isLink path = false) : ∃ ns, d.resolve false path = .ok ⟨ns, some e⟩ := by
  obtain ⟨ns, hns⟩ := entry?_eq_some.1 h
  rcases d.resolve_follow path with heq | ⟨_, _, hl⟩
  · exact ⟨ns, heq.trans hns⟩
  · simp [isLink, hl] at hlink

/-- Relative paths start in a folder if the current folder is one. -/
theorem isFolderAt_here (h : d.isFolder "." = true) : d.root.IsFolderAt d.here := by
  obtain ⟨e, hentry, hfolder⟩ := isFolder_iff.1 h
  obtain ⟨ns, hns⟩ := entry?_eq_some.1 hentry
  obtain ⟨-, -, -, hns⟩ := resolve_eq_ok.1 hns
  rw [resolveFrom_staysHere (by decide) (by decide)] at hns
  have hat : d.root.at? d.here.reverse.reverse = some e :=
    congrArg Place.entry (Except.ok.inj hns)
  exact ⟨e, by rwa [List.reverse_reverse] at hat, hfolder⟩

/-- If relative paths start in a folder, all paths do. -/
theorem isFolderAt_start (hhere : d.root.IsFolderAt d.here) (path : String) :
    d.root.IsFolderAt (d.start path).reverse := by
  unfold start
  split
  · exact hhere.of_prefix List.nil_prefix
  · rwa [List.reverse_reverse]

/-- A file that is at the end of a path itself is a child of the folder that another path leads to,
if that path starts at the same place and leads where the names before the last one lead. -/
theorem entry?_folder {folder name : String} {ns : List String} {e : Entry}
    (hhere : d.isFolder "." = true) (hnames : names path = ns ++ [name])
    (h : d.resolve false path = .ok place) (hentry : place.entry = some e)
    (hfile : e.isFile = true) (hempty : folder ≠ "") (hzero : '\x00' ∉ folder.toList)
    (hlength : folder.utf8ByteSize ≤ maxPath) (hstart : d.start folder = d.start path)
    (hfolder : resolveFrom d.root true false bound maxLinks (d.start path) (names folder) =
      resolveFrom d.root true false bound maxLinks (d.start path) ns) :
    ∃ children, d.entry? folder = some (.folder children) ∧
      (Entry.folder children).child? name = some e := by
  obtain ⟨-, -, -, h⟩ := resolve_eq_ok.1 h
  rw [hnames] at h
  obtain ⟨ms, children, hms, hchild⟩ :=
    resolveFrom_concat (isFolderAt_start (isFolderAt_here hhere) path) h hentry hfile
  have hplace : d.resolve true folder = .ok ⟨ms, some (.folder children)⟩ :=
    resolve_eq_ok.2 ⟨hempty, hzero, hlength, by rw [hstart, hfolder, hms]⟩
  exact ⟨children, entry?_eq_some.2 ⟨ms, hplace⟩, hchild⟩

end Disk

end Provision.Files
