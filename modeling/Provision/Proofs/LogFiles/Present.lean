import Provision.Proofs.Files.Visits
import Provision.Proofs.Glob.Written
import Provision.Proofs.LogFiles.Patterns

/-!
# The files that patterns find

A pattern without glob signs finds the file that it names, through links or not. Any other one finds
the files below its folder that its glob matches, if they are not deeper than the glob has names
and in folders that can be opened (`present_of_split_some`). A glob that takes every slash where it
is written, and once, only matches paths with at most as many names as it has itself
(`length_le_depth`), so the depth hides none of them.
-/

namespace Provision.LogFiles

open Files (Disk Entry)
open Unicode (Ranges)

section
variable {d : Disk} {pattern folder glob : String} {g : Glob} {names : List String}

/-- What is found without glob signs. -/
theorem present_of_split_none (h : split pattern = (folder, none)) :
    present d pattern = .ok (d.isFile folder) := by
  rw [present, h]

/-- A walk from a folder's path meets a file that a glob matches: names lead to it from where the
walk starts, not more than the depth allows, and through folders that can be opened. -/
structure Meets (folder : String) (depth : Option ℕ) (g : Glob) (start : Entry)
    (names : List String) (e : Entry) : Prop where
  leads : start.Leads names e
  file : e.isFile = true
  opens : Files.opensAlong folder names = true
  depth : ∀ n, depth = some n → names.length ≤ n
  isMatch : g.isMatch (relativePath ⟨names, e⟩) = true

/-- A visit finds what a pattern names if it is to a file on an open way that the glob matches. -/
theorem isMatch_iff {v : Files.Visit} : isMatch folder g v = true ↔ v.entry.isFile = true ∧
    Files.opensAlong folder v.names = true ∧ g.isMatch (relativePath v) = true := by
  rw [isMatch, Bool.and_eq_true, Bool.and_eq_true, and_assoc]

/-- A walk finds what a pattern names if it meets a file that the glob matches. -/
theorem any_isMatch_iff {depth : Option ℕ} :
    (d.walk false depth folder).any (isMatch folder g) = true ↔
      ∃ start names e, d.walkStart? folder = some start ∧
        Meets folder depth g start names e := by
  rw [List.any_eq_true]
  constructor
  · rintro ⟨⟨names, e⟩, hv, hm⟩
    obtain ⟨start, hstart, hdepth, hleads⟩ := Disk.mem_walk_iff.1 hv
    obtain ⟨hfile, hopens, hm⟩ := isMatch_iff.1 hm
    exact ⟨start, names, e, hstart, hleads, hfile, hopens, hdepth, hm⟩
  · rintro ⟨start, names, e, hstart, h⟩
    exact ⟨⟨names, e⟩, Disk.mem_walk_iff.2 ⟨start, hstart, h.depth, h.leads⟩,
      isMatch_iff.2 ⟨h.file, h.opens, h.isMatch⟩⟩

/-- With a glob, the walk below the folder decides. -/
theorem present_of_ofText (h : split pattern = (folder, some glob))
    (hg : Glob.ofText glob = .ok g) :
    present d pattern = .ok ((d.walk false (depth glob) folder).any (isMatch folder g)) := by
  rw [present, h]
  simp only [hg, Except.map]

/-- What is found with a glob: a file that the walk meets and that the glob matches. -/
theorem present_of_split_some (h : split pattern = (folder, some glob)) :
    present d pattern = .ok true ↔ ∃ g, Glob.ofText glob = .ok g ∧
      ∃ start names e, d.walkStart? folder = some start ∧
        Meets folder (depth glob) g start names e := by
  cases hg : Glob.ofText glob with
  | error problem => simp [present, h, hg, Except.map]
  | ok g =>
    rw [present_of_ofText h hg]
    simp only [Except.ok.injEq, exists_eq_left', any_isMatch_iff]

/-! ## How deep a glob reaches -/

/-- A walk is bounded unless the glob is written with `**`, by one more than its slashes. -/
theorem depth_eq_some {n : ℕ} : depth glob = some n ↔
    ¬ ['*', '*'] <:+: glob.toList ∧ n = glob.toList.count '/' + 1 := by
  unfold depth
  rw [Text.length_splitAt]
  split
  · next h => simp [Text.occursIn_iff.1 h]
  · next h => simp [mt Text.occursIn_iff.2 h, eq_comm]

/-- Texts with slashes between them are at most one more than the slashes. -/
theorem length_le_count_intercalate (texts : List (List Char)) :
    texts.length ≤ (['/'].intercalate texts).count '/' + 1 := by
  induction texts with
  | nil => exact Nat.zero_le _
  | cons p ps ih =>
    cases ps with
    | nil => exact Nat.succ_le_succ (Nat.zero_le _)
    | cons q qs =>
      rw [List.intercalate_cons_cons, List.count_append, List.count_append]
      have hone : ['/'].count '/' = 1 := rfl
      rw [List.length_cons]
      omega

/-- A path has at most one name more than slashes. -/
theorem length_le_count (names : List String) (e : Entry) :
    names.length ≤ (relativePath ⟨names, e⟩).toList.count '/' + 1 := by
  have hjoined := length_le_count_intercalate (names.map String.toList)
  rw [List.length_map] at hjoined
  have hslashes : (String.intercalate "/" names).toList.count '/' ≤
      (relativePath ⟨names, e⟩).toList.count '/' := by
    rw [relativePath, toList_forwardSlashes]
    exact List.count_le_count_map (f := fun c => if c == '\\' then '/' else c) (x := '/')
  rw [String.toList_intercalate] at hslashes
  exact hjoined.trans (Nat.succ_le_succ hslashes)

/-- No path is too deep for a glob that takes every slash where it is written, and once. -/
theorem length_le_depth {e : Entry} {n : ℕ} (hg : Glob.ofText glob = .ok g)
    (hw : Glob.Token.RowTakesAsWritten g.tokens) (hd : depth glob = some n)
    (hm : g.isMatch (relativePath ⟨names, e⟩) = true) : names.length ≤ n := by
  obtain ⟨hstars, rfl⟩ := depth_eq_some.1 hd
  have hwritten := (Glob.rowWritten_le_count (Glob.ofText_eq_ok.1 hg).1).resolve_left hstars
  have hcount : ((relativePath ⟨names, e⟩).toList.count '/' : ℕ∞) ≤ (glob.toList.count '/' : ℕ) :=
    calc ((relativePath ⟨names, e⟩).toList.count '/' : ℕ∞)
      _ ≤ Glob.Token.rowSlashes g.tokens := Glob.count_le_rowSlashes hg hm
      _ ≤ Glob.Token.rowWritten g.tokens := Glob.Token.rowSlashes_le_rowWritten _ hw
      _ ≤ (glob.toList.count '/' : ℕ) := hwritten
  have hle := Nat.cast_le.1 hcount
  have hnames := length_le_count names e
  omega

/-! ## What is found -/

/-- Every file below the folder that the glob matches is found, except for those that the walk does
not get to. They are deeper than the glob has names, which there are only if a class of the glob is
negated, or a repetition runs over a slash twice; or a folder above them has a path that is too long
for the system to open it. -/
theorem present_of_isMatch {children : List (String × Entry)} {e : Entry}
    (hsplit : split pattern = (folder, some glob)) (hg : Glob.ofText glob = .ok g)
    (hfolder : d.entry? folder = some (.folder children))
    (hleads : (Entry.folder children).Leads names e) (hfile : e.isFile = true)
    (hm : g.isMatch (relativePath ⟨names, e⟩) = true) :
    present d pattern = .ok true ∨
      (¬ Glob.Token.RowTakesAsWritten g.tokens ∧ ∃ n, depth glob = some n ∧ n < names.length) ∨
      ∃ above, above <+: names ∧ above ≠ names ∧
        Files.maxPath < (above.foldl Files.join folder).utf8ByteSize := by
  by_cases hopens : Files.opensAlong folder names = true
  · have hfound (hdepth : ∀ n, depth glob = some n → names.length ≤ n) :
        present d pattern = .ok true :=
      (present_of_split_some hsplit).2 ⟨g, hg, _, names, e,
        Disk.walkStart?_eq_folder.2 hfolder, hleads, hfile, hopens, hdepth, hm⟩
    by_cases hw : Glob.Token.RowTakesAsWritten g.tokens
    · exact .inl (hfound fun n hn => length_le_depth hg hw hn hm)
    · by_cases hdepth : ∀ n, depth glob = some n → names.length ≤ n
      · exact .inl (hfound hdepth)
      · push Not at hdepth
        exact .inr (.inl ⟨hw, hdepth⟩)
  · rw [Files.opensAlong_iff] at hopens
    push Not at hopens
    exact .inr (.inr hopens)

/-! ### A name, and a path of any names -/

/-- All characters but the slash. -/
def notSlash : Ranges := ⟨[(0, 46), (48, 0xD7FF), (0xE000, 0x10FFFF)]⟩

/-- The glob `*`. -/
def star : Glob := ⟨[.many], .repeated (.chars notSlash) 0 none⟩

/-- The glob `<*/>*`, which takes a slash each time it repeats its group. -/
def starsBetween : Glob :=
  ⟨[.repeated [.many, .slash] 0 none, .many],
    .seq (.repeated (.seq (.repeated (.chars notSlash) 0 none) (.chars ⟨[(47, 47)]⟩)) 0 none)
      (.repeated (.chars notSlash) 0 none)⟩

/-- The pattern of what is not a slash compiles to a set. -/
theorem notSlash_expr : Glob.notSlash.expr Pattern.Flags.initial =
    .ok (.chars notSlash, Pattern.Flags.initial) := by
  have hslash : Glob.onlySlash = ⟨[(47, 47)]⟩ := by
    rw [Glob.onlySlash, Ranges.ofPairs_of_rising (by decide), Ranges.unions,
      Ranges.ofPairs_of_rising (by decide)]
    rfl
  have hset : Ranges.complement ⟨[(47, 47)]⟩ = notSlash := by
    rw [Ranges.complement, Ranges.ofPairs_of_rising (by decide)]
    rfl
  have hok := Glob.notSlash_ok (f := Pattern.Flags.initial) rfl
  rw [hslash] at hok
  exact hset ▸ hok

/-- A star is read as a glob. -/
theorem ofText_star : Glob.ofText "*" = .ok star := by
  have hexpr : (Glob.ast star.tokens).expr Pattern.Flags.initial =
      .ok (star.expr, Pattern.Flags.initial) := Glob.repeated_ok notSlash_expr 0 none
  refine Glob.ofText_eq_ok.2 ⟨rfl, by decide +kernel, by decide +kernel, ?_⟩
  exact Glob.compile_eq_ok.2 ⟨⟨_, hexpr⟩, by decide +kernel⟩

/-- A repetition of a star and a slash is read as a glob. -/
theorem ofText_starsBetween : Glob.ofText "<*/>*" = .ok starsBetween := by
  have hexpr : (Glob.ast starsBetween.tokens).expr Pattern.Flags.initial =
      .ok (starsBetween.expr, Pattern.Flags.initial) := by
    have hname := Glob.repeated_ok notSlash_expr 0 none
    have hbody := Glob.group_ok (Glob.concat_ok hname (Glob.character_ok rfl '/'))
    have hgroup := Glob.group_ok (Glob.repeated_ok hbody 0 none)
    exact Glob.concat_ok hgroup hname
  refine Glob.ofText_eq_ok.2 ⟨rfl, by decide +kernel, by decide +kernel, ?_⟩
  exact Glob.compile_eq_ok.2 ⟨⟨_, hexpr⟩, by decide +kernel⟩

/-- A disk with the file `a/b/c`. -/
def nested : Disk := ⟨.folder [("a", .folder [("b", .folder [("c", .file [])])])], []⟩

/-- A disk with the file `syslog`. -/
def flat : Disk := ⟨.folder [("syslog", .file [])], []⟩

/-- The glob `*` takes every slash where it is written, because it takes none. -/
theorem present_star : present flat "*" = .ok true := by
  have hsplit : split "*" = (".", some "*") := by decide +kernel
  have hfile : flat.root.Leads ["syslog"] (.file []) := .into List.mem_cons_self (.here _)
  have hopens : Files.opensAlong "." ["syslog"] = true := by decide +kernel
  have hfound :=
    present_of_isMatch (d := flat) hsplit ofText_star rfl hfile rfl (by decide +kernel)
  rcases hfound with hfound | ⟨hw, -⟩ | ⟨above, habove, hne, hlong⟩
  · exact hfound
  · exact absurd ⟨trivial, trivial⟩ hw
  · exact absurd (Files.opensAlong_iff.1 hopens above habove hne) (Nat.not_le_of_lt hlong)

/-- A file that is deeper than the glob has names is missed. -/
theorem present_starsBetween :
    split "<*/>*" = (".", some "<*/>*") ∧ Glob.ofText "<*/>*" = .ok starsBetween ∧
      nested.entry? "." = some nested.root ∧ nested.root.Leads ["a", "b", "c"] (.file []) ∧
      starsBetween.isMatch (relativePath ⟨["a", "b", "c"], .file []⟩) = true ∧
      present nested "<*/>*" = .ok false := by
  have hsplit : split "<*/>*" = (".", some "<*/>*") := by decide +kernel
  refine ⟨hsplit, ofText_starsBetween, rfl, ?_, by decide +kernel, ?_⟩
  · exact .into List.mem_cons_self (.into List.mem_cons_self (.into List.mem_cons_self (.here _)))
  · rw [present_of_ofText hsplit ofText_starsBetween]
    exact congrArg Except.ok (by decide +kernel)

/-- A pattern that is found names a file itself, or its glob matches a file below its folder. Only
if there is a file in place of the folder, the glob may match the empty path instead. -/
theorem file_of_present (h : present d pattern = .ok true) :
    (pattern.toList.any isGlobSign = false ∧ d.isFile (forwardSlashes pattern) = true) ∨
      ∃ folder glob g, split pattern = (folder, some glob) ∧ Glob.ofText glob = .ok g ∧
        ((∃ children names e, d.entry? folder = some (.folder children) ∧ names ≠ [] ∧
            (Entry.folder children).Leads names e ∧ e.isFile = true ∧
            g.isMatch (relativePath ⟨names, e⟩) = true) ∨
          (d.isFile folder = true ∧ d.isLink folder = false ∧ g.isMatch "" = true)) := by
  rcases hsplit : split pattern with ⟨folder, glob⟩
  cases glob with
  | none =>
    rw [present_of_split_none hsplit] at h
    obtain ⟨rfl, hplain⟩ := split_eq_none.1 hsplit
    exact .inl ⟨hplain, Except.ok.inj h⟩
  | some glob =>
    obtain ⟨g, hg, start, names, e, hstart, hleads, hfile, -, -, hm⟩ :=
      (present_of_split_some hsplit).1 h
    refine .inr ⟨folder, glob, g, rfl, hg, ?_⟩
    cases hleads with
    | here =>
      obtain ⟨hisFile, hlink⟩ := Disk.isFile_of_walkStart? hstart hfile
      exact .inr ⟨hisFile, hlink, hm⟩
    | into hc hbelow =>
      exact .inl ⟨_, _, e, Disk.walkStart?_eq_folder.1 hstart, List.cons_ne_nil _ _,
        .into hc hbelow, hfile, hm⟩

/-- What is found by a glob in a folder is a file below it that the glob matches. -/
theorem file_of_present_nested : present nested "a/b/*" = .ok true ∧
    ∃ children names e, nested.entry? "a/b" = some (.folder children) ∧ names ≠ [] ∧
      (Entry.folder children).Leads names e ∧ e.isFile = true ∧
      star.isMatch (relativePath ⟨names, e⟩) = true := by
  have hsplit : split "a/b/*" = ("a/b", some "*") := by decide +kernel
  have hfound : present nested "a/b/*" = .ok true := by
    rw [present_of_ofText hsplit ofText_star]
    exact congrArg Except.ok (by decide +kernel)
  refine ⟨hfound, ?_⟩
  rcases file_of_present hfound with ⟨hplain, -⟩ | ⟨folder, glob, g, h, hg, hbelow⟩
  · exact absurd hplain (by decide +kernel)
  · cases hsplit.symm.trans h
    obtain rfl : star = g := Except.ok.inj (ofText_star.symm.trans hg)
    rcases hbelow with hbelow | ⟨hfile, -⟩
    · exact hbelow
    · exact absurd hfile (by decide +kernel)

/-- A file in place of the folder is found, though it is not below it. -/
theorem present_below_file : present flat "syslog/*" = .ok true ∧
    ¬ ("syslog/*".toList.any isGlobSign = false ∧
        flat.isFile (forwardSlashes "syslog/*") = true ∨
      ∃ folder glob g, split "syslog/*" = (folder, some glob) ∧ Glob.ofText glob = .ok g ∧
        ∃ children names e, flat.entry? folder = some (.folder children) ∧ names ≠ [] ∧
          (Entry.folder children).Leads names e ∧ e.isFile = true ∧
          g.isMatch (relativePath ⟨names, e⟩) = true) := by
  have hsplit : split "syslog/*" = ("syslog", some "*") := by decide +kernel
  constructor
  · rw [present_of_ofText hsplit ofText_star]
    exact congrArg Except.ok (by decide +kernel)
  · rintro (⟨hplain, -⟩ | ⟨folder, glob, g, h, -, children, -, -, hfolder, -⟩)
    · exact absurd hplain (by decide +kernel)
    · rw [hsplit] at h
      cases h
      have hfile : flat.entry? "syslog" = some (.file []) := rfl
      cases hfile.symm.trans hfolder

end

end Provision.LogFiles
