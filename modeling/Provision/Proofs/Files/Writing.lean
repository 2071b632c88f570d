import Mathlib.Data.List.TakeWhile
import Provision.Proofs.Files.Resolving

/-!
# What writing a file changes

A path that leads somewhere leads through folders (`resolveFrom_folders`), so a file that is written
there, or a folder that is made there, changes nothing else: other files and links are as they were,
and folders are still folders (`Entry.at?_put_leaf`). `Disk.KeepsBut` says this of two disks, and
goes on from one operation to the next; `Disk.OnlyWrites` is the case in which one path may be
written to.
-/

namespace Provision.Files

open Entry (HasFolder IsLeaf)

namespace Entry

variable {t e x : Entry} {n : String} {ns ps rest : List String}

/-- Below what is put somewhere is what is below it. -/
theorem at?_put_append (t e : Entry) (ns rest : List String) :
    (t.put ns e).at? (ns ++ rest) = e.at? rest := by
  rw [at?_append, at?_put_self, Option.bind_some]

/-- Nothing is below a file or a link. -/
theorem IsLeaf.bind_at? {o : Option Entry} (h : IsLeaf o) : o.bind (at? (n :: rest)) = none := by
  match o with
  | none | some (.file _) | some (.link _) | some (.closedFile _) | some (.closedFolder _) => rfl
  | some (.folder _) => exact h.elim

/-- A leaf is no folder. -/
theorem IsLeaf.ne_folder (h : IsLeaf (some x)) {children : List (String × Entry)} :
    some (folder children) ≠ some x := by
  rintro ⟨⟩
  exact h

/-- What is put below folders changes no file and no link that is neither at its place nor below
it. -/
theorem at?_put_leaf (hx : IsLeaf (some x)) (habove : ∀ q, q <+: ns → q ≠ ns → t.HasFolder q)
    (hps : ¬ ns <+: ps) : (t.put ns e).at? ps = some x ↔ t.at? ps = some x := by
  induction ns generalizing t ps with
  | nil => exact absurd List.nil_prefix hps
  | cons n ns ih =>
    obtain ⟨children, hroot⟩ := habove [] List.nil_prefix nofun
    obtain rfl : t = folder children := Option.some.inj hroot
    cases ps with
    | nil => exact iff_of_false hx.ne_folder hx.ne_folder
    | cons p ps =>
      rw [put, at?, child?_putChild, at?]
      by_cases hn : n = p
      · subst hn
        have hps' : ¬ ns <+: ps := fun h => hps (List.cons_prefix_cons.2 ⟨rfl, h⟩)
        cases hchild : (folder children).child? n with
        | none =>
          -- The last name is the only one below which there may be nothing.
          cases ns with
          | nil => exact absurd List.nil_prefix hps'
          | cons n' ns =>
            obtain ⟨_, hat⟩ := habove [n] (by simp) (by simp)
            rw [at?, hchild] at hat
            cases hat
        | some u =>
          rw [if_pos rfl, Option.getD_some, Option.bind_some, Option.bind_some]
          refine ih (fun q hq hne => ?_) hps'
          obtain ⟨cs, hat⟩ :=
            habove (n :: q) (List.cons_prefix_cons.2 ⟨rfl, hq⟩) (by simpa using hne)
          rw [at?, hchild, Option.bind_some] at hat
          exact ⟨cs, hat⟩
      · rw [if_neg hn]

end Entry

/-! ## Where paths start and lead -/

/-- Dots and slashes that are taken off the end of a path leave its beginning. -/
theorem getLast?_trimEnd (cs : List Char) : (trimEnd cs).getLast? = cs.getLast? := by
  fun_induction trimEnd cs with
  | case1 => rfl
  | case2 cs hne ih =>
    obtain ⟨c, cs, rfl⟩ := List.exists_cons_of_ne_nil hne
    rw [ih, List.getLast?_cons_cons]
  | case3 cs ih => rw [ih, List.getLast?_cons_cons]
  | case4 => rfl

/-- A path starts where its folder does. -/
theorem isAbsolute_parent {path parent : String} (h : parent? path = some parent) :
    isAbsolute parent = isAbsolute path := by
  have hpath : (trimEnd path.toList.reverse).getLast? = path.toList.head? := by
    rw [getLast?_trimEnd, List.getLast?_reverse]
  simp only [parent?] at h
  split at h
  · cases h
  · obtain rfl := Option.some.inj h
    rw [isAbsolute, isAbsolute, String.toList_ofList, List.head?_reverse, getLast?_trimEnd, ← hpath]
    generalize trimEnd path.toList.reverse = cs
    cases hbefore : cs.dropWhile (· != '/') with
    | nil =>
      -- There is no slash in the path.
      have hslash : cs.getLast? ≠ some '/' := fun hlast =>
        absurd (List.dropWhile_eq_nil_iff.1 hbefore '/' (List.mem_of_getLast? hlast)) (by decide)
      simp [hslash]
    | cons c before =>
      obtain ⟨name, rfl⟩ : c :: before <:+ cs := hbefore ▸ List.dropWhile_suffix _
      rw [List.getLast?_append, List.getLast?_cons, Option.some_or]

/-- Above the place where a path leads there are folders. -/
theorem resolveFrom_folders {root : Entry} {follow making : Bool} {bound links : Nat}
    {here rest : List String} {place : Place} (hhere : root.HasFolder here.reverse)
    (h : resolveFrom root follow making bound links here rest = .ok place) {q : List String}
    (hq : q <+: place.names) (hne : q ≠ place.names) : root.HasFolder q := by
  have hroot : root.HasFolder [] := hhere.of_prefix List.nil_prefix
  have hlast {here : List String} {name : String} (hhere : root.HasFolder here.reverse)
      (hq : q <+: (name :: here).reverse) (hne : q ≠ (name :: here).reverse) :
      root.HasFolder q := by
    rw [List.reverse_cons] at hq hne
    exact hhere.of_prefix ((List.prefix_concat_iff.1 hq).resolve_left hne)
  fun_induction resolveFrom root follow making bound links here rest with
  | case1 => cases h; exact hhere.of_prefix hq
  | case3 _ _ _ _ _ _ ih => exact ih hhere h
  | case4 _ _ _ _ _ ih =>
    refine ih (hhere.of_prefix ?_) h
    rw [List.reverse_drop]
    exact List.take_prefix ..
  | case7 | case10 | case12 | case16 | case18 => cases h; exact hlast hhere hq hne
  | case9 _ _ _ _ _ _ _ _ _ children hat ih => exact ih ⟨children, hat⟩ h
  | case15 _ _ _ _ _ _ _ _ _ _ _ _ _ ih =>
    refine ih ?_ h
    split
    · exact hroot
    · exact hhere
  | _ => cases h

namespace Disk

variable {d d₁ d₂ : Disk} {path : String} {place : Place} {follow making : Bool}
  {P Q : List String → Prop}

/-! ## Disks with the same files -/

/-- A disk that differs from another one only in the files and links of some places, and by folders
that were made. -/
structure KeepsBut (P : List String → Prop) (d d' : Disk) : Prop where
  here : d'.here = d.here
  folders : ∀ ns, d.root.HasFolder ns → d'.root.HasFolder ns
  leaves : ∀ ns, ¬ P ns → ∀ e, IsLeaf (some e) → (d'.root.at? ns = some e ↔ d.root.at? ns = some e)

/-- Nothing changes on the same disk. -/
theorem KeepsBut.refl (P : List String → Prop) (d : Disk) : KeepsBut P d d :=
  ⟨rfl, fun _ h => h, fun _ _ _ _ => Iff.rfl⟩

/-- Of two changes, what both keep is kept. -/
theorem KeepsBut.trans (h : KeepsBut P d d₁) (h' : KeepsBut Q d₁ d₂) (hP : ∀ ns, P ns → Q ns) :
    KeepsBut Q d d₂ where
  here := h'.here.trans h.here
  folders ns hns := h'.folders ns (h.folders ns hns)
  leaves ns hns e he := (h'.leaves ns hns e he).trans (h.leaves ns (mt (hP ns) hns) e he)

/-- A path that starts from a folder still does. -/
theorem KeepsBut.hasFolder_start (h : KeepsBut P d d₁)
    (hstart : d.root.HasFolder (d.start path).reverse) :
    d₁.root.HasFolder (d₁.start path).reverse := by
  have hsame : d₁.start path = d.start path := by rw [start, start, h.here]
  rw [hsame]
  exact h.folders _ hstart

/-- A disk on which nothing was done since another one but to write the file that a path leads to,
and to make folders. -/
def OnlyWrites (path : String) : Disk → Disk → Prop := fun d d' =>
  KeepsBut (fun ns => ∃ content, d'.resolve true path = .ok ⟨ns, some (.file content)⟩) d d'

/-! ## Operations -/

/-- The parent of a path starts where the path starts. -/
theorem start_parent (d : Disk) {parent : String} (h : parent? path = some parent) :
    d.start parent = d.start path := by
  rw [start, start, isAbsolute_parent h]

/-- Above the place where a path of a disk leads there are folders. -/
theorem hasFolder_above (hstart : d.root.HasFolder (d.start path).reverse)
    (h : d.locate follow making path = .ok place) {q : List String} (hq : q <+: place.names)
    (hne : q ≠ place.names) : d.root.HasFolder q := by
  obtain ⟨-, -, -, hnames⟩ := locate_eq_ok.1 h
  exact resolveFrom_folders hstart hnames hq hne

/-- Making a folder changes no file. -/
theorem makeFolder_keeps (hstart : d.root.HasFolder (d.start path).reverse)
    (h : d.makeFolder path = .ok d₁) : KeepsBut (fun _ => False) d d₁ := by
  cases hp : d.resolve false path with
  | error p => simp [makeFolder, hp, bind, Except.bind] at h
  | ok place =>
    simp only [makeFolder, hp, bind, Except.bind] at h
    cases hentry : place.entry with
    | some e => rw [hentry] at h; cases h
    | none =>
      rw [hentry] at h
      obtain rfl := Except.ok.inj h
      have hnone : d.root.at? place.names = none := (entry_of_locate hp).symm.trans hentry
      have hleaf : IsLeaf (d.root.at? place.names) := hnone ▸ trivial
      refine ⟨rfl, fun ns ⟨_, hns⟩ => Entry.at?_put_folder _ hleaf hns, fun ns _ e he => ?_⟩
      by_cases hbelow : place.names <+: ns
      · obtain ⟨rest, rfl⟩ := hbelow
        rw [Entry.at?_put_append, Entry.at?_append, hnone]
        cases rest with
        | nil => exact iff_of_false he.ne_folder nofun
        | cons n rest => exact iff_of_false nofun nofun
      · exact Entry.at?_put_leaf he (fun q => hasFolder_above hstart hp) hbelow

/-- Making folders changes no file. -/
theorem makeFoldersFrom_keeps {bound : Nat} (hstart : d.root.HasFolder (d.start path).reverse)
    (h : d.makeFoldersFrom bound path = .ok d₁) : KeepsBut (fun _ => False) d d₁ := by
  fun_induction makeFoldersFrom d bound path generalizing d₁ with
  | case1 | case2 | case9 => cases h; exact .refl _ _
  | case3 _ _ _ _ hmake => cases h; exact makeFolder_keeps hstart hmake
  | case6 _ _ _ _ _ hparent _ habove _ hmake ih =>
    cases h
    have habove := ih (d.start_parent hparent ▸ hstart) habove
    exact habove.trans (makeFolder_keeps (habove.hasFolder_start hstart) hmake) fun _ => id
  | case7 _ _ _ _ _ hparent _ habove _ _ _ ih =>
    cases h
    exact ih (d.start_parent hparent ▸ hstart) habove
  | case4 | case5 | case8 | case10 => cases h

/-- Writing a file changes no other one. -/
theorem write_onlyWrites {content : List UInt8} (hstart : d.root.HasFolder (d.start path).reverse)
    (h : d.write false path content = .ok d₁) : OnlyWrites path d d₁ := by
  obtain ⟨place, hp, hleaf, rfl⟩ := write_eq_ok h
  have hleaf' : IsLeaf (d.root.at? place.names) := entry_of_locate hp ▸ hleaf
  refine ⟨rfl, fun ns ⟨_, hns⟩ => Entry.at?_put_folder _ hleaf' hns, fun ns hns e he => ?_⟩
  by_cases hbelow : place.names <+: ns
  · obtain ⟨rest, rfl⟩ := hbelow
    cases rest with
    | nil => exact absurd ⟨content, by simpa using resolve_put hp hleaf content⟩ hns
    | cons n rest =>
      rw [Entry.at?_put_append, Entry.at?_append, hleaf'.bind_at?]
      exact iff_of_false nofun nofun
  · exact Entry.at?_put_leaf he (fun q => hasFolder_above hstart hp) hbelow

end Disk

end Provision.Files
