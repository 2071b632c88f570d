import Provision.Files.Tree
import Provision.Proofs.Text.Utf8

/-!
# Files are read back as they were written

A file that was written at a path is found at that path (`Disk.read_write`). The tree changes only
where the path leads. The folders and links on the way there stay folders and links
(`Entry.at?_put_folder`, `Entry.at?_put_other`), because the place is not below any of the links:
all that is above it was walked through as a folder (`resolveFrom_above`). So the path is walked in
the new tree just as in the old one, and at its end is the file (`resolveFrom_put`).
-/

namespace Provision.Files

/-! ## Trees -/

namespace Entry

/-- A child that was put is found under its name, and under other names what was there. -/
theorem find?_putChild (name : String) (e : Entry) (children : List (String × Entry))
    (n : String) : (putChild name e children).find? (fun c => c.1 = n) =
      if name = n then some (name, e) else children.find? (fun c => c.1 = n) := by
  induction children with
  | nil => by_cases h : name = n <;> simp [putChild, h]
  | cons c cs ih =>
    by_cases hc : c.1 = name
    · by_cases hn : name = n <;> simp [putChild, hc, hn]
    · rw [putChild, if_neg hc, List.find?_cons, List.find?_cons, ih]
      by_cases hs : c.1 = n
      · have hn : name ≠ n := fun h => hc (hs.trans h.symm)
        simp [hs, hn]
      · simp [hs]

/-- The children of a folder in which one of them was put. -/
theorem child?_putChild (name : String) (e : Entry) (children : List (String × Entry))
    (n : String) : (folder (putChild name e children)).child? n =
      if name = n then some e else (folder children).child? n := by
  simp only [child?, find?_putChild]
  split <;> rfl

/-- What is put somewhere is there. -/
theorem at?_put_self (t : Entry) (ns : List String) (e : Entry) : (t.put ns e).at? ns = some e := by
  induction ns generalizing t with
  | nil => rfl
  | cons n ns ih =>
    cases t with
    | folder children => simp [put, at?, child?_putChild, ih]
    | file | link | closedFile | closedFolder => simp [put, at?, child?, ih]

/-- Below what is no folder there is nothing. -/
theorem at?_cons_eq_some {t x : Entry} {n : String} {ns : List String}
    (h : t.at? (n :: ns) = some x) :
    ∃ children u, t = folder children ∧ t.child? n = some u ∧ u.at? ns = some x := by
  rw [at?, Option.bind_eq_some_iff] at h
  obtain ⟨u, hu, hx⟩ := h
  cases t with
  | folder children => exact ⟨children, u, rfl, hu, hx⟩
  | file | link | closedFile | closedFolder => cases hu

/-- An entry that is no folder. -/
def IsLeaf : Option Entry → Prop
  | some (folder _) => False
  | _ => True

section
variable {ns : List String} (e : Entry)

/-- A folder stays a folder when something is put where no folder is. -/
theorem at?_put_folder {t : Entry} {ps : List String} {children : List (String × Entry)}
    (hN : IsLeaf (t.at? ns)) (hp : t.at? ps = some (folder children)) :
    ∃ children', (t.put ns e).at? ps = some (folder children') := by
  induction ps generalizing t ns with
  | nil =>
    cases hp
    cases ns with
    | nil => exact hN.elim
    | cons n ns => exact ⟨_, rfl⟩
  | cons p ps ih =>
    obtain ⟨cs, u, rfl, hu, hx⟩ := at?_cons_eq_some hp
    cases ns with
    | nil => exact hN.elim
    | cons n ns =>
      rw [put, at?, child?_putChild]
      by_cases h : n = p
      · subst h
        rw [at?, hu] at hN
        simpa [hu] using ih hN hx
      · exact ⟨children, by simpa [h, hu] using hx⟩

/-- What is not above a place stays as it is when something is put there where no folder is. -/
theorem at?_put_other {t x : Entry} {ps : List String} (hN : IsLeaf (t.at? ns))
    (hp : t.at? ps = some x) (h : ¬ ps <+: ns) : (t.put ns e).at? ps = some x := by
  induction ps generalizing t ns with
  | nil => exact absurd List.nil_prefix h
  | cons p ps ih =>
    obtain ⟨cs, u, rfl, hu, hx⟩ := at?_cons_eq_some hp
    cases ns with
    | nil => exact hN.elim
    | cons n ns =>
      rw [put, at?, child?_putChild]
      by_cases hn : n = p
      · subst hn
        rw [at?, hu] at hN
        simpa [hu] using ih hN hx fun hps => h (List.cons_prefix_cons.2 ⟨rfl, hps⟩)
      · simpa [hn, hu] using hx

end

end Entry

/-! ## Resolving a path -/

section
variable {root : Entry} {bound links : Nat} {here rest : List String} {place : Place}

/-- What a path leads to is what the tree has there. -/
theorem resolveFrom_entry {follow making : Bool}
    (h : resolveFrom root follow making bound links here rest = .ok place) :
    place.entry = root.at? place.names := by
  fun_induction resolveFrom root follow making bound links here rest with
  | case1 => cases h; rfl
  | case7 _ _ _ _ _ _ _ _ _ hat => cases h; exact hat.symm
  | case10 _ _ _ _ _ _ _ _ _ _ hat | case12 _ _ _ _ _ _ _ _ _ _ hat
  | case16 _ _ _ _ _ _ _ _ _ _ hat | case18 _ _ _ _ _ _ _ _ _ _ hat => cases h; exact hat.symm
  | case3 _ _ _ _ _ _ ih => exact ih h
  | case4 _ _ _ _ _ ih => exact ih h
  | case9 _ _ _ _ _ _ _ _ _ _ _ ih => exact ih h
  | case15 _ _ _ _ _ _ _ _ _ _ _ _ _ ih => exact ih h
  | _ => cases h

/-- One more name leads below no link if it is none itself. -/
theorem above_cons {q : List String} {name : String} {e : Option Entry}
    (hat : root.at? (name :: here).reverse = e) (hn : ∀ t, e ≠ some (.link t))
    (hq : q <+: (name :: here).reverse) :
    q <+: here.reverse ∨ ∀ t, root.at? q ≠ some (.link t) := by
  rw [List.reverse_cons] at hat hq
  rcases List.prefix_concat_iff.1 hq with rfl | hq
  · exact .inr (hat ▸ hn)
  · exact .inl hq

/-- A path that is followed to its end leads below no link, except where it started. -/
theorem resolveFrom_above {making : Bool}
    (h : resolveFrom root true making bound links here rest = .ok place) {q : List String}
    (hq : q <+: place.names) : q <+: here.reverse ∨ ∀ t, root.at? q ≠ some (.link t) := by
  fun_induction resolveFrom root true making bound links here rest with
  | case1 => cases h; exact .inl hq
  | case3 _ _ _ _ _ _ ih => exact ih h
  | case4 _ here _ _ _ ih =>
    refine (ih h).imp_left fun hp => hp.trans ?_
    rw [List.reverse_drop]
    exact List.take_prefix ..
  | case7 _ _ _ _ _ _ _ _ _ hat => cases h; exact above_cons hat nofun hq
  | case10 _ _ _ _ _ _ _ _ _ _ hat | case16 _ _ _ _ _ _ _ _ _ _ hat
  | case18 _ _ _ _ _ _ _ _ _ _ hat => cases h; exact above_cons hat nofun hq
  | case9 _ _ _ _ _ _ _ _ _ _ hat ih =>
    rcases ih h with hp | hp
    · exact above_cons hat nofun hp
    · exact .inr hp
  | case12 _ _ _ _ _ _ _ _ _ _ _ hf => simp at hf
  | case15 here _ _ _ _ _ _ _ target _ _ _ _ ih =>
    refine (ih h).imp_left fun hp => hp.trans ?_
    split
    · exact List.nil_prefix
    · exact List.prefix_rfl
  | _ => cases h

/-- Where a file can be made and no folder is, the path leads to the file after it was made there.
The walk is the same: a folder on it stays one, and no link on it is above the place. -/
theorem resolveFrom_put (h : resolveFrom root true true bound links here rest = .ok place)
    (hleaf : Entry.IsLeaf (root.at? place.names)) (content : List UInt8) :
    resolveFrom (root.put place.names (.file content)) true false bound links here rest =
      .ok ⟨place.names, some (.file content)⟩ := by
  fun_induction resolveFrom root true true bound links here rest with
  | case1 =>
    cases h
    rw [resolveFrom, Entry.at?_put_self]
  | case3 _ _ _ _ _ hs ih => rw [resolveFrom, if_pos hs, ih h]
  | case4 _ _ _ _ hs ih => rw [resolveFrom, if_neg hs, if_pos rfl, ih h]
  | case7 _ _ _ rest _ hs hup _ hlen _ hrest =>
    cases h
    have hnil : rest = [] := by simpa using hrest
    rw [resolveFrom, if_neg hs, if_neg hup, if_neg (by simp), if_neg hlen, Entry.at?_put_self,
      hnil]
    rfl
  | case9 _ _ _ _ _ hs hup _ hlen _ hat ih =>
    obtain ⟨children, hput⟩ := Entry.at?_put_folder (.file content) hleaf hat
    rw [resolveFrom, if_neg hs, if_neg hup, if_neg (by simp), if_neg hlen, hput]
    exact ih h
  | case10 _ _ _ rest _ hs hup _ hlen _ _ hrest | case16 _ _ _ rest _ hs hup _ hlen _ _ hrest =>
    cases h
    rw [resolveFrom, if_neg hs, if_neg hup, if_neg (by simp), if_neg hlen, Entry.at?_put_self]
    simp [hrest]
  | case18 _ _ _ rest _ hs hup hmade hlen _ _ hrest =>
    cases h
    -- No slash comes after the last name of a file that is made.
    have hnil : rest = [] := by simpa [hrest] using hmade
    rw [resolveFrom, if_neg hs, if_neg hup, if_neg (by simp), if_neg hlen, Entry.at?_put_self]
    simp [hnil]
  | case12 _ _ _ _ _ _ _ _ _ _ _ hf => simp at hf
  | case15 here name _ _ hs hup _ hlen target hat hf _ ht ih =>
    -- The walk goes on from the folder of the link, so it cannot end below the link.
    have hn : ¬ (name :: here).reverse <+: place.names := by
      intro hp
      rcases resolveFrom_above h hp with hq | hq
      · have hlength := hq.length_le
        simp only [List.length_reverse, List.length_cons] at hlength
        split at hlength
        · simp at hlength
        · omega
      · exact hq target hat
    rw [resolveFrom, if_neg hs, if_neg hup, if_neg (by simp), if_neg hlen,
      Entry.at?_put_other _ hleaf hat hn]
    simp only [hf, if_neg ht]
    exact ih h
  | _ => cases h

end

/-! ## Disks -/

namespace Disk

variable {d : Disk} {path : String} {place : Place} {follow making : Bool}

/-- Where a path starts: at the root or in the current folder. -/
def start (d : Disk) (path : String) : List String := if isAbsolute path then [] else d.here.reverse

/-- How many names may be gone along. -/
def bound : Nat := (maxLinks + 2) * (maxPath + 2)

/-- A path leads somewhere if the system takes it and its names lead there. -/
theorem locate_eq_ok : d.locate follow making path = .ok place ↔
    path ≠ "" ∧ '\x00' ∉ path.toList ∧ path.utf8ByteSize ≤ maxPath ∧
      resolveFrom d.root follow making bound maxLinks (d.start path) (names path) = .ok place := by
  unfold locate
  by_cases hempty : path = ""
  · simp [hempty]
  by_cases hzero : '\x00' ∈ path.toList
  · simp [hempty, hzero]
  by_cases hlength : maxPath < path.utf8ByteSize
  · simp [hempty, hzero, hlength, Nat.not_le_of_lt hlength]
  · simp [hempty, hzero, hlength, Nat.le_of_not_lt, start, bound]

/-- What is located is at its place in the tree. -/
theorem entry_of_locate (h : d.locate follow making path = .ok place) :
    place.entry = d.root.at? place.names := by
  obtain ⟨-, -, -, hnames⟩ := locate_eq_ok.1 h
  exact resolveFrom_entry hnames

/-- Where a file can be made and no folder is, the path leads to the file after it was made. -/
theorem resolve_put (h : d.locate true true path = .ok place) (hleaf : Entry.IsLeaf place.entry)
    (content : List UInt8) :
    resolve { d with root := d.root.put place.names (.file content) } true path =
      .ok ⟨place.names, some (.file content)⟩ := by
  obtain ⟨hempty, hzero, hlength, hnames⟩ := locate_eq_ok.1 h
  have hput := resolveFrom_put hnames (entry_of_locate h ▸ hleaf) content
  exact locate_eq_ok.2 ⟨hempty, hzero, hlength, hput⟩

/-- Where a file can be made and no folder is, writing makes the file there. -/
theorem write_eq_ok {d' : Disk} {content : List UInt8}
    (h : d.write false path content = .ok d') :
    ∃ place, d.locate true true path = .ok place ∧ Entry.IsLeaf place.entry ∧
      d' = { d with root := d.root.put place.names (.file content) } := by
  cases hp : d.locate true true path with
  | error e => simp [write, hp, bind, Except.bind] at h
  | ok place =>
    refine ⟨place, rfl, ?_⟩
    simp only [write, hp, bind, Except.bind] at h
    match he : place.entry with
    | some (.folder _) | some (.closedFile _) | some (.closedFolder _) => rw [he] at h; cases h
    | some (.file _) | some (.link _) | none => rw [he] at h; cases h; exact ⟨trivial, rfl⟩

/-- What was written to a file is read from it. -/
theorem read_write {d' : Disk} {content : List UInt8}
    (h : d.write false path content = .ok d') : d'.read path = .ok content := by
  obtain ⟨place, hp, hleaf, rfl⟩ := write_eq_ok h
  rw [read, resolve_put hp hleaf content]
  rfl

end Disk

/-- Bytes have a text in them just if they write it. -/
theorem textOf_eq_ok {bytes : List UInt8} {s : String} :
    textOf bytes = .ok s ↔ bytes = Text.bytesOf s := by
  rw [← Text.ofBytes?_eq_some, textOf]
  cases Text.ofBytes? bytes <;> simp

/-- A text that was written to a file is read from it. -/
theorem Disk.readText_write {d d' : Disk} {path text : String}
    (h : d.write false path (Text.bytesOf text) = .ok d') : d'.readText path = .ok text := by
  rw [Disk.readText, Disk.read_write h]
  exact textOf_eq_ok.2 rfl

end Provision.Files
