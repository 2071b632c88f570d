import Provision.Files.Walk
import Provision.Proofs.Files.Resolving

/-!
# What a walk visits

`Entry.Leads` says where names lead from an entry through the folders below it, and a walk visits
just what they lead to down to its depth (`mem_walk_iff`). No link is on the way, because links have
nothing below them. Only at its start does a walk follow one: it begins in every folder that a path
leads to, through links or not (`Disk.walkStart?_eq_folder`).
-/

namespace Provision.Files

namespace Entry

/-- Names lead from an entry to another one, through folders only. -/
inductive Leads : Entry → List String → Entry → Prop
  | here (e : Entry) : Leads e [] e
  | into {children : List (String × Entry)} {name : String} {c : Entry} {names : List String}
      {e : Entry} : (name, c) ∈ children → Leads c names e →
        Leads (folder children) (name :: names) e

/-- The visits to the entries of a folder are those to each of them. -/
theorem mem_walkChildren {v : Visit} {depth : Nat} {before : List String}
    {children : List (String × Entry)} : v ∈ walkChildren depth before children ↔
      ∃ c ∈ children, v ∈ c.2.walk depth (before ++ [c.1]) := by
  induction children with
  | nil => simp [walkChildren]
  | cons c children ih =>
    simp only [walkChildren, List.mem_append, ih, List.mem_cons, or_and_right, exists_or,
      exists_eq_left]

/-- A walk visits the entry itself and, one level less deep, what is below its children. -/
theorem mem_walk_step {v : Visit} {e : Entry} {depth : Nat} {before : List String} :
    v ∈ e.walk depth before ↔ v = ⟨before, e⟩ ∨
      ∃ children n, e = folder children ∧ depth = n + 1 ∧
        ∃ c ∈ children, v ∈ c.2.walk n (before ++ [c.1]) := by
  cases e with
  | file | link | closedFile | closedFolder => simp [walk]
  | folder children => cases depth <;> simp [walk, mem_walkChildren]

/-- A walk visits what names lead to, if they are not more than its depth. -/
theorem mem_walk_iff {v : Visit} {e : Entry} {depth : Nat} {before : List String} :
    v ∈ e.walk depth before ↔
      ∃ names, v.names = before ++ names ∧ names.length ≤ depth ∧ e.Leads names v.entry := by
  constructor
  · intro h
    induction depth generalizing e before with
    | zero =>
      obtain rfl | ⟨_, _, -, ⟨⟩, -⟩ := mem_walk_step.1 h
      exact ⟨[], (List.append_nil _).symm, Nat.le_refl _, .here e⟩
    | succ n ih =>
      obtain rfl | ⟨children, _, rfl, ⟨⟩, ⟨name, c⟩, hc, hv⟩ := mem_walk_step.1 h
      · exact ⟨[], (List.append_nil _).symm, Nat.zero_le _, .here e⟩
      · obtain ⟨names, hnames, hlength, hleads⟩ := ih hv
        refine ⟨name :: names, ?_, Nat.succ_le_succ hlength, .into hc hleads⟩
        rw [hnames, List.append_assoc, List.singleton_append]
  · rintro ⟨names, hnames, hlength, hleads⟩
    obtain ⟨vnames, ventry⟩ := v
    dsimp only at hnames hleads
    induction hleads generalizing before depth with
    | here e => exact mem_walk_step.2 (.inl (by rw [hnames, List.append_nil]))
    | into hc _ ih =>
      obtain ⟨n, rfl⟩ := Nat.exists_eq_add_one_of_ne_zero (Nat.ne_zero_of_lt hlength)
      have hbelow := ih (Nat.le_of_succ_le_succ hlength) (hnames.trans (List.append_cons ..))
      exact mem_walk_step.2 (.inr ⟨_, n, rfl, rfl, _, hc, hbelow⟩)

/-- No child is higher than the highest of them. -/
theorem height_le_childrenHeight {children : List (String × Entry)} {name : String} {c : Entry}
    (h : (name, c) ∈ children) : c.height ≤ childrenHeight children := by
  induction children with
  | nil => cases h
  | cons d children ih =>
    rw [childrenHeight]
    cases h with
    | head => exact Nat.le_max_left ..
    | tail _ h => exact Nat.le_trans (ih h) (Nat.le_max_right ..)

/-- Nothing is deeper below an entry than its height. -/
theorem Leads.length_le_height {e f : Entry} {names : List String} (h : e.Leads names f) :
    names.length ≤ e.height := by
  induction h with
  | here => exact Nat.zero_le _
  | into hc _ ih => exact Nat.succ_le_succ (Nat.le_trans ih (height_le_childrenHeight hc))

end Entry

/-- Names lead through folders that can be opened if the paths of all these are short enough. -/
theorem opensAlong_iff {path : String} {names : List String} : opensAlong path names = true ↔
    ∀ above, above <+: names → above ≠ names →
      (above.foldl join path).utf8ByteSize ≤ maxPath := by
  induction names generalizing path with
  | nil => simp [opensAlong]
  | cons name names ih =>
    rw [opensAlong, Bool.and_eq_true, decide_eq_true_eq, ih]
    constructor
    · rintro ⟨hpath, hbelow⟩ above habove hne
      cases above with
      | nil => exact hpath
      | cons n above =>
        obtain ⟨rfl, hrest⟩ := List.cons_prefix_cons.1 habove
        exact hbelow above hrest fun h => hne (h ▸ rfl)
    · intro h
      refine ⟨h [] List.nil_prefix nofun, fun above habove hne => ?_⟩
      exact h (name :: above) (List.cons_prefix_cons.2 ⟨rfl, habove⟩) (by simpa using hne)

/-! ## Where a walk begins -/

namespace Disk

variable {d : Disk} {path : String}

/-- A walk begins in a folder if the path leads to it. -/
theorem walkStart?_eq_folder {children : List (String × Entry)} :
    d.walkStart? path = some (.folder children) ↔ d.entry? path = some (.folder children) := by
  constructor
  · intro h
    unfold walkStart? at h
    split at h
    · cases h
    · next place hplace =>
      split at h
      · split at h
        · next hentry =>
          rwa [hentry]
        · cases h
      · obtain ⟨ns, entry⟩ := place
        cases h
        exact entry?_eq_some.2 ⟨ns, resolve_followed hplace nofun⟩
  · intro h
    obtain ⟨ns, hplace⟩ := entry?_eq_some.1 h
    unfold walkStart?
    rcases d.resolve_follow path with hsame | ⟨names, target, hlink⟩
    · simp only [hsame, hplace]
    · simp only [hlink, h]

/-- A walk only begins at a file that is at the end of the path itself. -/
theorem isFile_of_walkStart? {e : Entry} (h : d.walkStart? path = some e)
    (hfile : e.isFile = true) : d.isFile path = true ∧ d.isLink path = false := by
  have hno (target : String) : e ≠ .link target := by
    rintro rfl
    cases hfile
  unfold walkStart? at h
  split at h
  · cases h
  · next place hplace =>
    obtain ⟨ns, entry⟩ := place
    split at h
    · split at h
      · cases h
        cases hfile
      · exact absurd (Option.some.inj h).symm (hno _)
    · obtain rfl : entry = some e := h
      have hentry := entry?_eq_some.2
        ⟨ns, resolve_followed hplace fun target ht => hno target (Option.some.inj ht)⟩
      refine ⟨isFile_iff.2 ⟨e, hentry, hfile⟩, ?_⟩
      rw [isLink, hplace]
      cases e with
      | link target => exact absurd rfl (hno target)
      | file | folder | closedFile | closedFolder => rfl

/-- A walk visits what names lead to from its start, if they are not more than its depth. -/
theorem mem_walk_iff {v : Visit} {depth : Option Nat} :
    v ∈ d.walk false depth path ↔ ∃ e, d.walkStart? path = some e ∧
      (∀ n, depth = some n → v.names.length ≤ n) ∧ e.Leads v.names v.entry := by
  unfold walk
  cases hstart : d.walkStart? path with
  | none => simp
  | some e =>
    simp only [Bool.false_eq_true, if_false, Entry.mem_walk_iff, List.nil_append,
      Option.some.injEq, exists_eq_left']
    refine and_congr_left fun hleads => ?_
    cases depth with
    | none => simpa using hleads.length_le_height
    | some n => simp

end Disk

end Provision.Files
