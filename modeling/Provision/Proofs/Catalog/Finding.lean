import Provision.Proofs.Catalog.Loading

/-!
# Recipes are found by name

A catalog is asked for a recipe by its name or its display name, in any case of the ASCII letters
(`Recipe.CalledLike`). It answers with the first recipe that is called so, in the order of the names
and among recipes of one name in the order of the walk, and with none only if there is no such
recipe (`Catalog.find_named`). So the letter case of what it is asked for does not matter, and a
recipe with which no other one shares a name is found by each of its names.
-/

namespace Provision

open Files (Entry Visit Earlier)

/-! ## Names in any letter case -/

namespace Recipe

variable {r s : Recipe} {name name' : String}

/-- A text is the name or the display name of a recipe, up to the case of ASCII letters. -/
def CalledLike (r : Recipe) (name : String) : Prop :=
  Text.lowered r.name = Text.lowered name ∨ Text.lowered r.displayName = Text.lowered name

instance (r : Recipe) (name : String) : Decidable (r.CalledLike name) :=
  inferInstanceAs (Decidable (_ ∨ _))

/-- A recipe answers to a name if it is called like that. -/
theorem isNamed_iff : r.isNamed name = true ↔ r.CalledLike name := by
  rw [isNamed, Bool.or_eq_true, Text.sameLetters_iff, Text.sameLetters_iff, CalledLike]

/-- The letter case of what a recipe is called does not matter. -/
theorem isNamed_congr (h : Text.sameLetters name name' = true) (r : Recipe) :
    r.isNamed name = r.isNamed name' := by
  rw [Bool.eq_iff_iff, isNamed_iff, isNamed_iff, CalledLike, CalledLike, Text.sameLetters_iff.1 h]

/-- Two recipes share one of their names, up to the case of ASCII letters. -/
def Collides (r s : Recipe) : Prop := s.CalledLike r.name ∨ s.CalledLike r.displayName

instance (r s : Recipe) : Decidable (r.Collides s) := inferInstanceAs (Decidable (_ ∨ _))

/-- A recipe is called by its name. -/
theorem calledLike_name (r : Recipe) : r.CalledLike r.name := .inl rfl

/-- Recipes that are called the same share a name. -/
theorem CalledLike.collides (hr : r.CalledLike name) (hs : s.CalledLike name) : r.Collides s := by
  unfold Collides CalledLike at *
  rcases hr with hr | hr
  · exact .inl (by rwa [hr])
  · exact .inr (by rwa [hr])

end Recipe

namespace Catalog

/-! ## The first recipe of a name -/

/-- What is found in an ordered list comes before everything else that could have been found. -/
theorem first_of_find? {α : Type} {R : α → α → Prop} {p : α → Bool} {l : List α} {a : α}
    (hl : l.Pairwise R) (h : l.find? p = some a) :
    a ∈ l ∧ p a = true ∧ ∀ b ∈ l, p b = true → b = a ∨ R a b := by
  obtain ⟨ha, before, after, rfl, hbefore⟩ := List.find?_eq_some_iff_append.1 h
  refine ⟨List.mem_append_right _ (.head _), ha, fun b hb hpb => ?_⟩
  rcases List.mem_append.1 hb with hb | hb
  · exact absurd hpb (by simpa using hbefore b hb)
  · rcases List.mem_cons.1 hb with rfl | hb
    · exact .inl rfl
    · exact .inr (List.rel_of_pairwise_cons (List.pairwise_append.1 hl).2.1 hb)

variable {c : Catalog} {m : Machine} {children : List (String × Entry)} {rs : List Recipe}

/-- The files that hold a recipe, in the order in which their recipes are looked through. -/
def ranked (c : Catalog) (m : Machine) : List (Visit × Recipe) :=
  (found c m).mergeSort fun p q => p.2.name ≤ q.2.name

/-- The recipes of the ranked files are those that are loaded, in their order. -/
theorem map_snd_ranked : (ranked c m).map Prod.snd = byName ((found c m).map Prod.snd) :=
  List.map_mergeSort fun _ _ _ _ => rfl

/-- The order is that of the names, and of the walk among recipes of one name. -/
theorem pairwise_ranked (h : m.disk.entry? c.root = some (.folder children))
    (hnames : (Entry.folder children).NamesDiffer) : (ranked c m).Pairwise fun p q =>
      p.2.name < q.2.name ∨ p.2.name = q.2.name ∧ Earlier p.1.names q.1.names :=
  Text.pairwise_mergeSort_key (fun p => p.2.name) (pairwise_found h hnames)

/-- The ranked files are those of the tree that hold a recipe. -/
theorem mem_ranked_iff (h : m.disk.entry? c.root = some (.folder children)) {v : Visit}
    {r : Recipe} : (v, r) ∈ ranked c m ↔
      (Entry.folder children).Leads v.names v.entry ∧ Holds c.root v r := by
  rw [ranked, List.mem_mergeSort, mem_found_iff h]

/-- The recipes that are loaded are those that files of the catalog hold. -/
theorem mem_load_iff (hload : (c.load m).value = .ok rs)
    (h : m.disk.entry? c.root = some (.folder children)) {r : Recipe} :
    r ∈ rs ↔ c.Offers children r := by
  rw [(eq_of_load hload).2, byName, List.mem_mergeSort, mem_recipes_iff h]

/-- Nothing is found just if no recipe of the catalog is called so. -/
theorem find_eq_none_iff (hload : (c.load m).value = .ok rs)
    (h : m.disk.entry? c.root = some (.folder children)) (name : String) :
    (c.find name m).value = .ok none ↔ ∀ r, c.Offers children r → ¬ r.CalledLike name := by
  rw [find_eq_of_load hload, Except.ok.injEq, List.find?_eq_none]
  simp only [mem_load_iff hload h, Recipe.isNamed_iff]

/-- If a recipe of the catalog is called so, the first one is found. -/
theorem find_eq_some (hload : (c.load m).value = .ok rs)
    (h : m.disk.entry? c.root = some (.folder children))
    (hnames : (Entry.folder children).NamesDiffer) {name : String} {r₀ : Recipe}
    (hr₀ : c.Offers children r₀) (hname : r₀.CalledLike name) :
    ∃ (v : Visit) (r : Recipe), (c.find name m).value = .ok (some r) ∧
      (Entry.folder children).Leads v.names v.entry ∧ Holds c.root v r ∧ r.CalledLike name ∧
      ∀ (w : Visit) (s : Recipe), (Entry.folder children).Leads w.names w.entry →
        Holds c.root w s → s.CalledLike name →
        w = v ∨ r.name < s.name ∨ r.name = s.name ∧ Earlier v.names w.names := by
  have hrs : rs = (ranked c m).map Prod.snd := (eq_of_load hload).2.trans map_snd_ranked.symm
  have hsome : ((ranked c m).find? fun p => p.2.isNamed name).isSome = true := by
    obtain ⟨v₀, hv₀⟩ := hr₀
    exact List.find?_isSome.2 ⟨(v₀, r₀), (mem_ranked_iff h).2 hv₀, Recipe.isNamed_iff.2 hname⟩
  obtain ⟨⟨v, r⟩, hfind⟩ := Option.isSome_iff_exists.1 hsome
  obtain ⟨hmem, hnamed, hfirst⟩ := first_of_find? (pairwise_ranked h hnames) hfind
  obtain ⟨hleads, hholds⟩ := (mem_ranked_iff h).1 hmem
  refine ⟨v, r, ?_, hleads, hholds, Recipe.isNamed_iff.1 hnamed, fun w s hw hs hsname => ?_⟩
  · rw [find_eq_of_load hload, hrs, List.find?_map]
    exact congrArg (fun found => Except.ok (Option.map Prod.snd found)) hfind
  · exact (hfirst (w, s) ((mem_ranked_iff h).2 ⟨hw, hs⟩) (Recipe.isNamed_iff.2 hsname)).imp_left
      (congrArg Prod.fst)

/-- A recipe with which no other one shares a name is found by each of its names. -/
theorem find_of_unshared (hload : (c.load m).value = .ok rs)
    (h : m.disk.entry? c.root = some (.folder children))
    (hnames : (Entry.folder children).NamesDiffer) {name : String} {r : Recipe}
    (hr : c.Offers children r) (hunshared : ∀ s, c.Offers children s → s ≠ r → ¬ r.Collides s)
    (hname : r.CalledLike name) : (c.find name m).value = .ok (some r) := by
  obtain ⟨v, s, hfind, hleads, hholds, hs, -⟩ := find_eq_some hload h hnames hr hname
  rw [hfind]
  by_cases hsr : s = r
  · rw [hsr]
  · exact absurd (hname.collides hs) (hunshared s ⟨v, hleads, hholds⟩ hsr)

/-- Lookup by name is sound and complete, and blind to letter case. Nothing is found just if no
recipe of the catalog is called so, and otherwise the first recipe that is called so, in the order
of the names and then of the walk. What differs only in the case of ASCII letters is answered the
same. A recipe with which no other one shares a name is found by each of its names in each letter
case; so where no two recipes share one, each recommended recipe is found again by its name. -/
theorem find_named (hload : (c.load m).value = .ok rs)
    (h : m.disk.entry? c.root = some (.folder children))
    (hnames : (Entry.folder children).NamesDiffer) :
    (∀ name, (c.find name m).value = .ok none ↔
      ∀ r, c.Offers children r → ¬ r.CalledLike name) ∧
    (∀ name r₀, c.Offers children r₀ → r₀.CalledLike name →
      ∃ (v : Visit) (r : Recipe), (c.find name m).value = .ok (some r) ∧
        (Entry.folder children).Leads v.names v.entry ∧ Holds c.root v r ∧ r.CalledLike name ∧
        ∀ (w : Visit) (s : Recipe), (Entry.folder children).Leads w.names w.entry →
          Holds c.root w s → s.CalledLike name →
          w = v ∨ r.name < s.name ∨ r.name = s.name ∧ Earlier v.names w.names) ∧
    (∀ name name', Text.sameLetters name name' = true → c.find name = c.find name') ∧
    (∀ r, c.Offers children r → (∀ s, c.Offers children s → s ≠ r → ¬ r.Collides s) →
      ∀ name, Text.sameLetters name r.name = true ∨ Text.sameLetters name r.displayName = true →
        (c.find name m).value = .ok (some r)) ∧
    ((∀ r s, c.Offers children r → c.Offers children s → s ≠ r → ¬ r.Collides s) →
      ∀ host recommended, (c.recommend host m).value = .ok recommended →
        ∀ r ∈ recommended, (c.find r.name m).value = .ok (some r)) := by
  refine ⟨find_eq_none_iff hload h, fun name r₀ => find_eq_some hload h hnames,
    fun name name' hsame => ?_, fun r hr hunshared name hname => ?_,
    fun hunshared host recommended hrecommend r hr => ?_⟩
  · have hnamed : (fun r : Recipe => r.isNamed name) = fun r => r.isNamed name' :=
      funext (Recipe.isNamed_congr hsame)
    rw [find, find, hnamed]
  · refine find_of_unshared hload h hnames hr hunshared ?_
    exact hname.imp (fun hn => (Text.sameLetters_iff.1 hn).symm)
      fun hn => (Text.sameLetters_iff.1 hn).symm
  · have hoffers : c.Offers children r := by
      refine (mem_load_iff hload h).1 ?_
      rw [recommend_eq_of_load hload] at hrecommend
      cases host with
      | none =>
        cases hrecommend
        cases hr
      | some host =>
        cases hrecommend
        exact (List.mem_filter.1 hr).1
    exact find_of_unshared hload h hnames hoffers (fun s => hunshared r s hoffers)
      r.calledLike_name

/-- Of two recipes each is found by its name in capitals, and nothing by another name. -/
theorem find_named_capitals :
    let c : Catalog := ⟨slashed 0⟩
    let children := [("x.yml", plainFile "a"), ("y.yml", plainFile "b")]
    let m := machineWith children
    (∃ rs, (c.load m).value = .ok rs) ∧ m.disk.entry? c.root = some (.folder children) ∧
      (Entry.folder children).NamesDiffer ∧ c.Offers children (plainRecipe "a") ∧
      (∀ s, c.Offers children s → s ≠ plainRecipe "a" → ¬ (plainRecipe "a").Collides s) ∧
      (c.find "A" m).value = .ok (some (plainRecipe "a")) ∧ (c.find "ab" m).value = .ok none := by
  intro c children m
  have hfiles : ∀ child ∈ children, child.2.isFile = true := by
    simp [children, plainFile, Entry.isFile]
  have hwalk : c.Walkable m children := walkable_files (by decide) (by decide) hfiles
  have hload := hwalk.load_eq.1
  have hxa : Holds "catalog" ⟨["x.yml"], plainFile "a"⟩ (plainRecipe "a") :=
    ⟨isRecipeFile_iff.1 rfl, by decide +kernel, valid_a⟩
  have hyb : Holds "catalog" ⟨["y.yml"], plainFile "b"⟩ (plainRecipe "b") :=
    ⟨isRecipeFile_iff.1 rfl, by decide +kernel, valid_b⟩
  have hheld := holds_iff_mem "catalog" [(⟨["x.yml"], plainFile "a"⟩, plainRecipe "a"),
    (⟨["y.yml"], plainFile "b"⟩, plainRecipe "b")] hfiles (by simp [children, hxa, hyb])
    (by simp [children])
  have hoffers (r : Recipe) : c.Offers children r ↔ r = plainRecipe "a" ∨ r = plainRecipe "b" :=
    (offers_iff_of_held hheld).trans (by simp)
  have ha : c.Offers children (plainRecipe "a") := (hoffers _).2 (.inl rfl)
  have hunshared : ∀ s, c.Offers children s → s ≠ plainRecipe "a" →
      ¬ (plainRecipe "a").Collides s := by
    intro s hs hne
    rw [((hoffers s).1 hs).resolve_left hne]
    decide
  obtain ⟨hnone, -, -, hfound, -⟩ := find_named hload hwalk.folder hwalk.namesDiffer
  refine ⟨⟨_, hload⟩, hwalk.folder, hwalk.namesDiffer, ha, hunshared,
    hfound _ ha hunshared "A" (.inl (by decide)), (hnone "ab").2 fun r hr => ?_⟩
  rcases (hoffers r).1 hr with rfl | rfl <;> decide

end Catalog

end Provision
