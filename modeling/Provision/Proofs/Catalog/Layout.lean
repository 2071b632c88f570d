import Provision.Proofs.Catalog.Loading

/-!
# Answers do not depend on the layout

Where the files of a catalog lie, what they are called and what lies beside them decides in which
order their recipes are found. If no two of these have the same name, sorting by name leaves nothing
of that order (`Catalog.pairwise_byName`), so catalogs with the same recipes give the same answers
(`Catalog.answers_of_same_recipes`).
-/

namespace Provision.Catalog

open Files (Entry Visit Earlier)

variable {c c' : Catalog} {m m' : Machine} {children children' : List (String × Entry)}

/-- No two files of a catalog hold recipes of the same name. -/
def NamesDistinct (c : Catalog) (children : List (String × Entry)) : Prop :=
  ∀ (v w : Visit) (r s : Recipe), (Entry.folder children).Leads v.names v.entry →
    Holds c.root v r → (Entry.folder children).Leads w.names w.entry → Holds c.root w s →
    r.name = s.name → v.names = w.names

/-- The recipes of a catalog rise by name if no two files hold recipes of the same name. -/
theorem pairwise_byName (h : c.Walkable m children) (hdistinct : c.NamesDistinct children) :
    (byName ((found c m).map Prod.snd)).Pairwise fun r s => r.name < s.name := by
  have hne : ((found c m).map Prod.snd).Pairwise fun r s => r.name ≠ s.name := by
    refine List.pairwise_map.2 ?_
    refine (pairwise_found h.folder h.namesDiffer).imp_of_mem fun {p q} hp hq hpq hname => ?_
    obtain ⟨hleads, hholds⟩ := (mem_found_iff h.folder).1 hp
    obtain ⟨hleads', hholds'⟩ := (mem_found_iff h.folder).1 hq
    rw [hdistinct p.1 q.1 p.2 q.2 hleads hholds hleads' hholds' hname] at hpq
    exact hpq.irrefl
  refine (Text.pairwise_mergeSort_key Recipe.name hne).imp fun hrs => ?_
  exact hrs.resolve_right fun hsame => hsame.2 hsame.1

/-- Catalogs with the same recipes load the same list. -/
theorem byName_congr (h : c.Walkable m children) (hdistinct : c.NamesDistinct children)
    (h' : c'.Walkable m' children') (hdistinct' : c'.NamesDistinct children')
    (hsame : ∀ r, c.Offers children r ↔ c'.Offers children' r) :
    byName ((found c m).map Prod.snd) = byName ((found c' m').map Prod.snd) := by
  refine Text.eq_of_pairwise (fun _ _ => String.lt_asymm) (pairwise_byName h hdistinct)
    (pairwise_byName h' hdistinct') fun r => ?_
  rw [byName, byName, List.mem_mergeSort, List.mem_mergeSort, mem_recipes_iff h.folder,
    mem_recipes_iff h'.folder]
  exact hsame r

/-- What a catalog answers depends on its recipes only. However two trees are laid out, whatever
their files are called and whatever else is in them: if their files hold the same recipes, no two of
which have the same name, then each name is answered the same, also where display names are the
same, and the same recipes are recommended in the same order for each host. -/
theorem answers_of_same_recipes (h : c.Walkable m children)
    (hdistinct : c.NamesDistinct children) (h' : c'.Walkable m' children')
    (hdistinct' : c'.NamesDistinct children')
    (hsame : ∀ r, c.Offers children r ↔ c'.Offers children' r) :
    (∀ name, ∃ answer, (c.find name m).value = .ok answer ∧
      (c'.find name m').value = .ok answer) ∧
    ∀ host, ∃ answer, (c.recommend host m).value = .ok answer ∧
      (c'.recommend host m').value = .ok answer := by
  have hvalue := h.load_eq.1
  have hvalue' := h'.load_eq.1
  rw [← byName_congr h hdistinct h' hdistinct' hsame] at hvalue'
  exact answers_of_load hvalue hvalue'

/-- If it is known which files hold a recipe, only their recipes need to be compared. -/
theorem namesDistinct_of_held {known : List (Visit × Recipe)}
    (h : ∀ v r, (Entry.folder children).Leads v.names v.entry ∧ Holds c.root v r ↔
      (v, r) ∈ known)
    (hknown : ∀ p ∈ known, ∀ q ∈ known, p.2.name = q.2.name → p.1.names = q.1.names) :
    c.NamesDistinct children := by
  intro v w r s hv hr hw hs
  exact hknown (v, r) ((h v r).1 ⟨hv, hr⟩) (w, s) ((h w s).1 ⟨hw, hs⟩)

/-- Two recipes change places, and a broken file comes between them. -/
theorem answers_of_swapped_files :
    let c : Catalog := ⟨slashed 0⟩
    let one := [("x.yml", plainFile "a"), ("y.yml", plainFile "b")]
    let two := [("x.yml", plainFile "b"), ("y.YAML", Entry.file [0xFF]), ("z.yml", plainFile "a")]
    c.Walkable (machineWith one) one ∧ c.NamesDistinct one ∧
      c.Walkable (machineWith two) two ∧ c.NamesDistinct two ∧
      (∀ r, c.Offers one r ↔ r = plainRecipe "a" ∨ r = plainRecipe "b") ∧
      (∀ r, c.Offers two r ↔ r = plainRecipe "a" ∨ r = plainRecipe "b") ∧
      ∀ name, ∃ answer, (c.find name (machineWith one)).value = .ok answer ∧
        (c.find name (machineWith two)).value = .ok answer := by
  intro c one two
  have hone : ∀ child ∈ one, child.2.isFile = true := by simp [one, plainFile, Entry.isFile]
  have htwo : ∀ child ∈ two, child.2.isFile = true := by simp [two, plainFile, Entry.isFile]
  have hwalkOne : c.Walkable (machineWith one) one := walkable_files (by decide) (by decide) hone
  have hwalkTwo : c.Walkable (machineWith two) two := walkable_files (by decide) (by decide) htwo
  have hxa : Holds "catalog" ⟨["x.yml"], plainFile "a"⟩ (plainRecipe "a") :=
    ⟨isRecipeFile_iff.1 rfl, by decide +kernel, valid_a⟩
  have hyb : Holds "catalog" ⟨["y.yml"], plainFile "b"⟩ (plainRecipe "b") :=
    ⟨isRecipeFile_iff.1 rfl, by decide +kernel, valid_b⟩
  have hxb : Holds "catalog" ⟨["x.yml"], plainFile "b"⟩ (plainRecipe "b") :=
    ⟨isRecipeFile_iff.1 rfl, by decide +kernel, valid_b⟩
  have hza : Holds "catalog" ⟨["z.yml"], plainFile "a"⟩ (plainRecipe "a") :=
    ⟨isRecipeFile_iff.1 rfl, by decide +kernel, valid_a⟩
  have hbroken : ∀ r, ¬ Holds "catalog" ⟨["y.YAML"], .file [0xFF]⟩ r :=
    not_holds (by decide +kernel)
  have hheldOne := holds_iff_mem "catalog" [(⟨["x.yml"], plainFile "a"⟩, plainRecipe "a"),
    (⟨["y.yml"], plainFile "b"⟩, plainRecipe "b")] hone (by simp [one, hxa, hyb]) (by simp [one])
  have hheldTwo := holds_iff_mem "catalog" [(⟨["x.yml"], plainFile "b"⟩, plainRecipe "b"),
    (⟨["z.yml"], plainFile "a"⟩, plainRecipe "a")] htwo (by simp [two, hxb, hza])
    (by simp [two, hbroken])
  have hdistinctOne : c.NamesDistinct one := namesDistinct_of_held hheldOne (by simp; decide)
  have hdistinctTwo : c.NamesDistinct two := namesDistinct_of_held hheldTwo (by simp; decide)
  have hoffersOne (r : Recipe) : c.Offers one r ↔ r = plainRecipe "a" ∨ r = plainRecipe "b" :=
    (offers_iff_of_held hheldOne).trans (by simp)
  have hoffersTwo (r : Recipe) : c.Offers two r ↔ r = plainRecipe "a" ∨ r = plainRecipe "b" :=
    (offers_iff_of_held hheldTwo).trans (by simp [or_comm])
  refine ⟨hwalkOne, hdistinctOne, hwalkTwo, hdistinctTwo, hoffersOne, hoffersTwo, ?_⟩
  exact (answers_of_same_recipes hwalkOne hdistinctOne hwalkTwo hdistinctTwo fun r =>
    (hoffersOne r).trans (hoffersTwo r).symm).1

end Provision.Catalog
