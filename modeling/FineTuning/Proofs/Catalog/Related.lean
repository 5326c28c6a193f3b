import FineTuning.Proofs.Catalog.Resolve

/-!
# Models that have something to do with the name

* `Catalog.resolve_related`: a model that a name finds has a text whose key has something in common
  with that of the name, unless its display name or family has an empty key.

An empty key is contained in every other one. What keeps it from matching is that names without a
key are refused and that a model without a family is not looked for by its family; a display name
or a family such as `---` passes.
-/

namespace FineTuning

namespace CatalogEntry

variable {entry : CatalogEntry} {name : String}

/-- All texts by which a model can be meant. -/
def texts (entry : CatalogEntry) : List String :=
  entry.names ++ entry.family :: entry.aliases

/-- One of the texts has a key, and it is that of the name, part of it, or has it as a part. -/
def IsRelatedTo (entry : CatalogEntry) (name : String) : Prop :=
  ∃ text ∈ entry.texts, Text.key text ≠ "" ∧
    (Text.key text = Text.key name ∨
      (Text.key text).toList <:+: (Text.key name).toList ∨
      (Text.key name).toList <:+: (Text.key text).toList)

instance (entry : CatalogEntry) (name : String) : Decidable (entry.IsRelatedTo name) :=
  decidable_of_iff (∃ text ∈ entry.texts, Text.key text ≠ "" ∧
      (Text.key text = Text.key name ∨
        Text.contains (Text.key name) (Text.key text) = true ∨
        Text.contains (Text.key text) (Text.key name) = true))
    (by simp only [IsRelatedTo, Text.contains_iff])

/-- The family is searched for and has an empty key, or the display name is and has one. -/
def IsFoundInAnything (entry : CatalogEntry) (name : String) : Prop :=
  (SizePreference.ofName? name).isSome = true ∧
      entry.family ≠ "" ∧ Text.key entry.family = "" ∨
    Catalog.minOverlap ≤ (Text.key name).utf8ByteSize ∧ Text.key entry.displayName = ""

instance (entry : CatalogEntry) (name : String) : Decidable (entry.IsFoundInAnything name) :=
  inferInstanceAs (Decidable (_ ∨ _))

/-- What is found in anything matches the name, whatever the rest of the name is. -/
theorem isFoundBy_of_isFoundInAnything (h : entry.IsFoundInAnything name) :
    entry.IsFoundBy name := by
  obtain ⟨hsize, hfamily, hkey⟩ | ⟨hlong, hkey⟩ := h
  · exact .bySize hsize (hasFamilyIn_iff.mpr ⟨hfamily, by rw [hkey]; exact List.nil_infix⟩)
  · exact .byOverlap hlong (overlaps_iff.mpr (.inr (by rw [hkey]; exact List.nil_infix)))

theorem isRelatedTo_of_contained {text : String} (hmem : text ∈ entry.texts)
    (hkey : Text.key text ≠ "") (h : (Text.key text).toList <:+: (Text.key name).toList) :
    entry.IsRelatedTo name :=
  ⟨text, hmem, hkey, .inr (.inl h)⟩

/-- Each of the ways in which an entry matches relates it to the name, or needs no letters. -/
theorem isRelatedTo_of_isFoundBy (hname : Text.key name ≠ "") (h : entry.IsFoundBy name) :
    entry.IsRelatedTo name ∨ entry.IsFoundInAnything name := by
  cases h with
  | byName h =>
    obtain ⟨text, hmem, hsame⟩ := isNamed_iff.mp h
    exact .inl ⟨text, List.mem_append_left _ hmem, hsame ▸ hname, .inl hsame⟩
  | byAlias h =>
    obtain ⟨text, hmem, hsame⟩ := hasAlias_iff.mp h
    have htext : text ∈ entry.texts :=
      List.mem_append_right _ (List.mem_cons_of_mem _ hmem)
    exact .inl ⟨text, htext, hsame ▸ hname, .inl hsame⟩
  | bySize hsize h =>
    obtain ⟨hfamily, hcontained⟩ := hasFamilyIn_iff.mp h
    by_cases hkey : Text.key entry.family = ""
    · exact .inr (.inl ⟨hsize, hfamily, hkey⟩)
    · have htext : entry.family ∈ entry.texts :=
        List.mem_append_right _ List.mem_cons_self
      exact .inl (isRelatedTo_of_contained htext hkey hcontained)
  | byOverlap hlong h =>
    have htext : entry.displayName ∈ entry.texts := by simp [texts, names]
    by_cases hkey : Text.key entry.displayName = ""
    · exact .inr (.inr ⟨hlong, hkey⟩)
    · obtain hcontains | hcontained := overlaps_iff.mp h
      · exact .inl ⟨entry.displayName, htext, hkey, .inr (.inr hcontains)⟩
      · exact .inl (isRelatedTo_of_contained htext hkey hcontained)

end CatalogEntry

namespace Catalog

/-- **A model that a name finds is related to it,** unless its family or its display name has an
empty key. With a model of this kind in the catalog, no name that is looked for in families or in
display names comes out empty-handed. -/
theorem resolve_related (catalog : Catalog) (name : String) :
    (∀ entry, catalog.resolve name = .ok entry →
      entry ∈ catalog.entries ∧ (entry.IsRelatedTo name ∨ entry.IsFoundInAnything name)) ∧
    (Text.key name ≠ "" → (∃ entry ∈ catalog.entries, entry.IsFoundInAnything name) →
      ∃ entry ∈ catalog.entries, catalog.resolve name = .ok entry) := by
  constructor
  · intro entry h
    obtain ⟨hmem, hname, hfound⟩ := isFoundBy_of_resolve h
    exact ⟨hmem, CatalogEntry.isRelatedTo_of_isFoundBy hname hfound⟩
  · rintro hname ⟨entry, hmem, hanything⟩
    have hfound := CatalogEntry.isFoundBy_of_isFoundInAnything hanything
    obtain ⟨found, hresolve⟩ := exists_resolve_iff.mpr ⟨hname, entry, hmem, hfound⟩
    exact ⟨found, mem_of_resolve hresolve, hresolve⟩

/-- A catalog with a model that has a wordless display name. -/
theorem resolve_related_wordless :
    let alpha : CatalogEntry := ⟨"a/m", "Alpha", "", .ofInt 1, "alpha", []⟩
    let catalog : Catalog := ⟨[alpha, ⟨"x/y", "---", "", .ofInt 15, "---", []⟩]⟩
    catalog.resolve "Alpha 2" = .ok alpha ∧ alpha.IsRelatedTo "Alpha 2" ∧
      ∃ entry ∈ catalog.entries, catalog.resolve "gemma" = .ok entry := by
  intro alpha catalog
  have halpha : catalog.resolve "Alpha 2" = .ok alpha := by decide +kernel
  obtain ⟨-, hrelated⟩ := (resolve_related catalog "Alpha 2").1 alpha halpha
  refine ⟨halpha, hrelated.resolve_right (by decide +kernel), ?_⟩
  exact (resolve_related catalog "gemma").2 (by decide +kernel)
    ⟨_, List.mem_cons_of_mem _ List.mem_cons_self, by decide +kernel⟩

/-- A wordless display name is found in a name of five letters, and a wordless family in a name that
asks for a size, though nothing else of the models has to do with these names. -/
theorem resolve_unrelated :
    let wordless : CatalogEntry := ⟨"x/y", "---", "", .ofInt 15, "---", []⟩
    let dashes : CatalogEntry := ⟨"x/y", "Zeta", "", .ofInt 1, "--", []⟩
    (Catalog.resolve ⟨[wordless]⟩ "gemma" = .ok wordless ∧ ¬wordless.IsRelatedTo "gemma") ∧
      Catalog.resolve ⟨[dashes]⟩ "small gemma" = .ok dashes ∧
        ¬dashes.IsRelatedTo "small gemma" := by
  decide +kernel

end Catalog

end FineTuning
