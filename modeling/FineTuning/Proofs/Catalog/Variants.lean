import FineTuning.Proofs.Catalog.Sizes
import FineTuning.Proofs.Text.Variants

/-!
# Variants of a name

`Catalog.resolve_variants`: names that differ at most in the case of ASCII letters and in the blanks
around them have the same result. A name is looked at in two ways, by its key and by its words for
sizes, and neither tells variants apart.
-/

namespace FineTuning

variable {name name' : String}

/-- Variants ask for the same size. -/
theorem SizePreference.ofName?_eq_of_isVariantOf (h : Text.IsVariantOf name name') :
    ofName? name = ofName? name' := by
  have hwords : ∀ sizeWords : List String, (∃ word ∈ sizeWords, Text.HasWord name word) ↔
      ∃ word ∈ sizeWords, Text.HasWord name' word := by
    intro sizeWords
    simp only [Text.hasWord_iff_of_isVariantOf h]
  refine Option.ext fun preference => ?_
  cases preference with
  | smallest => rw [ofName?_eq_some_smallest_iff, ofName?_eq_some_smallest_iff, hwords]
  | largest => rw [ofName?_eq_some_largest_iff, ofName?_eq_some_largest_iff, hwords, hwords]

namespace Catalog

/-- Variants find the same model, if they find one. -/
theorem find?_eq_of_isVariantOf (catalog : Catalog) (h : Text.IsVariantOf name name') :
    catalog.find? name = catalog.find? name' := by
  simp only [find?, matchSize?, Text.key_eq_of_isVariantOf h,
    SizePreference.ofName?_eq_of_isVariantOf h]

/-- **Variants of a name have the same result:** the same model, or none, which is said of each name
with the same names that are valid, or neither of them has a key. -/
theorem resolve_variants (catalog : Catalog) (h : Text.IsVariantOf name name') :
    (∃ entry, catalog.resolve name = .ok entry ∧ catalog.resolve name' = .ok entry) ∨
      (catalog.resolve name = .error .emptyName ∧ catalog.resolve name' = .error .emptyName) ∨
      ∃ valid, catalog.resolve name = .error (.noMatch name valid) ∧
        catalog.resolve name' = .error (.noMatch name' valid) := by
  have hkey := Text.key_eq_of_isVariantOf h
  have hfind := catalog.find?_eq_of_isVariantOf h
  by_cases hempty : (Text.key name').isEmpty = true
  · refine .inr (.inl ⟨?_, ?_⟩)
    · rw [resolve, hkey, if_pos hempty]
    · rw [resolve, if_pos hempty]
  · have hnone : (Text.key name).isEmpty ≠ true := hkey ▸ hempty
    cases hfound : catalog.find? name' with
    | some entry =>
      refine .inl ⟨entry, ?_, ?_⟩
      · rw [resolve, if_neg hnone, hfind, hfound]
      · rw [resolve, if_neg hempty, hfound]
    | none =>
      refine .inr (.inr ⟨catalog.displayNames, ?_, ?_⟩)
      · rw [resolve, if_neg hnone, hfind, hfound]
      · rw [resolve, if_neg hempty, hfound]

/-- A name in capitals with blanks around it, whose last letter is a sigma, asks for a small model
just as the name in small letters. -/
theorem resolve_variants_capitals :
    let small : CatalogEntry := ⟨"a", "", "", .ofInt 1, "phi", []⟩
    let catalog : Catalog := ⟨[⟨"b", "", "", .ofInt 4, "phi", []⟩, small]⟩
    Text.IsVariantOf "tiny phi ΑΣ" "\u3000TINY Phi ΑΣ\u00a0" ∧
      catalog.resolve "tiny phi ΑΣ" = .ok small ∧
      catalog.resolve "\u3000TINY Phi ΑΣ\u00a0" = .ok small := by
  intro small catalog
  have hvariant : Text.IsVariantOf "tiny phi ΑΣ" "\u3000TINY Phi ΑΣ\u00a0" := by decide +kernel
  have hsmall : catalog.resolve "tiny phi ΑΣ" = .ok small := by decide +kernel
  refine ⟨hvariant, hsmall, ?_⟩
  obtain ⟨entry, hentry, hentry'⟩ | ⟨hnone, -⟩ | ⟨valid, hnone, -⟩ :=
    resolve_variants catalog hvariant
  · obtain rfl : small = entry := Except.ok.inj (hsmall.symm.trans hentry)
    exact hentry'
  · cases hsmall.symm.trans hnone
  · cases hsmall.symm.trans hnone

end Catalog

end FineTuning
