import FineTuning.Catalog.Codec
import FineTuning.Proofs.Catalog.Resolve
import FineTuning.Proofs.Json.FieldOrder
import FineTuning.Proofs.Json.Written
import Mathlib.Data.List.Nodup

/-!
# Models that are asked for by their ids

* `Catalog.ascending_of_ofText`: a catalog that is read has its models in the order of their ids.
* `Catalog.resolve_id`: an id finds the first model with a name that has the same key.

Names are compared by their keys, ids included. So `m-1.5` and `m-15` are one name, and which of
two models has it is settled by the order of their ids.
-/

namespace FineTuning

open Json

/-- The name is that of the model, but for case and punctuation. -/
def CatalogEntry.GoesBy (entry : CatalogEntry) (name : String) : Prop :=
  ∃ text ∈ entry.names, Text.key text = Text.key name

instance (entry : CatalogEntry) (name : String) : Decidable (entry.GoesBy name) :=
  inferInstanceAs (Decidable (∃ text ∈ entry.names, Text.key text = Text.key name))

theorem CatalogEntry.goesBy_id (entry : CatalogEntry) : entry.GoesBy entry.id :=
  ⟨entry.id, List.mem_cons_self, rfl⟩

namespace Catalog

variable {catalog : Catalog} {entry found : CatalogEntry} {name text : String}

/-! ## The order of the models -/

/-- The models stand in the order of their ids, which are distinct. -/
def Ascending (catalog : Catalog) : Prop :=
  catalog.entries.Pairwise (·.id < ·.id)

/-- A catalog that is read has its models in the order of their ids. -/
theorem ascending_of_ofText (h : ofText text = .ok catalog) : catalog.Ascending := by
  obtain ⟨-, hdecode⟩ := of_decodeText (mapError_eq_ok_iff.mp h)
  unfold decode at hdecode
  split at hdecode
  · obtain ⟨descriptions, -, hdecode⟩ := bind_eq_ok_iff.mp hdecode
    split at hdecode
    · cases hdecode
    · cases hdecode
      exact List.pairwise_map.mpr (ascending_sortFields descriptions)
  · cases hdecode

theorem Ascending.eq_of_id_eq (hasc : catalog.Ascending) (hfound : found ∈ catalog.entries)
    (hentry : entry ∈ catalog.entries) (heq : found.id = entry.id) : found = entry := by
  have hnodup : (catalog.entries.map (·.id)).Nodup :=
    List.pairwise_map.mpr (hasc.imp fun hlt => hlt.ne)
  exact List.inj_on_of_nodup_map hnodup hfound hentry heq

/-- The first model in the order of the ids that goes by the name. -/
structure IsFirstBy (catalog : Catalog) (name : String) (entry : CatalogEntry) : Prop where
  mem : entry ∈ catalog.entries
  goesBy : entry.GoesBy name
  first : ∀ other ∈ catalog.entries, other.id < entry.id → ¬other.GoesBy name

theorem IsFirstBy.unique (hasc : catalog.Ascending) (h : catalog.IsFirstBy name entry)
    (hfound : catalog.IsFirstBy name found) : found = entry := by
  obtain hlt | heq | hgt := lt_trichotomy found.id entry.id
  · exact absurd hfound.goesBy (h.first _ hfound.mem hlt)
  · exact hasc.eq_of_id_eq hfound.mem h.mem heq
  · exact absurd h.goesBy (hfound.first _ h.mem hgt)

theorem isFirstBy_of_matchName? (hasc : catalog.Ascending)
    (h : catalog.matchName? (Text.key name) = some found) : catalog.IsFirstBy name found := by
  obtain ⟨hnamed, before, after, hsplit, hbefore⟩ := List.find?_eq_some_iff_append.mp h
  refine ⟨List.mem_of_find?_eq_some h, CatalogEntry.isNamed_iff.mp hnamed, ?_⟩
  intro other hother hlt hgoes
  rw [Ascending, hsplit, List.pairwise_append, List.pairwise_cons] at hasc
  obtain ⟨-, ⟨hafter, -⟩, -⟩ := hasc
  rw [hsplit, List.mem_append, List.mem_cons] at hother
  obtain hother | rfl | hother := hother
  · simpa [CatalogEntry.isNamed_iff.mpr hgoes] using hbefore other hother
  · exact lt_irrefl _ hlt
  · exact lt_asymm hlt (hafter other hother)

/-- An entry that goes by the name, if there is one, is found before all others. -/
theorem exists_matchName? (hmem : entry ∈ catalog.entries) (h : entry.GoesBy name) :
    ∃ found, catalog.matchName? (Text.key name) = some found := by
  have hsome : (catalog.matchName? (Text.key name)).isSome = true :=
    List.find?_isSome.mpr ⟨entry, hmem, CatalogEntry.isNamed_iff.mpr h⟩
  exact Option.isSome_iff_exists.mp hsome

theorem resolve_of_matchName? (hkey : Text.key name ≠ "")
    (h : catalog.matchName? (Text.key name) = some found) : catalog.resolve name = .ok found := by
  refine resolve_eq_ok_iff.mpr ⟨hkey, ?_⟩
  simp only [find?, h, Option.some_or]

/-! ## Ids as names -/

/-- **The id of a model finds the first model that goes by it.** This is the model itself just when
no model with a smaller id goes by this id. -/
theorem resolve_id (hcatalog : ofText text = .ok catalog) (hmem : entry ∈ catalog.entries)
    (hid : ∃ c ∈ entry.id.toList, Text.isAlphanumeric c = true) :
    ∃ found, catalog.resolve entry.id = .ok found ∧ catalog.IsFirstBy entry.id found ∧
      (found = entry ↔
        ∀ other ∈ catalog.entries, other.id < entry.id → ¬other.GoesBy entry.id) := by
  have hasc := ascending_of_ofText hcatalog
  have hkey : Text.key entry.id ≠ "" := by
    intro hempty
    obtain ⟨c, hc, halnum⟩ := hid
    exact Bool.false_ne_true ((Text.key_eq_empty_iff.mp hempty c hc).symm.trans halnum)
  obtain ⟨found, hfound⟩ := exists_matchName? hmem entry.goesBy_id
  have hfirst := isFirstBy_of_matchName? hasc hfound
  refine ⟨found, resolve_of_matchName? hkey hfound, hfirst, ?_, ?_⟩
  · rintro rfl
    exact hfirst.first
  · intro hnone
    exact IsFirstBy.unique hasc ⟨hmem, entry.goesBy_id, hnone⟩ hfirst

/-- Of two models whose ids have one key, the first is found by both ids. -/
theorem resolve_id_same_key :
    let text := "\x7b\"m-1.5\": [\"One\", \"\", 1], \"m-15\": [\"Fifteen\", \"\", 15]\x7d"
    let one : CatalogEntry := ⟨"m-1.5", "One", "", .ofInt 1, "one", []⟩
    let fifteen : CatalogEntry := ⟨"m-15", "Fifteen", "", .ofInt 15, "fifteen", []⟩
    let catalog : Catalog := ⟨[one, fifteen]⟩
    ofText text = .ok catalog ∧ catalog.resolve "m-1.5" = .ok one ∧
      catalog.resolve "m-15" = .ok one ∧ catalog.IsFirstBy "m-15" one := by
  intro text one fifteen catalog
  have hcatalog : ofText text = .ok catalog := by decide +kernel
  have hone : one ∈ catalog.entries := List.mem_cons_self
  have hfifteen : fifteen ∈ catalog.entries := List.mem_cons_of_mem _ List.mem_cons_self
  have hletter : Text.isAlphanumeric 'm' = true := by decide +kernel
  obtain ⟨found, hfound, -, hitself⟩ := resolve_id hcatalog hone ⟨'m', by decide, hletter⟩
  obtain rfl : found = one := hitself.mpr (by decide +kernel)
  obtain ⟨other, hother, hfirst, -⟩ := resolve_id hcatalog hfifteen ⟨'m', by decide, hletter⟩
  have hsame : catalog.resolve "m-15" = .ok one := by decide +kernel
  obtain rfl : one = other := Except.ok.inj (hsame.symm.trans hother)
  exact ⟨hcatalog, hfound, hsame, hfirst⟩

/-- Not every model is found by its id. -/
theorem resolve_other_than_id :
    ¬∀ (text : String) (catalog : Catalog) (entry : CatalogEntry), ofText text = .ok catalog →
      entry ∈ catalog.entries → (∃ c ∈ entry.id.toList, Text.isAlphanumeric c = true) →
      catalog.resolve entry.id = .ok entry := by
  intro h
  let one : CatalogEntry := ⟨"m-1.5", "One", "", .ofInt 1, "one", []⟩
  let fifteen : CatalogEntry := ⟨"m-15", "Fifteen", "", .ofInt 15, "fifteen", []⟩
  let catalog : Catalog := ⟨[one, fifteen]⟩
  have hcatalog : ofText
      "\x7b\"m-1.5\": [\"One\", \"\", 1], \"m-15\": [\"Fifteen\", \"\", 15]\x7d" = .ok catalog := by
    decide +kernel
  have hletter : ∃ c ∈ fifteen.id.toList, Text.isAlphanumeric c = true :=
    ⟨'m', by decide, by decide +kernel⟩
  have hwrong : catalog.resolve "m-15" = .ok fifteen :=
    h _ catalog fifteen hcatalog (List.mem_cons_of_mem _ List.mem_cons_self) hletter
  exact absurd hwrong (by decide +kernel)

end Catalog

end FineTuning
