import FineTuning.Proofs.Text.Key
import Mathlib.Data.List.Basic

/-!
# Which entries a name can find

* `CatalogEntry.IsFoundBy`: the four ways in which an entry matches a name.
* `Catalog.isFoundBy_of_resolve`: a model that is found is an entry that matches the name.
* `Catalog.exists_resolve_iff`: a name finds a model just when it has a key and matches an entry.
-/

namespace FineTuning

namespace CatalogEntry

variable {entry : CatalogEntry} {key name : String}

/-- The names by which an entry is looked for first. -/
def names (entry : CatalogEntry) : List String :=
  [entry.id, entry.shortName, entry.displayName]

theorem isNamed_iff : entry.isNamed key = true ↔ ∃ text ∈ entry.names, Text.key text = key := by
  simp [isNamed, names, or_assoc]

theorem hasAlias_iff : entry.hasAlias key = true ↔ ∃ text ∈ entry.aliases, Text.key text = key := by
  simp [hasAlias]

theorem hasFamilyIn_iff : entry.hasFamilyIn key = true ↔
    entry.family ≠ "" ∧ (Text.key entry.family).toList <:+: key.toList := by
  simp [hasFamilyIn, Text.contains_iff]

theorem overlaps_iff : entry.overlaps key = true ↔
    key.toList <:+: (Text.key entry.displayName).toList ∨
      (Text.key entry.displayName).toList <:+: key.toList := by
  simp [overlaps, Text.contains_iff]

/-- How an entry matches a name. -/
inductive IsFoundBy (entry : CatalogEntry) (name : String) : Prop
  | byName (h : entry.isNamed (Text.key name) = true)
  | byAlias (h : entry.hasAlias (Text.key name) = true)
  | bySize (hsize : (SizePreference.ofName? name).isSome = true)
      (h : entry.hasFamilyIn (Text.key name) = true)
  | byOverlap (hlong : Catalog.minOverlap ≤ (Text.key name).utf8ByteSize)
      (h : entry.overlaps (Text.key name) = true)

end CatalogEntry

namespace Catalog

variable {catalog : Catalog} {entry : CatalogEntry} {name key : String}

/-! ## Models by size -/

/-- Choosing one of two over and over ends with one of those that were offered. -/
theorem foldl_choose_mem {choose : CatalogEntry → CatalogEntry → CatalogEntry}
    (hchoose : ∀ best entry, choose best entry = best ∨ choose best entry = entry)
    (first : CatalogEntry) (rest : List CatalogEntry) :
    rest.foldl choose first ∈ first :: rest := by
  induction rest generalizing first with
  | nil => exact List.mem_cons_self
  | cons entry rest ih =>
    rw [List.foldl_cons]
    rcases List.mem_cons.mp (ih (choose first entry)) with h | h
    · rw [h]
      rcases hchoose first entry with h | h <;> simp [h]
    · exact List.mem_cons_of_mem _ (List.mem_cons_of_mem _ h)

theorem mem_of_ofSize? {preference : SizePreference} {entries : List CatalogEntry}
    (h : ofSize? preference entries = some entry) : entry ∈ entries := by
  cases entries with
  | nil => cases preference <;> cases h
  | cons first rest =>
    cases preference with
    | smallest =>
      rw [← Option.some.inj h]
      exact foldl_choose_mem (fun _ _ => by split <;> simp) first rest
    | largest =>
      rw [← Option.some.inj h]
      exact foldl_choose_mem (fun _ _ => by split <;> simp) first rest

theorem exists_ofSize?_of_mem (preference : SizePreference) {entries : List CatalogEntry}
    (h : entry ∈ entries) : ∃ found, ofSize? preference entries = some found := by
  cases entries with
  | nil => cases h
  | cons first rest => cases preference <;> exact ⟨_, rfl⟩

/-- What is found by its size has the family of the first entry whose family the key contains. -/
theorem matchSize?_eq_some_iff : catalog.matchSize? name key = some entry ↔
    ∃ preference first, SizePreference.ofName? name = some preference ∧
      catalog.entries.find? (·.hasFamilyIn key) = some first ∧
      ofSize? preference (catalog.entries.filter (·.family == first.family)) = some entry := by
  simp only [matchSize?, Option.bind_eq_bind, Option.bind_eq_some_iff]
  constructor
  · rintro ⟨preference, hpreference, first, hfirst, hfound⟩
    exact ⟨preference, first, hpreference, hfirst, hfound⟩
  · rintro ⟨preference, first, hpreference, hfirst, hfound⟩
    exact ⟨preference, hpreference, first, hfirst, hfound⟩

theorem of_matchSize?_eq_some (h : catalog.matchSize? name key = some entry) :
    entry ∈ catalog.entries ∧ (SizePreference.ofName? name).isSome = true ∧
      entry.hasFamilyIn key = true := by
  obtain ⟨preference, first, hpreference, hfirst, hfound⟩ := matchSize?_eq_some_iff.mp h
  obtain ⟨hmem, hfamily⟩ := List.mem_filter.mp (mem_of_ofSize? hfound)
  have hcontained := List.find?_some hfirst
  refine ⟨hmem, by rw [hpreference]; rfl, ?_⟩
  rwa [CatalogEntry.hasFamilyIn, eq_of_beq hfamily]

theorem matchOverlap?_eq_some_iff : catalog.matchOverlap? key = some entry ↔
    minOverlap ≤ key.utf8ByteSize ∧ catalog.entries.find? (·.overlaps key) = some entry := by
  unfold matchOverlap?
  split
  · simp only [false_iff, reduceCtorEq]
    omega
  · rename_i hlong
    simp only [not_lt.mp hlong, true_and]

/-! ## Models by name -/

theorem resolve_eq_ok_iff :
    catalog.resolve name = .ok entry ↔ Text.key name ≠ "" ∧ catalog.find? name = some entry := by
  unfold resolve
  split
  · simp_all
  · split <;> simp_all

/-- A model that is found by a name is an entry that matches the name, which has a key. -/
theorem isFoundBy_of_resolve (h : catalog.resolve name = .ok entry) :
    entry ∈ catalog.entries ∧ Text.key name ≠ "" ∧ entry.IsFoundBy name := by
  obtain ⟨hkey, hfound⟩ := resolve_eq_ok_iff.mp h
  simp only [find?, Option.or_eq_some_iff] at hfound
  obtain hname | ⟨-, halias | ⟨-, hsize | ⟨-, hoverlap⟩⟩⟩ := hfound
  · have hmatch := List.find?_some hname
    exact ⟨List.mem_of_find?_eq_some hname, hkey, .byName hmatch⟩
  · have hmatch := List.find?_some halias
    exact ⟨List.mem_of_find?_eq_some halias, hkey, .byAlias hmatch⟩
  · obtain ⟨hmem, hsize, hfamily⟩ := of_matchSize?_eq_some hsize
    exact ⟨hmem, hkey, .bySize hsize hfamily⟩
  · obtain ⟨hlong, hfirst⟩ := matchOverlap?_eq_some_iff.mp hoverlap
    have hmatch := List.find?_some hfirst
    exact ⟨List.mem_of_find?_eq_some hfirst, hkey, .byOverlap hlong hmatch⟩

/-- A model that is found by a name is an entry of the catalog. -/
theorem mem_of_resolve (h : catalog.resolve name = .ok entry) : entry ∈ catalog.entries :=
  (isFoundBy_of_resolve h).1

theorem isSome_find?_of_isFoundBy (hmem : entry ∈ catalog.entries) (h : entry.IsFoundBy name) :
    (catalog.find? name).isSome = true := by
  have hfind (p : CatalogEntry → Bool) (hp : p entry = true) :
      (catalog.entries.find? p).isSome = true :=
    List.find?_isSome.mpr ⟨entry, hmem, hp⟩
  simp only [find?, Option.isSome_or, Bool.or_eq_true]
  cases h with
  | byName h => exact .inl (hfind (·.isNamed _) h)
  | byAlias h => exact .inr (.inl (hfind (·.hasAlias _) h))
  | bySize hsize h =>
    obtain ⟨preference, hpreference⟩ := Option.isSome_iff_exists.mp hsize
    obtain ⟨first, hfirst⟩ := Option.isSome_iff_exists.mp (hfind (·.hasFamilyIn _) h)
    have hmember : first ∈ catalog.entries.filter (·.family == first.family) :=
      List.mem_filter.mpr ⟨List.mem_of_find?_eq_some hfirst, beq_self_eq_true _⟩
    obtain ⟨found, hfound⟩ := exists_ofSize?_of_mem preference hmember
    rw [matchSize?_eq_some_iff.mpr ⟨preference, first, hpreference, hfirst, hfound⟩]
    exact .inr (.inr (.inl rfl))
  | byOverlap hlong h =>
    obtain ⟨found, hfound⟩ := Option.isSome_iff_exists.mp (hfind (·.overlaps _) h)
    rw [matchOverlap?_eq_some_iff.mpr ⟨hlong, hfound⟩]
    exact .inr (.inr (.inr rfl))

/-- A name finds a model just when it has a key and some entry matches it. -/
theorem exists_resolve_iff : (∃ entry, catalog.resolve name = .ok entry) ↔
    Text.key name ≠ "" ∧ ∃ entry ∈ catalog.entries, entry.IsFoundBy name := by
  constructor
  · rintro ⟨entry, h⟩
    obtain ⟨hmem, hkey, hfound⟩ := isFoundBy_of_resolve h
    exact ⟨hkey, entry, hmem, hfound⟩
  · rintro ⟨hkey, entry, hmem, hfound⟩
    obtain ⟨found, hfound⟩ := Option.isSome_iff_exists.mp (isSome_find?_of_isFoundBy hmem hfound)
    exact ⟨found, resolve_eq_ok_iff.mpr ⟨hkey, hfound⟩⟩

end Catalog

end FineTuning
