import FineTuning.Proofs.Catalog.Resolve
import FineTuning.Proofs.Text.Words

/-!
# Models that are asked for by size

* `SizePreference.ofName?_eq_some_smallest_iff`, `SizePreference.ofName?_eq_some_largest_iff`: the
  words that ask for a small model, and those that ask for a large one if there are no such words.
* `isChosen_foldl`: going through a list and keeping the better of two ends with the best of all.
* `Catalog.resolve_by_size`: the model that is found is the smallest or the largest of the first
  family that the name contains.
-/

namespace FineTuning

/-! ## Words for sizes -/

namespace SizePreference

variable {name : String}

theorem any_words_contains_iff {sizeWords : List String} :
    (Text.words (Text.lower name)).any sizeWords.contains = true ↔
      ∃ word ∈ sizeWords, Text.HasWord name word := by
  simp only [List.any_eq_true, List.contains_iff_mem, Text.mem_words_iff]
  exact exists_congr fun word => and_comm

/-- A word for a small size asks for the smallest model, whatever other words there are. -/
theorem ofName?_eq_some_smallest_iff :
    ofName? name = some .smallest ↔ ∃ word ∈ smallerWords, Text.HasWord name word := by
  simp only [ofName?, ← any_words_contains_iff]
  split
  · simp_all
  · split <;> simp_all

/-- Without such a word, a word for a large size asks for the largest model. -/
theorem ofName?_eq_some_largest_iff :
    ofName? name = some .largest ↔ (¬∃ word ∈ smallerWords, Text.HasWord name word) ∧
      ∃ word ∈ largerWords, Text.HasWord name word := by
  simp only [ofName?, ← any_words_contains_iff]
  split
  · simp_all
  · split <;> simp_all

end SizePreference

/-! ## The best of a list -/

section Choice

variable {α : Type} {beats : α → α → Prop} {choose : α → α → α}

/-- The element beats all those before it, and none of those after it beats it. -/
def IsChosen (beats : α → α → Prop) (xs : List α) (x : α) : Prop :=
  ∃ before after, xs = before ++ x :: after ∧
    (∀ y ∈ before, beats x y) ∧ ∀ y ∈ after, ¬beats y x

/-- One more element is chosen if it beats the one that was chosen so far. -/
theorem IsChosen.concat (htrans : ∀ x y z, beats x y → beats y z → beats x z)
    (hover : ∀ x y z, beats x y → ¬beats z y → beats x z) {seen : List α} {best x : α}
    (h : IsChosen beats seen best) :
    (beats x best → IsChosen beats (seen ++ [x]) x) ∧
      (¬beats x best → IsChosen beats (seen ++ [x]) best) := by
  obtain ⟨before, after, rfl, hbefore, hafter⟩ := h
  constructor
  · intro hx
    refine ⟨before ++ best :: after, [], rfl, fun y hy => ?_, List.forall_mem_nil _⟩
    obtain hy | hy := List.mem_append.mp hy
    · exact htrans x best y hx (hbefore y hy)
    · obtain rfl | hy := List.mem_cons.mp hy
      · exact hx
      · exact hover x best y hx (hafter y hy)
  · intro hx
    refine ⟨before, after ++ [x], by simp, hbefore, fun y hy => ?_⟩
    obtain hy | hy := List.mem_append.mp hy
    · exact hafter y hy
    · rwa [List.mem_singleton.mp hy]

/-- Keeping the better of two over and over ends with the best of all. -/
theorem isChosen_foldl (htrans : ∀ x y z, beats x y → beats y z → beats x z)
    (hover : ∀ x y z, beats x y → ¬beats z y → beats x z)
    (hchoose : ∀ best x, beats x best ∧ choose best x = x ∨ ¬beats x best ∧ choose best x = best)
    {seen : List α} {best : α} (h : IsChosen beats seen best) (rest : List α) :
    IsChosen beats (seen ++ rest) (rest.foldl choose best) := by
  induction rest generalizing seen best with
  | nil => rwa [List.append_nil]
  | cons x rest ih =>
    rw [List.foldl_cons, List.append_cons]
    obtain ⟨hx, heq⟩ | ⟨hx, heq⟩ := hchoose best x
    · rw [heq]
      exact ih ((h.concat htrans hover).1 hx)
    · rw [heq]
      exact ih ((h.concat htrans hover).2 hx)

theorem isChosen_singleton (x : α) : IsChosen beats [x] x :=
  ⟨[], [], rfl, List.forall_mem_nil _, List.forall_mem_nil _⟩

end Choice

namespace CatalogEntry

variable {entries : List CatalogEntry} {entry : CatalogEntry}

/-- The model is the smallest of the list, and the first of those that are as small. -/
def IsSmallestOf (entries : List CatalogEntry) (entry : CatalogEntry) : Prop :=
  ∃ before after, entries = before ++ entry :: after ∧
    (∀ other ∈ before, entry.sizeKey < other.sizeKey) ∧
    ∀ other ∈ after, entry.sizeKey ≤ other.sizeKey

/-- The model is the largest of the list, and the last of those that are as large. -/
def IsLargestOf (entries : List CatalogEntry) (entry : CatalogEntry) : Prop :=
  ∃ before after, entries = before ++ entry :: after ∧
    (∀ other ∈ before, other.sizeKey ≤ entry.sizeKey) ∧
    ∀ other ∈ after, other.sizeKey < entry.sizeKey

/-- The name contains the family of the model, but for case and punctuation. -/
def IsOfFamilyIn (name : String) (entry : CatalogEntry) : Prop :=
  entry.family ≠ "" ∧ (Text.key entry.family).toList <:+: (Text.key name).toList

instance (name : String) (entry : CatalogEntry) : Decidable (IsOfFamilyIn name entry) :=
  decidable_of_iff (entry.hasFamilyIn (Text.key name) = true) hasFamilyIn_iff

theorem isSmallestOf_of_smallest? (h : Catalog.smallest? entries = some entry) :
    IsSmallestOf entries entry := by
  cases entries with
  | nil => cases h
  | cons first rest =>
    have hchosen : IsChosen (fun x y : CatalogEntry => x.sizeKey < y.sizeKey) ([first] ++ rest)
        entry := by
      obtain rfl := Option.some.inj h
      refine isChosen_foldl ?_ ?_ (fun best x => ?_) (isChosen_singleton first) rest
      · exact fun _ _ _ => lt_trans
      · exact fun _ _ _ hxy hzy => lt_of_lt_of_le hxy (not_lt.mp hzy)
      · by_cases hlt : x.sizeKey < best.sizeKey <;> simp [hlt]
    obtain ⟨before, after, hsplit, hbefore, hafter⟩ := hchosen
    exact ⟨before, after, hsplit, hbefore, fun other hother => not_lt.mp (hafter other hother)⟩

theorem isLargestOf_of_largest? (h : Catalog.largest? entries = some entry) :
    IsLargestOf entries entry := by
  cases entries with
  | nil => cases h
  | cons first rest =>
    have hchosen : IsChosen (fun x y : CatalogEntry => y.sizeKey ≤ x.sizeKey) ([first] ++ rest)
        entry := by
      obtain rfl := Option.some.inj h
      refine isChosen_foldl ?_ ?_ (fun best x => ?_) (isChosen_singleton first) rest
      · exact fun _ _ _ hxy hyz => le_trans hyz hxy
      · exact fun _ _ _ hxy hzy => le_trans (le_of_lt (not_le.mp hzy)) hxy
      · by_cases hlt : x.sizeKey < best.sizeKey <;> simp [hlt, not_le.mpr, not_lt.mp]
    obtain ⟨before, after, hsplit, hbefore, hafter⟩ := hchosen
    exact ⟨before, after, hsplit, hbefore, fun other hother => not_le.mp (hafter other hother)⟩

end CatalogEntry

namespace Catalog

variable {catalog : Catalog} {entry first found : CatalogEntry} {name : String}

/-- The first model whose family the name contains. -/
def IsFirstOfFamilyIn (catalog : Catalog) (name : String) (entry : CatalogEntry) : Prop :=
  ∃ before after, catalog.entries = before ++ entry :: after ∧ entry.IsOfFamilyIn name ∧
    ∀ earlier ∈ before, ¬earlier.IsOfFamilyIn name

/-- All models of the family, in order. -/
def membersOf (catalog : Catalog) (family : String) : List CatalogEntry :=
  catalog.entries.filter (·.family == family)

theorem find?_hasFamilyIn_eq_some_iff :
    catalog.entries.find? (·.hasFamilyIn (Text.key name)) = some entry ↔
      catalog.IsFirstOfFamilyIn name entry := by
  simp only [List.find?_eq_some_iff_append, CatalogEntry.hasFamilyIn_iff, Bool.not_eq_true',
    ← Bool.not_eq_true]
  constructor
  · rintro ⟨hentry, before, after, hsplit, hbefore⟩
    exact ⟨before, after, hsplit, hentry, hbefore⟩
  · rintro ⟨before, after, hsplit, hentry, hbefore⟩
    exact ⟨hentry, before, after, hsplit, hbefore⟩

/-- Where no name or alias has the key, a model that is found by size comes first. -/
theorem find?_of_matchSize?
    (hnames : ∀ entry ∈ catalog.entries, ∀ text ∈ entry.names ++ entry.aliases,
      Text.key text ≠ Text.key name)
    (h : catalog.matchSize? name (Text.key name) = some found) :
    catalog.find? name = some found := by
  have hname : catalog.matchName? (Text.key name) = none := by
    refine List.find?_eq_none.mpr fun entry hentry hmatch => ?_
    obtain ⟨text, htext, hkey⟩ := CatalogEntry.isNamed_iff.mp hmatch
    exact hnames entry hentry text (List.mem_append_left _ htext) hkey
  have halias : catalog.matchAlias? (Text.key name) = none := by
    refine List.find?_eq_none.mpr fun entry hentry hmatch => ?_
    obtain ⟨text, htext, hkey⟩ := CatalogEntry.hasAlias_iff.mp hmatch
    exact hnames entry hentry text (List.mem_append_right _ htext) hkey
  simp only [find?, hname, halias, h, Option.none_or, Option.some_or]

/-- A name with a word for a size finds a model of the first family that it contains. -/
theorem exists_matchSize? {preference : SizePreference}
    (hpreference : SizePreference.ofName? name = some preference)
    (hfamily : ∃ entry ∈ catalog.entries, entry.IsOfFamilyIn name) :
    ∃ first found, catalog.IsFirstOfFamilyIn name first ∧
      ofSize? preference (catalog.membersOf first.family) = some found ∧
      catalog.matchSize? name (Text.key name) = some found := by
  obtain ⟨entry, hentry, hcontained⟩ := hfamily
  have hsome : (catalog.entries.find? (·.hasFamilyIn (Text.key name))).isSome = true :=
    List.find?_isSome.mpr ⟨entry, hentry, CatalogEntry.hasFamilyIn_iff.mpr hcontained⟩
  obtain ⟨first, hfirst⟩ := Option.isSome_iff_exists.mp hsome
  have hmember : first ∈ catalog.membersOf first.family := by
    simp [membersOf, List.mem_of_find?_eq_some hfirst]
  obtain ⟨found, hfound⟩ := exists_ofSize?_of_mem preference hmember
  exact ⟨first, found, find?_hasFamilyIn_eq_some_iff.mp hfirst, hfound,
    matchSize?_eq_some_iff.mpr ⟨preference, first, hpreference, hfirst, hfound⟩⟩

/-- A name that contains a family with a letter or a number has a key. -/
theorem key_ne_empty_of_isOfFamilyIn (h : entry.IsOfFamilyIn name)
    (hfamily : ∃ c ∈ entry.family.toList, Text.isAlphanumeric c = true) : Text.key name ≠ "" := by
  intro hempty
  obtain ⟨c, hc, halnum⟩ := hfamily
  have hinfix := h.2
  rw [hempty, String.toList_empty, List.infix_nil, String.toList_eq_nil_iff] at hinfix
  simp [Text.key_eq_empty_iff.mp hinfix c hc] at halnum

/-- **A name with a word for a size finds the smallest or the largest model of a family.** The
family is that of the first model whose family the name contains. A word for a small size counts
before one for a large size. -/
theorem resolve_by_size
    (hfamilies : ∀ entry ∈ catalog.entries, entry.family ≠ "" →
      ∃ c ∈ entry.family.toList, Text.isAlphanumeric c = true)
    (hnames : ∀ entry ∈ catalog.entries, ∀ text ∈ entry.names ++ entry.aliases,
      Text.key text ≠ Text.key name)
    (hsize : ∃ word ∈ SizePreference.smallerWords ++ SizePreference.largerWords,
      Text.HasWord name word)
    (hfamily : ∃ entry ∈ catalog.entries, entry.IsOfFamilyIn name) :
    ∃ first found, catalog.IsFirstOfFamilyIn name first ∧ catalog.resolve name = .ok found ∧
      found.family = first.family ∧
      ((∃ word ∈ SizePreference.smallerWords, Text.HasWord name word) →
        found.IsSmallestOf (catalog.membersOf first.family)) ∧
      ((¬∃ word ∈ SizePreference.smallerWords, Text.HasWord name word) →
        found.IsLargestOf (catalog.membersOf first.family)) := by
  obtain ⟨entry, hentry, hcontained⟩ := hfamily
  have hkey := key_ne_empty_of_isOfFamilyIn hcontained (hfamilies entry hentry hcontained.1)
  have hsome : ∃ preference, SizePreference.ofName? name = some preference := by
    by_cases hsmaller : ∃ word ∈ SizePreference.smallerWords, Text.HasWord name word
    · exact ⟨_, SizePreference.ofName?_eq_some_smallest_iff.mpr hsmaller⟩
    · obtain ⟨word, hword, hhas⟩ := hsize
      obtain hword | hword := List.mem_append.mp hword
      · exact absurd ⟨word, hword, hhas⟩ hsmaller
      · exact ⟨_, SizePreference.ofName?_eq_some_largest_iff.mpr ⟨hsmaller, word, hword, hhas⟩⟩
  obtain ⟨preference, hpreference⟩ := hsome
  obtain ⟨first, found, hfirst, hfound, hmatch⟩ :=
    exists_matchSize? hpreference ⟨entry, hentry, hcontained⟩
  have hmember := mem_of_ofSize? hfound
  refine ⟨first, found, hfirst, resolve_eq_ok_iff.mpr ⟨hkey, find?_of_matchSize? hnames hmatch⟩,
    eq_of_beq (List.mem_filter.mp hmember).2, fun hsmaller => ?_, fun hnone => ?_⟩
  · rw [SizePreference.ofName?_eq_some_smallest_iff.mpr hsmaller] at hpreference
    cases hpreference
    exact CatalogEntry.isSmallestOf_of_smallest? hfound
  · cases preference with
    | smallest => exact absurd (SizePreference.ofName?_eq_some_smallest_iff.mp hpreference) hnone
    | largest => exact CatalogEntry.isLargestOf_of_largest? hfound

/-- Of models of one size the first is the smallest, and the last is the largest. -/
theorem resolve_by_size_ties :
    let entry : String → Int → String → CatalogEntry := fun id size family =>
      ⟨id, id, "", .ofInt size, family, []⟩
    let first := entry "b" 4 "phi"
    let last := entry "c" 4 "phi"
    let catalog : Catalog := ⟨[entry "a" 1 "yi", first, last]⟩
    (catalog.resolve "BIG, tiny Phi" = .ok first ∧ first.IsSmallestOf (catalog.membersOf "phi")) ∧
      catalog.resolve "big phi" = .ok last ∧ last.IsLargestOf (catalog.membersOf "phi") := by
  intro entry first last catalog
  have hletter : ∀ entry ∈ catalog.entries, 'i' ∈ entry.family.toList := by decide +kernel
  have hfamilies : ∀ entry ∈ catalog.entries, entry.family ≠ "" →
      ∃ c ∈ entry.family.toList, Text.isAlphanumeric c = true :=
    fun entry hentry _ => ⟨'i', hletter entry hentry, by decide +kernel⟩
  have hsmall : catalog.resolve "BIG, tiny Phi" = .ok first := by decide +kernel
  have hlarge : catalog.resolve "big phi" = .ok last := by decide +kernel
  have hnames : ∀ entry ∈ catalog.entries, ∀ text ∈ entry.names ++ entry.aliases,
      Text.key text ≠ Text.key "BIG, tiny Phi" := by decide +kernel
  have hnames' : ∀ entry ∈ catalog.entries, ∀ text ∈ entry.names ++ entry.aliases,
      Text.key text ≠ Text.key "big phi" := by decide +kernel
  obtain ⟨leading, found, -, hfound, hfamily, hsmallest, -⟩ :=
    resolve_by_size hfamilies hnames ⟨"tiny", by decide, by decide +kernel⟩
      ⟨first, by decide, by decide +kernel⟩
  obtain ⟨leading', found', -, hfound', hfamily', -, hlargest⟩ :=
    resolve_by_size hfamilies hnames' ⟨"big", by decide, by decide +kernel⟩
      ⟨last, by decide, by decide +kernel⟩
  obtain rfl : first = found := Except.ok.inj (hsmall.symm.trans hfound)
  obtain rfl : last = found' := Except.ok.inj (hlarge.symm.trans hfound')
  rw [← hfamily] at hsmallest
  rw [← hfamily'] at hlargest
  exact ⟨⟨hsmall, hsmallest (by decide +kernel)⟩, hlarge, hlargest (by decide +kernel)⟩

end Catalog

end FineTuning
