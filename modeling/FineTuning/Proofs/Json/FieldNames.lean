import FineTuning.Proofs.Json.FieldOrder
import FineTuning.Proofs.Json.ObjectFields
import Mathlib.Data.List.Nodup
import Mathlib.Data.List.Pairwise

/-!
# Fields under other names

The names of a field are as good as each other: an entry may be moved from one of them to another,
and wherever it stands then, the object decodes as before. An object that has a field under two of
its names does not decode.

* `Respells`: one entry is written under another one of its names.
* `Decode.ByNames`: what a decoder does that only looks at the values under names.
* `Fields.byNames_record`: records are decoded so.
-/

namespace FineTuning.Json

variable {α : Type}

/-! ## Entries -/

section Entries

variable {entries entries' : List (String × Json)} {groups : List (List String)}

/-- One entry takes the place of another one, wherever the entries stand. -/
def Replaces (old new : String × Json) (entries entries' : List (String × Json)) : Prop :=
  ∃ others, entries.Perm (old :: others) ∧ entries'.Perm (new :: others)

/-- One entry is written under another one of its names, which are those of a group. -/
def Respells (groups : List (List String)) (entries entries' : List (String × Json)) : Prop :=
  ∃ names ∈ groups, ∃ old ∈ names, ∃ new ∈ names, ∃ value,
    Replaces (old, value) (new, value) entries entries'

/-- Both objects have the same values under the names of each group. -/
def SameUnder (groups : List (List String)) (entries entries' : List (String × Json)) : Prop :=
  ∀ names ∈ groups, (valuesUnder names entries).Perm (valuesUnder names entries')

theorem perm_valuesUnder (h : entries.Perm entries') (names : List String) :
    (valuesUnder names entries).Perm (valuesUnder names entries') :=
  (h.filter _).map _

theorem valuesUnder_cons_of_mem {names : List String} {key : String} (h : key ∈ names)
    (value : Json) (others : List (String × Json)) :
    valuesUnder names ((key, value) :: others) = value :: valuesUnder names others := by
  simp [valuesUnder, h]

theorem valuesUnder_cons_of_not_mem {names : List String} {key : String} (h : key ∉ names)
    (value : Json) (others : List (String × Json)) :
    valuesUnder names ((key, value) :: others) = valuesUnder names others := by
  simp [valuesUnder, h]

/-- What stands under other names stays as it is. -/
theorem Replaces.perm_valuesUnder {old new : String × Json} (h : Replaces old new entries entries')
    {names : List String} (hold : old.1 ∉ names) (hnew : new.1 ∉ names) :
    (valuesUnder names entries).Perm (valuesUnder names entries') := by
  obtain ⟨others, hentries, hentries'⟩ := h
  have hbefore := Json.perm_valuesUnder hentries names
  have hafter := Json.perm_valuesUnder hentries' names
  rw [valuesUnder_cons_of_not_mem hold] at hbefore
  rw [valuesUnder_cons_of_not_mem hnew] at hafter
  exact hbefore.trans hafter.symm

/-- Groups without common names: a name is in one group at most. -/
theorem eq_of_mem_of_mem (hapart : groups.flatten.Nodup) {names group : List String}
    (hnames : names ∈ groups) (hgroup : group ∈ groups) {name : String} (h : name ∈ names)
    (hmem : name ∈ group) : group = names := by
  by_contra hne
  have hsymm : Std.Symm (@List.Disjoint String) := ⟨fun _ _ => List.disjoint_symm⟩
  have hdisjoint : group.Disjoint names :=
    (List.nodup_flatten.mp hapart).2.forall hgroup hnames hne
  exact hdisjoint hmem h

/-- **Another name changes nothing** about the values under the names of each group. -/
theorem Respells.sameUnder (h : Respells groups entries entries')
    (hapart : groups.flatten.Nodup) : SameUnder groups entries entries' := by
  obtain ⟨names, hnames, old, hold, new, hnew, value, others, hentries, hentries'⟩ := h
  intro group hgroup
  have hbefore := perm_valuesUnder hentries group
  have hafter := perm_valuesUnder hentries' group
  by_cases hmem : old ∈ group
  · obtain rfl := eq_of_mem_of_mem hapart hnames hgroup hold hmem
    rw [valuesUnder_cons_of_mem hold] at hbefore
    rw [valuesUnder_cons_of_mem hnew] at hafter
    exact hbefore.trans hafter.symm
  · have hother : new ∉ group :=
      fun h => hmem (eq_of_mem_of_mem hapart hnames hgroup hnew h ▸ hold)
    exact Replaces.perm_valuesUnder ⟨others, hentries, hentries'⟩ hmem hother

/-- What is respelled stays so when the objects are kept with their fields in order. -/
theorem Respells.sortFields (h : Respells groups entries entries')
    (hkeys : (entries.map (·.1)).Nodup) (hkeys' : (entries'.map (·.1)).Nodup) :
    Respells groups (Json.sortFields (sortedValues entries))
      (Json.sortFields (sortedValues entries')) := by
  obtain ⟨names, hnames, old, hold, new, hnew, value, others, hentries, hentries'⟩ := h
  have hmoved : ∀ {fields first}, (fields.map (·.1)).Nodup → fields.Perm (first :: others) →
      (Json.sortFields (sortedValues fields)).Perm
        ((first.1, first.2.sorted) :: sortedValues others) := by
    intro fields first hdistinct hperm
    refine (perm_sortFields_sortedValues hdistinct).trans ?_
    rw [sortedValues_eq_map, sortedValues_eq_map]
    exact hperm.map _
  exact ⟨names, hnames, old, hold, new, hnew, value.sorted, sortedValues others,
    hmoved hkeys hentries, hmoved hkeys' hentries'⟩

end Entries

/-! ## Decoders -/

/-- The decoder reads an object by the values under the names of each group, of which there may be
one at most. -/
structure Decode.ByNames (groups : List (List String)) (decode : Decoder α) : Prop where
  same : ∀ {entries entries' v}, SameUnder groups entries entries' →
    decode (.ofJson (.object entries)) = .ok v → decode (.ofJson (.object entries')) = .ok v
  once : ∀ {entries v}, decode (.ofJson (.object entries)) = .ok v →
    ∀ names ∈ groups, (valuesUnder names entries).length ≤ 1

theorem Decode.ByNames.map {β : Type} {groups : List (List String)} {decode : Decoder α}
    (h : ByNames groups decode) (change : α → β) :
    ByNames groups fun reading => (decode reading).map change where
  same hsame hdecode := by
    obtain ⟨v, hv, hresult⟩ := map_eq_ok_iff.mp hdecode
    exact map_eq_ok_iff.mpr ⟨v, h.same hsame hv, hresult⟩
  once hdecode := by
    obtain ⟨v, hv, -⟩ := map_eq_ok_iff.mp hdecode
    exact h.once hv

/-- A field that is given twice is an error. -/
theorem Decode.ByNames.exists_error {groups : List (List String)} {decode : Decoder α}
    (h : ByNames groups decode) {names : List String} (hnames : names ∈ groups)
    {entries : List (String × Json)} (htwice : 1 < (valuesUnder names entries).length) :
    ∃ cause, decode (.ofJson (.object entries)) = .error cause := by
  cases hdecode : decode (.ofJson (.object entries)) with
  | ok v => exact absurd (h.once hdecode names hnames) (Nat.not_le.mpr htwice)
  | error cause => exact ⟨cause, rfl⟩

namespace Field

variable {field : Field α} {values values' : List Json} {v : α}

theorem isMadeOf_cons_iff {value : Json} :
    field.IsMadeOf (value :: values) v ↔ values = [] ∧ field.decode (.ofJson value) = .ok v := by
  constructor
  · intro h
    cases h with
    | once h => exact ⟨rfl, h⟩
  · rintro ⟨rfl, h⟩
    exact .once h

theorem IsMadeOf.of_perm (h : field.IsMadeOf values v) (hperm : values.Perm values') :
    field.IsMadeOf values' v := by
  cases h with
  | absent h =>
    obtain rfl := List.nil_perm.mp hperm
    exact .absent h
  | once h =>
    obtain rfl := List.singleton_perm.mp hperm
    exact .once h

theorem IsMadeOf.length_le_one (h : field.IsMadeOf values v) : values.length ≤ 1 := by
  cases h with
  | absent => exact Nat.zero_le 1
  | once => exact Nat.le_refl 1

end Field

namespace Fields

variable {τ : Type} {αs : List Type} {fields : Fields αs} {builder : Builder τ αs} {value : τ}
  {entries entries' : List (String × Json)}

/-- The names of each field. -/
def nameGroups : {αs : List Type} → Fields αs → List (List String)
  | _, .nil => []
  | _, .cons field rest => field.allNames :: rest.nameGroups

theorem flatten_nameGroups (fields : Fields αs) : fields.nameGroups.flatten = fields.allNames := by
  induction fields with
  | nil => rfl
  | cons field rest ih => rw [nameGroups, List.flatten_cons, ih, allNames]

theorem isBuiltFrom_of_sameUnder (hsame : SameUnder fields.nameGroups entries entries')
    (h : fields.IsBuiltFrom entries builder value) : fields.IsBuiltFrom entries' builder value := by
  induction fields with
  | nil => exact h
  | cons field rest ih =>
    obtain ⟨hfield, hrest⟩ := List.forall_mem_cons.mp hsame
    obtain ⟨v, hmade, hbuilt⟩ := h
    exact ⟨v, hmade.of_perm hfield, ih hrest hbuilt⟩

theorem length_le_one_of_isBuiltFrom (h : fields.IsBuiltFrom entries builder value) :
    ∀ names ∈ fields.nameGroups, (valuesUnder names entries).length ≤ 1 := by
  induction fields with
  | nil => exact nofun
  | cons field rest ih =>
    obtain ⟨v, hmade, hbuilt⟩ := h
    exact List.forall_mem_cons.mpr ⟨hmade.length_le_one, ih hbuilt⟩

/-- **A record is decoded by names,** if no two of its fields share one. -/
theorem byNames_record {groups : List (List String)} (hgroups : fields.nameGroups = groups)
    (hapart : groups.flatten.Nodup) (name : String) (surplus : Surplus) (builder : Builder τ αs) :
    Decode.ByNames groups (fields.record name surplus builder) := by
  subst hgroups
  rw [flatten_nameGroups] at hapart
  constructor
  · intro entries entries' value hsame hdecode
    rw [record_ofJson_object hapart] at hdecode ⊢
    exact isBuiltFrom_of_sameUnder hsame hdecode
  · intro entries value hdecode
    rw [record_ofJson_object hapart] at hdecode
    exact length_le_one_of_isBuiltFrom hdecode

end Fields

end FineTuning.Json
