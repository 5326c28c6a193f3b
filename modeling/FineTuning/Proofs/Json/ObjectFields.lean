import FineTuning.Proofs.Json.Records

/-!
# Records in objects

An object decodes as a record field by field: each field is made of the values under its names, of
which there may be one at most, and the other keys do not matter to it.

* `Fields.visitAll_unread_iff`: a field takes the entries under its names and leaves the others.
* `Fields.record_ofJson_object`: what the values of the fields are, if no two share a name.
* `SetBy`: what an optional field is set to.
-/

namespace FineTuning.Json

variable {α : Type} {αs : List Type} {τ : Type}

/-- The values that stand under one of the names, in order. -/
def valuesUnder (names : List String) (properties : List (String × Json)) : List Json :=
  (properties.filter fun property => names.contains property.1).map (·.2)

/-- Leaving out entries under other names changes nothing. -/
theorem valuesUnder_filter {names others : List String} (h : ∀ name ∈ names, name ∉ others)
    (properties : List (String × Json)) :
    valuesUnder names (properties.filter fun property => !others.contains property.1) =
      valuesUnder names properties := by
  rw [valuesUnder, List.filter_filter, valuesUnder]
  congr 2
  funext property
  by_cases hname : property.1 ∈ names
  · simp [hname, h _ hname]
  · simp [hname]

/-! ## One field -/

namespace Field

variable {field : Field α}

/-- The names under which a field is read. -/
def allNames (field : Field α) : List String :=
  field.name :: field.aliases

theorem isNamed_some (field : Field α) (key : String) :
    field.isNamed (some key) = field.allNames.contains key := by
  rw [isNamed, allNames, List.contains_cons]

theorem ne_none_of_isNamed {key : Option String} (h : field.isNamed key = true) : key ≠ none := by
  rintro rfl
  cases h

/-- What is read of a field from the readings under its names: it may be given once. -/
inductive Reads (field : Field α) : List Reading → Option α → Prop
  | absent : Reads field [] none
  | once {reading : Reading} {v : α} (h : field.decode reading = .ok v) :
    Reads field [reading] (some v)

theorem reads_nil_iff {slot : Option α} : field.Reads [] slot ↔ slot = none := by
  constructor
  · intro h
    cases h
    rfl
  · rintro rfl
    exact .absent

theorem reads_cons_iff {reading : Reading} {others : List Reading} {slot : Option α} :
    field.Reads (reading :: others) slot ↔
      others = [] ∧ ∃ v, field.decode reading = .ok v ∧ slot = some v := by
  constructor
  · intro h
    cases h with
    | once h => exact ⟨rfl, _, h, rfl⟩
  · rintro ⟨rfl, v, h, rfl⟩
    exact .once h

/-- What the values under its names make of a field. -/
inductive IsMadeOf (field : Field α) : List Json → α → Prop
  | absent {v : α} (h : field.absent = some v) : IsMadeOf field [] v
  | once {value : Json} {v : α} (h : field.decode (.ofJson value) = .ok v) :
    IsMadeOf field [value] v

theorem isMadeOf_iff {values : List Json} {v : α} :
    field.IsMadeOf values v ↔
      ∃ slot, field.Reads (values.map .ofJson) slot ∧ slot.or field.absent = some v := by
  constructor
  · rintro (h | h)
    · exact ⟨none, .absent, h⟩
    · exact ⟨some v, .once h, rfl⟩
  · rintro ⟨slot, hreads, hslot⟩
    match values with
    | [] =>
      cases hreads
      exact .absent hslot
    | [value] =>
      cases hreads with
      | once h =>
        cases hslot
        exact .once h
    | _ :: _ :: _ => cases hreads

end Field

namespace Fields

variable {field : Field α} {rest : Fields αs} {entries : Reading.Fields} {slot : Option α}
  {slots slots' : Slots αs}

/-- A field that was read is not given again. -/
theorem visitAll_read_iff {v : α} :
    (Fields.cons field rest).visitAll (some v, slots) entries = .ok (slot, slots') ↔
      (∀ entry ∈ entries, field.isNamed entry.1 = false) ∧ slot = some v ∧
        rest.visitAll slots entries = .ok slots' := by
  induction entries generalizing slots with
  | nil =>
    rw [visitAll, visitAll, Except.ok.injEq, Except.ok.injEq, Prod.mk.injEq]
    simp only [List.not_mem_nil, false_implies, implies_true, true_and, eq_comm]
  | cons entry entries ih =>
    rw [visitAll_cons_eq_ok_iff, visitAll_cons_eq_ok_iff, List.forall_mem_cons]
    cases hnamed : field.isNamed entry.1 with
    | true => simp [visit_named hnamed]
    | false =>
      simp only [visit_unnamed hnamed]
      constructor
      · rintro ⟨hkey, -, ⟨after, hvisit, rfl⟩, hall⟩
        obtain ⟨hentries, hslot, hall⟩ := ih.mp hall
        exact ⟨⟨trivial, hentries⟩, hslot, hkey, after, hvisit, hall⟩
      · rintro ⟨⟨-, hentries⟩, hslot, hkey, after, hvisit, hall⟩
        exact ⟨hkey, _, ⟨after, hvisit, rfl⟩, ih.mpr ⟨hentries, hslot, hall⟩⟩

/-- **A field takes the entries under its names** and leaves the others to the fields after it. -/
theorem visitAll_unread_iff :
    (Fields.cons field rest).visitAll (none, slots) entries = .ok (slot, slots') ↔
      field.Reads ((entries.filter fun entry => field.isNamed entry.1).map (·.2)) slot ∧
        rest.visitAll slots (entries.filter fun entry => !field.isNamed entry.1) = .ok slots' := by
  induction entries generalizing slots with
  | nil =>
    rw [visitAll, List.filter_nil, List.filter_nil, visitAll, Except.ok.injEq, Except.ok.injEq,
      Prod.mk.injEq, List.map_nil, Field.reads_nil_iff, eq_comm]
  | cons entry entries ih =>
    rw [visitAll_cons_eq_ok_iff]
    cases hnamed : field.isNamed entry.1 with
    | true =>
      -- No more entries may be under the names of this field.
      have hkey : entry.1 ≠ none := Field.ne_none_of_isNamed hnamed
      have hnone : entries.filter (fun entry => field.isNamed entry.1) = [] ↔
          ∀ entry ∈ entries, field.isNamed entry.1 = false := by
        simp
      have hleft : (∀ entry ∈ entries, field.isNamed entry.1 = false) →
          entries.filter (fun entry => !field.isNamed entry.1) = entries := by
        simp
      simp only [visit_named hnamed, List.filter_cons, hnamed, ↓reduceIte, Bool.not_true,
        Bool.false_eq_true, List.map_cons, Field.reads_cons_iff, List.map_eq_nil_iff, hnone]
      constructor
      · rintro ⟨-, -, ⟨-, v, hdecode, rfl⟩, hall⟩
        obtain ⟨hentries, hslot, hrest⟩ := visitAll_read_iff.mp hall
        rw [hleft hentries]
        exact ⟨⟨hentries, v, hdecode, hslot⟩, hrest⟩
      · rintro ⟨⟨hentries, v, hdecode, rfl⟩, hall⟩
        rw [hleft hentries] at hall
        exact ⟨hkey, _, ⟨trivial, v, hdecode, rfl⟩, visitAll_read_iff.mpr ⟨hentries, rfl, hall⟩⟩
    | false =>
      simp only [visit_unnamed hnamed, List.filter_cons, hnamed, Bool.false_eq_true, ↓reduceIte,
        Bool.not_false, visitAll_cons_eq_ok_iff]
      constructor
      · rintro ⟨hkey, -, ⟨after, hvisit, rfl⟩, hall⟩
        obtain ⟨hreads, hall⟩ := ih.mp hall
        exact ⟨hreads, hkey, after, hvisit, hall⟩
      · rintro ⟨hreads, hkey, after, hvisit, hall⟩
        exact ⟨hkey, _, ⟨after, hvisit, rfl⟩, ih.mpr ⟨hreads, hall⟩⟩

/-- The names of all fields. -/
def allNames : {αs : List Type} → Fields αs → List String
  | _, .nil => []
  | _, .cons field rest => field.allNames ++ rest.allNames

/-- The record is built from values of its fields, each made of what stands under its names. -/
def IsBuiltFrom (properties : List (String × Json)) :
    {αs : List Type} → Fields αs → Builder τ αs → τ → Prop
  | _, .nil, result, value => result = value
  | _, .cons field rest, builder, value =>
    ∃ v, field.IsMadeOf (valuesUnder field.allNames properties) v ∧
      rest.IsBuiltFrom properties (builder v) value

/-- Entries under other names do not matter. -/
theorem isBuiltFrom_filter {names : List String} {properties : List (String × Json)}
    {fields : Fields αs} {builder : Builder τ αs} {value : τ}
    (h : ∀ name ∈ fields.allNames, name ∉ names) :
    fields.IsBuiltFrom (properties.filter fun property => !names.contains property.1) builder
      value ↔ fields.IsBuiltFrom properties builder value := by
  induction fields with
  | nil => exact Iff.rfl
  | cons field rest ih =>
    obtain ⟨hfield, hrest⟩ := List.forall_mem_append.mp h
    simp only [IsBuiltFrom, valuesUnder_filter hfield, ih hrest]

theorem build_cons_eq_ok_iff {builder : Builder τ (α :: αs)} {value : τ} :
    (Fields.cons field rest).build builder (slot, slots) = .ok value ↔
      ∃ v, slot.or field.absent = some v ∧ rest.build (builder v) slots = .ok value := by
  rw [build]
  cases slot.or field.absent <;> simp

/-- The readings under the names of a field are those of the values there. -/
theorem ofFields_filter_isNamed (properties : List (String × Json)) :
    ((Reading.ofFields properties).filter fun entry => field.isNamed entry.1).map (·.2) =
      (valuesUnder field.allNames properties).map .ofJson := by
  rw [Reading.ofFields_eq_map, List.filter_map, List.map_map, valuesUnder, List.map_map]
  simp only [Function.comp_def, Field.isNamed_some]

theorem ofFields_filter_not_isNamed (properties : List (String × Json)) :
    ((Reading.ofFields properties).filter fun entry => !field.isNamed entry.1) =
      Reading.ofFields
        (properties.filter fun property => !field.allNames.contains property.1) := by
  rw [Reading.ofFields_eq_map, List.filter_map, Reading.ofFields_eq_map]
  simp only [Function.comp_def, Field.isNamed_some]

theorem visitAll_nil (properties : List (String × Json)) :
    Fields.nil.visitAll () (Reading.ofFields properties) = .ok () := by
  induction properties with
  | nil => rfl
  | cons property properties ih => exact ih

theorem exists_slots_iff_isBuiltFrom {properties : List (String × Json)} {fields : Fields αs}
    {builder : Builder τ αs} {value : τ} (h : fields.allNames.Nodup) :
    (∃ slots, fields.visitAll fields.unread (Reading.ofFields properties) = .ok slots ∧
      fields.build builder slots = .ok value) ↔ fields.IsBuiltFrom properties builder value := by
  induction fields generalizing properties with
  | nil =>
    constructor
    · rintro ⟨slots, -, hbuild⟩
      exact Except.ok.inj hbuild
    · rintro rfl
      exact ⟨(), visitAll_nil properties, rfl⟩
  | cons field rest ih =>
    obtain ⟨-, hrest, hapart⟩ := List.nodup_append.mp h
    have hothers : ∀ name ∈ rest.allNames, name ∉ field.allNames :=
      fun name hname hfield => hapart name hfield name hname rfl
    simp only [IsBuiltFrom, Field.isMadeOf_iff]
    constructor
    · rintro ⟨⟨slot, slots⟩, hall, hbuild⟩
      obtain ⟨hreads, hall⟩ := visitAll_unread_iff.mp hall
      obtain ⟨v, hv, hbuild⟩ := build_cons_eq_ok_iff.mp hbuild
      rw [ofFields_filter_isNamed] at hreads
      rw [ofFields_filter_not_isNamed] at hall
      exact ⟨v, ⟨slot, hreads, hv⟩,
        (isBuiltFrom_filter hothers).mp ((ih hrest).mp ⟨slots, hall, hbuild⟩)⟩
    · rintro ⟨v, ⟨slot, hreads, hv⟩, hbuilt⟩
      obtain ⟨slots, hall, hbuild⟩ := (ih hrest).mpr ((isBuiltFrom_filter hothers).mpr hbuilt)
      rw [← ofFields_filter_isNamed] at hreads
      rw [← ofFields_filter_not_isNamed] at hall
      exact ⟨(slot, slots), visitAll_unread_iff.mpr ⟨hreads, hall⟩,
        build_cons_eq_ok_iff.mpr ⟨v, hv, hbuild⟩⟩

/-- **A record in an object** is built from values of its fields, each made of what stands under
its names. -/
theorem record_ofJson_object {properties : List (String × Json)} {fields : Fields αs}
    {builder : Builder τ αs} {value : τ} (h : fields.allNames.Nodup) (name : String)
    (surplus : Surplus) :
    fields.record name surplus builder (.ofJson (.object properties)) = .ok value ↔
      fields.IsBuiltFrom properties builder value := by
  rw [← exists_slots_iff_isBuiltFrom h, Reading.ofJson, record, bind_eq_ok_iff]
  rfl

end Fields

/-! ## Optional fields -/

/-- What an optional field is set to: to nothing if there is no value under its names or only
`null`, and otherwise to what is accepted for the one value. -/
inductive SetBy (Accepts : Json → α → Prop) : List Json → Option α → Prop
  | absent : SetBy Accepts [] none
  | null : SetBy Accepts [.null] none
  | set {value : Json} {v : α} (hvalue : value ≠ .null) (h : Accepts value v) :
    SetBy Accepts [value] (some v)

theorem Reading.ofJson_ne_null {value : Json} (h : value ≠ .null) : ofJson value ≠ .null := by
  cases value <;> simp_all [ofJson]

theorem Decode.optional_eq_ok_iff {decode : Decoder α} {r : Reading} {v? : Option α}
    (hnull : r ≠ .null) : optional decode r = .ok v? ↔ ∃ v, decode r = .ok v ∧ some v = v? := by
  unfold optional
  split
  · contradiction
  · exact map_eq_ok_iff

/-- An optional field is made of values by its decoder, except that `null` stands for nothing. -/
theorem Field.isMadeOf_optional_iff {field : Field (Option α)} {decode : Decoder α}
    {values : List Json} {v? : Option α} (hdecode : field.decode = Decode.optional decode)
    (habsent : field.absent = some none) :
    field.IsMadeOf values v? ↔
      SetBy (fun value v => decode (.ofJson value) = .ok v) values v? := by
  constructor
  · rintro (h | @⟨value, _, h⟩)
    · rw [habsent] at h
      cases h
      exact .absent
    · rw [hdecode] at h
      by_cases hvalue : value = .null
      · rw [hvalue, Reading.ofJson] at h
        cases h
        exact hvalue ▸ .null
      · obtain ⟨v, hv, rfl⟩ := (Decode.optional_eq_ok_iff (Reading.ofJson_ne_null hvalue)).mp h
        exact .set hvalue hv
  · rintro (_ | _ | ⟨hvalue, h⟩)
    · exact .absent habsent
    · exact .once (hdecode ▸ rfl)
    · exact .once (hdecode ▸ Decode.optional_eq_ok (Reading.ofJson_ne_null hvalue) h)

namespace SetBy

variable {Accepts : Json → α → Prop} {values : List Json} {value : Json} {v? : Option α}

theorem eq_none_iff (h : SetBy Accepts values v?) :
    v? = none ↔ ∀ value ∈ values, value = .null := by
  cases h with
  | absent | null => simp
  | set hvalue => simp [hvalue]

theorem exists_of_ne_null (h : SetBy Accepts values v?) (hmem : value ∈ values)
    (hvalue : value ≠ .null) : ∃ v, v? = some v ∧ Accepts value v := by
  cases h with
  | absent => cases hmem
  | null => exact absurd (List.mem_singleton.mp hmem) hvalue
  | @set _ v _ h =>
    obtain rfl := List.mem_singleton.mp hmem
    exact ⟨v, rfl, h⟩

/-- An optional field is read just when it is given once at most, and its value is accepted unless
it is `null`. -/
theorem exists_iff : (∃ v?, SetBy Accepts values v?) ↔
    values.length ≤ 1 ∧ ∀ value ∈ values, value = .null ∨ ∃ v, Accepts value v := by
  match values with
  | [] => exact ⟨fun _ => by simp, fun _ => ⟨none, .absent⟩⟩
  | [value] =>
    rw [List.forall_mem_singleton]
    constructor
    · rintro ⟨_, _ | _ | ⟨_, h⟩⟩
      · exact ⟨Nat.le_refl 1, .inl rfl⟩
      · exact ⟨Nat.le_refl 1, .inr ⟨_, h⟩⟩
    · rintro ⟨-, h⟩
      by_cases hvalue : value = .null
      · exact ⟨none, hvalue ▸ .null⟩
      · obtain ⟨v, hv⟩ := h.resolve_left hvalue
        exact ⟨some v, .set hvalue hv⟩
  | _ :: _ :: _ => exact ⟨fun ⟨_, h⟩ => (by cases h), fun ⟨h, _⟩ => absurd h (by simp)⟩

end SetBy

end FineTuning.Json
