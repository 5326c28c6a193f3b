import FineTuning.Proofs.Json.Records
import Mathlib.Data.List.Perm.Basic
import Mathlib.Data.String.Basic

/-!
# The order of the fields of an object

A value that is kept as JSON has the fields of its objects in the order of their keys, whatever
their order was in the text. Records are read from it all the same.

* `perm_sortFields`, `ascending_sortFields`: fields with distinct keys are only moved, and stand in
  ascending order afterwards.
* `Json.sorted`: a value with the fields of all its objects in order; `Reading.toJson?_ofJson` says
  that this is what a value is read as.
* `Fields.record_perm`: a record decodes from its fields in any order.
-/

namespace FineTuning.Json

/-! ## Sorting -/

section Sorting

variable {α : Type} {key : String} {value : α} {fields : List (String × α)}

/-- The keys stand in ascending order. -/
def Ascending (fields : List (String × α)) : Prop :=
  fields.Pairwise (·.1 < ·.1)

theorem forall_mem_insertField {p : String × α → Prop} (hnew : p (key, value))
    (h : ∀ field ∈ fields, p field) : ∀ field ∈ insertField key value fields, p field := by
  induction fields with
  | nil => exact List.forall_mem_singleton.mpr hnew
  | cons field rest ih =>
    obtain ⟨hfield, hrest⟩ := List.forall_mem_cons.mp h
    unfold insertField
    split
    · exact List.forall_mem_cons.mpr ⟨hnew, hrest⟩
    · split
      · exact List.forall_mem_cons.mpr ⟨hnew, h⟩
      · exact List.forall_mem_cons.mpr ⟨hfield, ih hrest⟩

/-- Under a new key nothing is replaced. -/
theorem perm_insertField (h : key ∉ fields.map (·.1)) :
    (insertField key value fields).Perm ((key, value) :: fields) := by
  induction fields with
  | nil => exact .refl _
  | cons field rest ih =>
    rw [List.map_cons, List.mem_cons, not_or] at h
    obtain ⟨hkey, hrest⟩ := h
    rw [insertField, if_neg hkey]
    split
    · exact .refl _
    · exact ((ih hrest).cons field).trans (.swap ..)

theorem Ascending.insertField (h : Ascending fields) :
    Ascending (insertField key value fields) := by
  induction fields with
  | nil => exact List.pairwise_singleton ..
  | cons field rest ih =>
    obtain ⟨k, v⟩ := field
    obtain ⟨hfirst, hrest⟩ := List.pairwise_cons.mp h
    rw [Json.insertField]
    split
    · rename_i hkey
      exact List.pairwise_cons.mpr ⟨hkey ▸ hfirst, hrest⟩
    · rename_i hne
      split
      · rename_i hlt
        have hbefore : ∀ field ∈ rest, key < field.1 := fun f hf => hlt.trans (hfirst f hf)
        exact List.pairwise_cons.mpr ⟨List.forall_mem_cons.mpr ⟨hlt, hbefore⟩, h⟩
      · rename_i hnot
        have hgt : k < key := lt_of_le_of_ne (not_lt.mp hnot) (Ne.symm hne)
        exact List.pairwise_cons.mpr ⟨forall_mem_insertField hgt hfirst, ih hrest⟩

/-- A field that is there already can be set without a change. -/
theorem Ascending.insertField_of_mem (h : Ascending fields) (hmem : (key, value) ∈ fields) :
    Json.insertField key value fields = fields := by
  induction fields with
  | nil => cases hmem
  | cons field rest ih =>
    obtain ⟨k, v⟩ := field
    obtain ⟨hfirst, hrest⟩ := List.pairwise_cons.mp h
    rw [Json.insertField]
    rcases List.mem_cons.mp hmem with heq | hmem
    · obtain ⟨rfl, rfl⟩ := Prod.mk.inj heq
      rw [if_pos rfl]
    · have hlt : k < key := hfirst _ hmem
      rw [if_neg hlt.ne', if_neg hlt.asymm, ih hrest hmem]

/-- A value is found under each key that is there. -/
theorem exists_field?_of_mem (h : (key, value) ∈ fields) :
    ∃ found, field? key fields = some found := by
  have hfind : (fields.find? (·.1 == key)).isSome = true :=
    List.find?_isSome.mpr ⟨(key, value), h, beq_self_eq_true key⟩
  obtain ⟨field, hfield⟩ := Option.isSome_iff_exists.mp hfind
  exact ⟨field.2, by rw [field?, hfield, Option.map_some]⟩

theorem ascending_foldl_insertField (sorted : List (String × α)) (h : Ascending sorted) :
    Ascending (fields.foldl (fun sorted field => insertField field.1 field.2 sorted) sorted) := by
  induction fields generalizing sorted with
  | nil => exact h
  | cons field rest ih => exact ih _ h.insertField

theorem ascending_sortFields (fields : List (String × α)) : Ascending (sortFields fields) :=
  ascending_foldl_insertField [] .nil

theorem perm_foldl_insertField (fields sorted : List (String × α))
    (h : ((fields ++ sorted).map (·.1)).Nodup) :
    (fields.foldl (fun sorted field => insertField field.1 field.2 sorted) sorted).Perm
      (fields ++ sorted) := by
  induction fields generalizing sorted with
  | nil => exact .refl _
  | cons field rest ih =>
    have hnew : field.1 ∉ sorted.map (·.1) := by
      rw [List.cons_append, List.map_cons, List.nodup_cons, List.map_append, List.mem_append,
        not_or] at h
      exact h.1.2
    have hmoved : (rest ++ insertField field.1 field.2 sorted).Perm (field :: rest ++ sorted) :=
      ((perm_insertField hnew).append_left rest).trans List.perm_middle
    exact (ih _ ((hmoved.map _).nodup_iff.mpr h)).trans hmoved

/-- **Fields with distinct keys are only moved.** -/
theorem perm_sortFields (h : (fields.map (·.1)).Nodup) : (sortFields fields).Perm fields := by
  have hmoved := perm_foldl_insertField fields [] (by rwa [List.append_nil])
  rwa [List.append_nil] at hmoved

end Sorting

/-! ## Values with all fields in order -/

mutual

/-- The value with the fields of all its objects in order. -/
def sorted : Json → Json
  | .null => .null
  | .bool b => .bool b
  | .number n => .number n
  | .string s => .string s
  | .array items => .array (sortedItems items)
  | .object fields => .object (sortFields (sortedValues fields))

/-- The items of an array, each in order. -/
def sortedItems : List Json → List Json
  | [] => []
  | item :: rest => sorted item :: sortedItems rest

/-- The fields of an object as they stand, with the value of each in order. -/
def sortedValues : List (String × Json) → List (String × Json)
  | [] => []
  | (key, value) :: rest => (key, sorted value) :: sortedValues rest

end

theorem sortedValues_eq_map (fields : List (String × Json)) :
    sortedValues fields = fields.map fun field => (field.1, field.2.sorted) := by
  induction fields with
  | nil => rfl
  | cons field rest ih => rw [sortedValues, ih, List.map_cons]

@[simp] theorem sorted_string (s : String) : (Json.string s).sorted = .string s := rfl

@[simp] theorem sorted_bool (b : Bool) : (Json.bool b).sorted = .bool b := rfl

@[simp] theorem sorted_ofNat (n : Nat) : (ofNat n).sorted = ofNat n := rfl

@[simp] theorem sorted_ofDouble (d : Double) : (ofDouble d).sorted = ofDouble d := by
  unfold ofDouble
  split <;> rfl

/-- Values without fields stay as they are. -/
theorem sortedValues_eq_self {fields : List (String × Json)}
    (h : ∀ field ∈ fields, field.2.sorted = field.2) : sortedValues fields = fields := by
  induction fields with
  | nil => rfl
  | cons field rest ih =>
    obtain ⟨hfield, hrest⟩ := List.forall_mem_cons.mp h
    rw [sortedValues, hfield, ih hrest]

theorem sortedValues_append (fields fields' : List (String × Json)) :
    sortedValues (fields ++ fields') = sortedValues fields ++ sortedValues fields' := by
  rw [sortedValues_eq_map, sortedValues_eq_map, sortedValues_eq_map, List.map_append]

theorem sortedValues_fieldIfSome (key : String) (value? : Option Json) :
    sortedValues (fieldIfSome key value?) = fieldIfSome key (value?.map (·.sorted)) := by
  cases value? <;> rfl

theorem keys_sortedValues (fields : List (String × Json)) :
    (sortedValues fields).map (·.1) = fields.map (·.1) := by
  rw [sortedValues_eq_map, List.map_map]
  rfl

/-- The fields of a sorted object are those of the object, if their keys are distinct. -/
theorem perm_sortFields_sortedValues {fields : List (String × Json)}
    (h : (fields.map (·.1)).Nodup) :
    (sortFields (sortedValues fields)).Perm (sortedValues fields) :=
  perm_sortFields (by rwa [keys_sortedValues])

namespace Reading

mutual

/-- **A value is read with its fields in order.** -/
theorem toJson?_ofJson (value : Json) : toJson? (ofJson value) = some value.sorted := by
  match value with
  | .null | .bool _ | .number _ | .string _ => rw [ofJson, toJson?, sorted]
  | .array items => rw [ofJson, toJson?, itemsToJson?_ofItems items, Option.map_some, sorted]
  | .object fields => rw [ofJson, toJson?, fieldsToJson?_ofFields fields, Option.map_some, sorted]

theorem itemsToJson?_ofItems (items : List Json) :
    itemsToJson? (ofItems items) = some (sortedItems items) := by
  match items with
  | [] => rfl
  | item :: rest =>
    rw [ofItems, itemsToJson?, toJson?_ofJson item, itemsToJson?_ofItems rest, sortedItems]

theorem fieldsToJson?_ofFields (fields : List (String × Json)) :
    fieldsToJson? (ofFields fields) = some (sortedValues fields) := by
  match fields with
  | [] => rfl
  | (key, value) :: rest =>
    simp only [ofFields, fieldsToJson?, toJson?_ofJson value, fieldsToJson?_ofFields rest,
      sortedValues]

end

theorem isReadable_ofJson (value : Json) : (ofJson value).isReadable = true := by
  rw [isReadable, toJson?_ofJson, Option.isSome_some]

/-- Fields that are moved are moved as readings. -/
theorem perm_ofFields {fields fields' : List (String × Json)} (h : fields.Perm fields') :
    (ofFields fields).Perm (ofFields fields') := by
  rw [ofFields_eq_map, ofFields_eq_map]
  exact h.map _

end Reading

/-- A value that is kept as JSON is kept with its fields in order. -/
theorem Decode.json_ofJson (value : Json) : Decode.json (.ofJson value) = .ok value.sorted := by
  rw [Decode.json, Reading.toJson?_ofJson]

/-- So are the fields of an object. -/
theorem Decode.fields_ofJson (entries : List (String × Json)) :
    Decode.fields (.ofJson (.object entries)) = .ok (sortFields (sortedValues entries)) := by
  have hread := Reading.toJson?_ofJson (.object entries)
  rw [sorted, Reading.ofJson] at hread
  simp only [Reading.ofJson, Decode.fields, hread]

/-! ## Records -/

namespace Fields

variable {τ : Type} {αs : List Type} {fields : Fields αs}

/-- Two entries can be read the other way round: they are not for the same field. -/
theorem visit_comm {key key' : Option String} {reading reading' : Reading}
    {slots between slots' : Slots αs} (h : fields.visit key reading slots = .ok between)
    (h' : fields.visit key' reading' between = .ok slots') :
    ∃ between', fields.visit key' reading' slots = .ok between' ∧
      fields.visit key reading between' = .ok slots' := by
  induction fields with
  | nil => exact ⟨(), rfl, rfl⟩
  | cons field rest ih =>
    obtain ⟨slot, slots⟩ := slots
    -- A field is read once, so at most one of the two entries is for the first field.
    cases hkey : field.isNamed key <;> cases hkey' : field.isNamed key'
    · obtain ⟨after, hrest, rfl⟩ := (visit_unnamed hkey).mp h
      obtain ⟨last, hrest', rfl⟩ := (visit_unnamed hkey').mp h'
      obtain ⟨after', hfirst, hsecond⟩ := ih hrest hrest'
      exact ⟨(slot, after'), (visit_unnamed hkey').mpr ⟨after', hfirst, rfl⟩,
        (visit_unnamed hkey).mpr ⟨last, hsecond, rfl⟩⟩
    · obtain ⟨after, hrest, rfl⟩ := (visit_unnamed hkey).mp h
      obtain ⟨rfl, v, hdecode, rfl⟩ := (visit_named hkey').mp h'
      exact ⟨(some v, slots), (visit_named hkey').mpr ⟨rfl, v, hdecode, rfl⟩,
        (visit_unnamed hkey).mpr ⟨after, hrest, rfl⟩⟩
    · obtain ⟨rfl, v, hdecode, rfl⟩ := (visit_named hkey).mp h
      obtain ⟨after, hrest, rfl⟩ := (visit_unnamed hkey').mp h'
      exact ⟨(none, after), (visit_unnamed hkey').mpr ⟨after, hrest, rfl⟩,
        (visit_named hkey).mpr ⟨rfl, v, hdecode, rfl⟩⟩
    · obtain ⟨rfl, v, -, rfl⟩ := (visit_named hkey).mp h
      obtain ⟨hread, -⟩ := (visit_named hkey').mp h'
      cases hread

/-- **The order of the entries does not matter** to what is read from an object. -/
theorem visitAll_perm {entries entries' : Reading.Fields} {slots slots' : Slots αs}
    (hperm : entries.Perm entries') (h : fields.visitAll slots entries = .ok slots') :
    fields.visitAll slots entries' = .ok slots' := by
  induction hperm generalizing slots with
  | nil => exact h
  | cons entry _ ih =>
    obtain ⟨hkey, between, hvisit, hall⟩ := visitAll_cons_eq_ok_iff.mp h
    exact visitAll_cons_eq_ok_iff.mpr ⟨hkey, between, hvisit, ih hall⟩
  | swap entry entry' entries =>
    obtain ⟨hkey', between, hvisit', h⟩ := visitAll_cons_eq_ok_iff.mp h
    obtain ⟨hkey, after, hvisit, hall⟩ := visitAll_cons_eq_ok_iff.mp h
    obtain ⟨between', hfirst, hsecond⟩ := visit_comm hvisit' hvisit
    refine visitAll_cons_eq_ok_iff.mpr ⟨hkey, between', hfirst, ?_⟩
    exact visitAll_cons_eq_ok_iff.mpr ⟨hkey', after, hsecond, hall⟩
  | trans _ _ ih ih' => exact ih' (ih h)

/-- **A record decodes from its fields in any order.** -/
theorem record_perm {entries entries' : Reading.Fields} {name : String} {surplus : Surplus}
    {builder : Builder τ αs} {value : τ} (hperm : entries.Perm entries')
    (h : fields.record name surplus builder (.object entries true) = .ok value) :
    fields.record name surplus builder (.object entries' true) = .ok value := by
  obtain ⟨slots, hall, hbuild⟩ := bind_eq_ok_iff.mp h
  rw [record, visitAll_perm hperm hall]
  exact hbuild

/-- So it decodes from an object with its fields in order. -/
theorem record_sorted {object : List (String × Json)} {name : String} {surplus : Surplus}
    {builder : Builder τ αs} {value : τ} (hkeys : (object.map (·.1)).Nodup)
    (h : fields.record name surplus builder
      (.object (Reading.ofFields (sortedValues object)) true) = .ok value) :
    fields.record name surplus builder (.ofJson (Json.object object).sorted) = .ok value := by
  rw [sorted, Reading.ofJson]
  exact record_perm (Reading.perm_ofFields (perm_sortFields_sortedValues hkeys).symm) h

end Fields

end FineTuning.Json
