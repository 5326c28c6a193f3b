import FineTuning.Proofs.Json.Records

/-!
# Texts that are replaced in records

A record can be decoded before or after some of its parts are changed: if each field takes a changed
part to the changed value, and the changed values build the changed record, then both ways give the
same, errors included. Here the parts are texts, which are replaced at certain keys of an object or
indices of an array.

* `Reading.ofJson_replaceAt`: a value is seen as a reading before or after the change.
* `Fields.visitAll_changeParts`, `Fields.buildFromItems_changeParts`: what is read of the parts.
* `Fields.record_changeParts`: the record.
* `Field.follows_replaced`, `Field.follows_kept`: fields of texts, and fields at other places.
-/

namespace FineTuning.Json

/-! ## Changed parts -/

/-- The value with its text replaced, if it is one. -/
def replaceText (replace : String → String) : Json → Json
  | .string s => .string (replace s)
  | value => value

/-- Places in a record: keys, if it is an object, and indices, if it is an array. -/
structure Places where
  keys : List String
  indices : List Nat

/-- The value with the texts replaced that stand at the places. -/
def replaceAt (places : Places) (replace : String → String) : Json → Json
  | .object fields => .object <| fields.map fun (key, value) =>
    (key, if places.keys.contains key then value.replaceText replace else value)
  | .array items => .array <| items.mapIdx fun index item =>
    if places.indices.contains index then item.replaceText replace else item
  | value => value

namespace Reading

/-- The reading with its text replaced, if it is one. -/
def replaceText (replace : String → String) : Reading → Reading
  | .string s => .string (replace s)
  | r => r

/-- The reading with its fields and items changed. -/
def changeParts (onField : Option String → Reading → Reading) (onItem : Nat → Reading → Reading) :
    Reading → Reading
  | .object entries closed =>
    .object (entries.map fun entry => (entry.1, onField entry.1 entry.2)) closed
  | .array items closed => .array (items.mapIdx onItem) closed
  | r => r

/-- The value of a field with its text replaced, if it stands at one of the places. -/
def replaceField (places : Places) (replace : String → String) (key : Option String)
    (r : Reading) : Reading :=
  if key.any places.keys.contains then r.replaceText replace else r

/-- An item with its text replaced, if it stands at one of the places. -/
def replaceItem (places : Places) (replace : String → String) (index : Nat) (r : Reading) :
    Reading :=
  if places.indices.contains index then r.replaceText replace else r

variable (places : Places) (replace : String → String)

theorem ofJson_replaceText (value : Json) :
    ofJson (value.replaceText replace) = (ofJson value).replaceText replace := by
  cases value <;> rfl

/-- A value is seen as a reading before or after its texts are replaced. -/
theorem ofJson_replaceAt (value : Json) :
    ofJson (value.replaceAt places replace) =
      (ofJson value).changeParts (replaceField places replace) (replaceItem places replace) := by
  cases value with
  | object fields =>
    simp only [replaceAt, ofJson, changeParts, ofFields_eq_map, List.map_map]
    congr 1
    refine List.map_congr_left fun field _ => ?_
    simp only [Function.comp_apply, replaceField, Option.any_some, apply_ite ofJson,
      ofJson_replaceText]
  | array items =>
    simp only [replaceAt, ofJson, changeParts, ofItems_eq_map]
    congr 1
    refine List.ext_getElem (by simp) fun index _ _ => ?_
    simp only [List.getElem_map, List.getElem_mapIdx, replaceItem, apply_ite ofJson,
      ofJson_replaceText]
  | _ => rfl

end Reading

/-! ## Texts -/

theorem Decode.string_replaceText (replace : String → String) (r : Reading) :
    Decode.string (r.replaceText replace) = (Decode.string r).map replace := by
  cases r <;> rfl

theorem Decode.optional_string_replaceText (replace : String → String) (r : Reading) :
    Decode.optional Decode.string (r.replaceText replace) =
      (Decode.optional Decode.string r).map (·.map replace) := by
  cases r <;> rfl

/-! ## Changed records -/

/-- What is done to the value of each field. -/
inductive Changes : List Type → Type 1 where
  | nil : Changes []
  | cons {α : Type} {αs : List Type} (change : α → α) (rest : Changes αs) : Changes (α :: αs)

namespace Changes

variable {τ : Type}

/-- What has been read of the fields, with every value changed. -/
def slots : {αs : List Type} → Changes αs → Slots αs → Slots αs
  | _, .nil, _ => ()
  | _, .cons change rest, (slot, others) => (slot.map change, rest.slots others)

/-- The record that is built from the changed values is the changed record. -/
def Commute (onRecord : τ → τ) : {αs : List Type} → Changes αs → Builder τ αs → Builder τ αs → Prop
  | _, .nil, result, result' => result' = onRecord result
  | _, .cons change rest, builder, builder' =>
    ∀ v, rest.Commute onRecord (builder v) (builder' (change v))

end Changes

section

variable (onField : Option String → Reading → Reading) (onItem : Nat → Reading → Reading)

/-- From changed parts, the field at an index takes a changed value. -/
structure Field.Follows {α : Type} (field : Field α) (index : Nat) (change : α → α) : Prop where
  entry : ∀ key r, field.isNamed key = true →
    field.decode (onField key r) = (field.decode r).map change
  item : ∀ r, field.decode (onItem index r) = (field.decode r).map change
  absent : field.absent.map change = field.absent

/-- From changed parts, every field takes a changed value. -/
def Fields.Follow (index : Nat) : {αs : List Type} → Fields αs → Changes αs → Prop
  | _, .nil, .nil => True
  | _, .cons field rest, .cons change changes =>
    field.Follows onField onItem index change ∧ rest.Follow (index + 1) changes

end

namespace Fields

variable {τ : Type} {αs : List Type} {fields : Fields αs} {changes : Changes αs}
  {onField : Option String → Reading → Reading} {onItem : Nat → Reading → Reading} {index : Nat}

theorem slots_unread (fields : Fields αs) (changes : Changes αs) :
    changes.slots fields.unread = fields.unread := by
  induction fields with
  | nil => cases changes; rfl
  | cons field rest ih =>
    obtain _ | ⟨change, changes⟩ := changes
    rw [unread, Changes.slots, ih, Option.map_none]

theorem visit_onField (h : fields.Follow onField onItem index changes) (key : Option String)
    (r : Reading) (slots : Slots αs) :
    fields.visit key (onField key r) (changes.slots slots) =
      (fields.visit key r slots).map changes.slots := by
  induction fields generalizing index with
  | nil => cases changes; rfl
  | cons field rest ih =>
    obtain _ | ⟨change, changes⟩ := changes
    obtain ⟨slot, slots⟩ := slots
    obtain ⟨hfield, hrest⟩ := h
    simp only [visit, Changes.slots]
    split
    · rename_i hnamed
      cases slot with
      | some _ => rfl
      | none =>
        simp only [Option.map_none, hfield.entry key r hnamed]
        cases field.decode r <;> rfl
    · rw [ih hrest]
      cases rest.visit key r slots <;> rfl

theorem visitAll_changeParts (h : fields.Follow onField onItem index changes)
    (entries : Reading.Fields) (slots : Slots αs) :
    fields.visitAll (changes.slots slots)
        (entries.map fun entry => (entry.1, onField entry.1 entry.2)) =
      (fields.visitAll slots entries).map changes.slots := by
  induction entries generalizing slots with
  | nil => rfl
  | cons entry rest ih =>
    obtain ⟨_ | key, r⟩ := entry
    · rfl
    · simp only [List.map_cons, visitAll, visit_onField h]
      cases fields.visit (some key) r slots with
      | ok after => exact ih after
      | error error => rfl

theorem build_changed {onRecord : τ → τ} {builder builder' : Builder τ αs}
    (h : fields.Follow onField onItem index changes)
    (hcommute : changes.Commute onRecord builder builder') (slots : Slots αs) :
    fields.build builder' (changes.slots slots) = (fields.build builder slots).map onRecord := by
  induction fields generalizing index with
  | nil =>
    cases changes
    exact congrArg Except.ok hcommute
  | cons field rest ih =>
    obtain _ | ⟨change, changes⟩ := changes
    obtain ⟨slot, slots⟩ := slots
    obtain ⟨hfield, hrest⟩ := h
    have hslot : (slot.map change).or field.absent = (slot.or field.absent).map change := by
      cases slot with
      | some v => rfl
      | none => exact hfield.absent.symm
    simp only [build, Changes.slots, hslot]
    cases slot.or field.absent with
    | some v => exact ih hrest (hcommute v) slots
    | none => rfl

theorem buildFromItems_changeParts {onRecord : τ → τ} {builder builder' : Builder τ αs}
    (h : fields.Follow onField onItem index changes)
    (hcommute : changes.Commute onRecord builder builder') (expected : String) (before : Nat)
    (items : List Reading) :
    fields.buildFromItems expected before builder' (items.mapIdx fun i => onItem (index + i)) =
      (fields.buildFromItems expected before builder items).map fun (value, left) =>
        (onRecord value, left.mapIdx fun i => onItem (index + fields.size + i)) := by
  induction fields generalizing index before items with
  | nil =>
    cases changes
    rw [buildFromItems, buildFromItems, hcommute]
    rfl
  | cons field rest ih =>
    obtain _ | ⟨change, changes⟩ := changes
    obtain ⟨hfield, hrest⟩ := h
    have hsize : index + (rest.size + 1) = index + 1 + rest.size := by omega
    cases items with
    | nil =>
      rw [List.mapIdx_nil, buildFromItems, buildFromItems]
      split
      · rename_i v hv
        -- The value is the default, which stays as it is.
        have hchange : change v = v := by
          have habsent := hfield.absent
          split at hv
          · rw [hv] at habsent
            exact Option.some.inj habsent
          · cases hv
        have hcommute := hcommute v
        rw [hchange] at hcommute
        rw [size, hsize]
        exact ih hrest hcommute (before + 1) []
      · rfl
    | cons item items =>
      have hshift : (fun i => onItem (index + (i + 1))) = fun i => onItem (index + 1 + i) := by
        funext i
        rw [Nat.add_assoc, Nat.add_comm i]
      rw [List.mapIdx_cons, Nat.add_zero, hshift, buildFromItems, buildFromItems,
        hfield.item item]
      cases field.decode item with
      | ok v =>
        rw [size, hsize]
        exact ih hrest (hcommute v) (before + 1) items
      | error error => rfl

/-- **A record of changed parts is the changed record,** or fails with the same error. -/
theorem record_changeParts (changes : Changes αs) (onRecord : τ → τ)
    {builder builder' : Builder τ αs} (h : fields.Follow onField onItem 0 changes)
    (hcommute : changes.Commute onRecord builder builder') (name : String) (surplus : Surplus)
    (r : Reading) :
    fields.record name surplus builder' (r.changeParts onField onItem) =
      (fields.record name surplus builder r).map onRecord := by
  cases r with
  | object entries closed =>
    have hall := visitAll_changeParts h entries fields.unread
    rw [slots_unread] at hall
    rw [Reading.changeParts, record, record, hall]
    cases fields.visitAll fields.unread entries with
    | ok slots =>
      cases closed with
      | true => exact build_changed h hcommute slots
      | false => rfl
    | error error => rfl
  | array items closed =>
    have hall := fun expected => buildFromItems_changeParts h hcommute expected 0 items
    simp only [Nat.zero_add] at hall
    rw [Reading.changeParts, record, record]
    simp only [hall]
    generalize fields.buildFromItems _ 0 builder items = made
    cases made with
    | ok made =>
      obtain ⟨value, left⟩ := made
      cases closed with
      | true =>
        cases left with
        | nil => rfl
        | cons item left =>
          simp only [Except.map, bind, Except.bind, List.mapIdx_cons, List.length_mapIdx]
          rfl
      | false => rfl
    | error error => rfl
  | _ => rfl

end Fields

/-! ## Replaced texts -/

section

variable {α : Type} {places : Places} {replace : String → String} {field : Field α} {index : Nat}

theorem Field.mem_of_isNamed {key : Option String} (h : field.isNamed key = true) :
    ∃ name ∈ field.name :: field.aliases, key = some name := by
  cases key with
  | none => cases h
  | some key => exact ⟨key, by simpa [isNamed] using h, rfl⟩

/-- A text whose names and index are among the places follows its replacement. -/
theorem Field.follows_replaced {change : α → α}
    (hnames : ∀ name ∈ field.name :: field.aliases, name ∈ places.keys)
    (hindex : index ∈ places.indices)
    (hdecode : ∀ r, field.decode (r.replaceText replace) = (field.decode r).map change)
    (habsent : field.absent.map change = field.absent) :
    field.Follows (Reading.replaceField places replace) (Reading.replaceItem places replace) index
      change where
  entry key r hnamed := by
    obtain ⟨name, hname, rfl⟩ := mem_of_isNamed hnamed
    have hmem := List.contains_iff_mem.mpr (hnames name hname)
    rw [Reading.replaceField, Option.any_some, if_pos hmem, hdecode]
  item r := by rw [Reading.replaceItem, if_pos (List.contains_iff_mem.mpr hindex), hdecode]
  absent := habsent

/-- A field that has none of its names and not its index among the places keeps its value. -/
theorem Field.follows_kept
    (hnames : ∀ name ∈ field.name :: field.aliases, name ∉ places.keys)
    (hindex : index ∉ places.indices) :
    field.Follows (Reading.replaceField places replace) (Reading.replaceItem places replace) index
      id where
  entry key r hnamed := by
    obtain ⟨name, hname, rfl⟩ := mem_of_isNamed hnamed
    have hmem := mt List.contains_iff_mem.mp (hnames name hname)
    rw [Reading.replaceField, Option.any_some, if_neg hmem]
    cases field.decode r <;> rfl
  item r := by
    rw [Reading.replaceItem, if_neg (mt List.contains_iff_mem.mp hindex)]
    cases field.decode r <;> rfl
  absent := Option.map_id_apply

end

end FineTuning.Json
