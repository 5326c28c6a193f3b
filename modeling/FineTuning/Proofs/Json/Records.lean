import FineTuning.Json.Record
import FineTuning.Proofs.Except

/-!
# Records that are decoded

What the decoder of a record does, whatever its fields are.

* `Fields.visit_named`, `Fields.visit_unnamed`: what one entry of an object does.
* `Fields.record_written`: an object in which each field stands under its name, or is left out with
  its default as its value, decodes as the record. `Fields.Written` says so field by field.
* `Fields.madeOf_of_record`: a record that decodes is made of values that its fields decode from
  their parts of the reading, or that are defaults.
* `Decode.list_ofJson`, `Decode.exists_of_list`: the same both ways for lists.
-/

namespace FineTuning.Json

variable {τ : Type}

/-- A value that decodes and is not `null` decodes as one that may be absent. -/
theorem Decode.optional_eq_ok {α : Type} {decode : Decoder α} {r : Reading} {v : α}
    (hnull : r ≠ .null) (h : decode r = .ok v) : optional decode r = .ok (some v) := by
  unfold optional
  split
  · contradiction
  · rw [h]; rfl

/-- A value that is not absent was decoded. -/
theorem Decode.of_optional_eq_some {α : Type} {decode : Decoder α} {r : Reading} {v : α}
    (h : optional decode r = .ok (some v)) : decode r = .ok v := by
  unfold optional at h
  split at h
  · cases h
  · obtain ⟨w, hw, hv⟩ := map_eq_ok_iff.mp h
    rw [hw, Option.some.inj hv]

theorem Decode.natBelow_ofNat {bound n : Nat} (h : n < bound) (type : String) :
    natBelow bound type (.ofJson (.ofNat n)) = .ok n := by
  have hbounds : (0 : Int) ≤ n ∧ (n : Int) < bound := ⟨Int.natCast_nonneg n, by omega⟩
  rw [ofNat, ofInt, Reading.ofJson, natBelow, if_pos hbounds, Int.toNat_natCast]

theorem Decode.uint32_ofNat (n : UInt32) : uint32 (.ofJson (.ofNat n.toNat)) = .ok n := by
  rw [uint32, natBelow_ofNat n.toNat_lt_size, Except.map, UInt32.ofNat_toNat]

/-- A list is decoded item by item. -/
theorem Decode.list_ofJson_map {α β : Type} {decode : Decoder α} {encode : β → Json} {read : β → α}
    {xs : List β} (h : ∀ x ∈ xs, decode (.ofJson (encode x)) = .ok (read x)) :
    Decode.list decode (.ofJson (.array (xs.map encode))) = .ok (xs.map read) := by
  have hitems : Decode.items decode (Reading.ofItems (xs.map encode)) = .ok (xs.map read) := by
    induction xs with
    | nil => rfl
    | cons x xs ih =>
      obtain ⟨hx, hxs⟩ := List.forall_mem_cons.mp h
      rw [List.map_cons, Reading.ofItems, Decode.items, hx, ih hxs]
      rfl
  rw [Reading.ofJson, Decode.list, hitems]
  rfl

theorem Decode.list_ofJson {α : Type} {decode : Decoder α} {encode : α → Json} {xs : List α}
    (h : ∀ x ∈ xs, decode (.ofJson (encode x)) = .ok x) :
    Decode.list decode (.ofJson (.array (xs.map encode))) = .ok xs := by
  have hmap : Decode.list decode (.ofJson (.array (xs.map encode))) = .ok (xs.map id) :=
    Decode.list_ofJson_map h
  rwa [List.map_id] at hmap

theorem Decode.mem_of_items {α : Type} {decode : Decoder α} {rs : List Reading} {xs : List α}
    (h : Decode.items decode rs = .ok xs) : ∀ x ∈ xs, ∃ r ∈ rs, decode r = .ok x := by
  induction rs generalizing xs with
  | nil => cases h; exact nofun
  | cons r rest ih =>
    obtain ⟨x, hx, h⟩ := bind_eq_ok_iff.mp h
    obtain ⟨others, hothers, h⟩ := bind_eq_ok_iff.mp h
    cases h
    refine List.forall_mem_cons.mpr ⟨⟨r, List.mem_cons_self, hx⟩, fun y hy => ?_⟩
    obtain ⟨s, hs, hdecode⟩ := ih hothers y hy
    exact ⟨s, List.mem_cons_of_mem _ hs, hdecode⟩

/-- What is in a list was decoded from an item of an array. -/
theorem Decode.exists_of_list {α : Type} {decode : Decoder α} {source : Reading} {xs : List α}
    (h : Decode.list decode source = .ok xs) :
    ∃ rs, source = .array rs true ∧ ∀ x ∈ xs, ∃ r ∈ rs, decode r = .ok x := by
  unfold Decode.list at h
  split at h
  · rename_i rs closed
    obtain ⟨values, hvalues, h⟩ := bind_eq_ok_iff.mp h
    cases closed with
    | true => cases h; exact ⟨rs, rfl, mem_of_items hvalues⟩
    | false => cases h
  · cases h

theorem Reading.ofItems_eq_map (items : List Json) : ofItems items = items.map ofJson := by
  induction items with
  | nil => rfl
  | cons item rest ih => rw [ofItems, ih, List.map_cons]

theorem Reading.ofFields_eq_map (fields : List (String × Json)) :
    ofFields fields = fields.map fun field => (some field.1, ofJson field.2) := by
  induction fields with
  | nil => rfl
  | cons field rest ih => rw [ofFields, ih, List.map_cons]

theorem Reading.ofFields_append (fields fields' : List (String × Json)) :
    ofFields (fields ++ fields') = ofFields fields ++ ofFields fields' := by
  rw [ofFields_eq_map, ofFields_eq_map, ofFields_eq_map, List.map_append]

namespace Fields

/-! ## Reading one entry after another -/

section Visit

variable {α : Type} {αs : List Type} {field : Field α} {rest : Fields αs} {key : Option String}
  {reading : Reading} {slot : Option α} {slots : Slots αs} {slots' : Option α × Slots αs}

/-- A field that is named is read if it was not read before. -/
theorem visit_named (h : field.isNamed key = true) :
    (Fields.cons field rest).visit key reading (slot, slots) = .ok slots' ↔
      slot = none ∧ ∃ v, field.decode reading = .ok v ∧ (some v, slots) = slots' := by
  cases slot <;> simp [visit, h, map_eq_ok_iff]

/-- A field that is not named is left to the others. -/
theorem visit_unnamed (h : field.isNamed key = false) :
    (Fields.cons field rest).visit key reading (slot, slots) = .ok slots' ↔
      ∃ after, rest.visit key reading slots = .ok after ∧ (slot, after) = slots' := by
  simp [visit, h, map_eq_ok_iff]

end Visit

/-- Entries that can be read have keys. -/
theorem visitAll_cons_eq_ok_iff {αs : List Type} {fields : Fields αs}
    {entry : Option String × Reading} {entries : Reading.Fields} {slots slots' : Slots αs} :
    fields.visitAll slots (entry :: entries) = .ok slots' ↔
      entry.1 ≠ none ∧ ∃ between, fields.visit entry.1 entry.2 slots = .ok between ∧
        fields.visitAll between entries = .ok slots' := by
  obtain ⟨_ | key, reading⟩ := entry
  · simp [visitAll]
  · rw [visitAll, bind_eq_ok_iff]
    simp

/-! ## What is written decodes -/

/-- The names under which the fields are written. -/
def names : {αs : List Type} → Fields αs → List String
  | _, .nil => []
  | _, .cons field rest => field.name :: rest.names

/-- No field is written under a name of one before it. -/
def areApart : {αs : List Type} → Fields αs → Bool
  | _, .nil => true
  | _, .cons field rest =>
    rest.names.all (fun name => !field.isNamed (some name)) && rest.areApart

/-- A record is written in an object: each field stands in its place under its name, or is left out
because its value is the default. -/
inductive Written : {αs : List Type} → Fields αs → Builder τ αs → Reading.Fields → τ → Prop
  | nil (value : τ) : Written .nil value [] value
  | given {α : Type} {αs : List Type} {field : Field α} {rest : Fields αs}
      {builder : Builder τ (α :: αs)} {reading : Reading} {entries : Reading.Fields} {v : α}
      {value : τ} (hdecode : field.decode reading = .ok v)
      (hrest : Written rest (builder v) entries value) :
      Written (.cons field rest) builder ((some field.name, reading) :: entries) value
  | leftOut {α : Type} {αs : List Type} {field : Field α} {rest : Fields αs}
      {builder : Builder τ (α :: αs)} {entries : Reading.Fields} {v : α} {value : τ}
      (habsent : field.absent = some v) (hrest : Written rest (builder v) entries value) :
      Written (.cons field rest) builder entries value

theorem Written.key_mem {αs : List Type} {fields : Fields αs} {builder : Builder τ αs}
    {entries : Reading.Fields} {value : τ} (h : Written fields builder entries value) :
    ∀ entry ∈ entries, ∃ name ∈ fields.names, entry.1 = some name := by
  induction h with
  | nil => simp
  | given _ _ ih =>
    refine List.forall_mem_cons.mpr ⟨⟨_, List.mem_cons_self, rfl⟩, fun entry hentry => ?_⟩
    obtain ⟨name, hname, hkey⟩ := ih entry hentry
    exact ⟨name, List.mem_cons_of_mem _ hname, hkey⟩
  | leftOut _ _ ih =>
    intro entry hentry
    obtain ⟨name, hname, hkey⟩ := ih entry hentry
    exact ⟨name, List.mem_cons_of_mem _ hname, hkey⟩

/-- Entries that are not named by a field pass it by. -/
theorem visitAll_cons {α : Type} {αs : List Type} {field : Field α} {rest : Fields αs}
    {slot : Option α} {slots slots' : Slots αs} {entries : Reading.Fields}
    (hnamed : ∀ entry ∈ entries, field.isNamed entry.1 = false)
    (h : rest.visitAll slots entries = .ok slots') :
    (Fields.cons field rest).visitAll (slot, slots) entries = .ok (slot, slots') := by
  induction entries generalizing slots with
  | nil => cases h; rfl
  | cons entry entries ih =>
    obtain ⟨hentry, hentries⟩ := List.forall_mem_cons.mp hnamed
    obtain ⟨hkey, between, hvisit, hall⟩ := visitAll_cons_eq_ok_iff.mp h
    have hstep : (Fields.cons field rest).visit entry.1 entry.2 (slot, slots) =
        .ok (slot, between) := (visit_unnamed hentry).mpr ⟨between, hvisit, rfl⟩
    exact visitAll_cons_eq_ok_iff.mpr ⟨hkey, _, hstep, ih hentries hall⟩

theorem Written.exists_slots {αs : List Type} {fields : Fields αs} {builder : Builder τ αs}
    {entries : Reading.Fields} {value : τ} (h : Written fields builder entries value)
    (hapart : fields.areApart = true) :
    ∃ slots, fields.visitAll fields.unread entries = .ok slots ∧
      fields.build builder slots = .ok value := by
  induction h with
  | nil value => exact ⟨(), rfl, rfl⟩
  | @given α αs field rest builder reading entries v value hdecode hrest ih =>
    simp only [areApart, Bool.and_eq_true, List.all_eq_true, Bool.not_eq_true'] at hapart
    obtain ⟨slots, hall, hbuild⟩ := ih hapart.2
    refine ⟨(some v, slots), ?_, hbuild⟩
    have hname : field.isNamed (some field.name) = true := by simp [Field.isNamed]
    have hvisit : (Fields.cons field rest).visit (some field.name) reading (none, rest.unread) =
        .ok (some v, rest.unread) := (visit_named hname).mpr ⟨rfl, v, hdecode, rfl⟩
    rw [unread, visitAll, hvisit]
    refine visitAll_cons (fun entry hentry => ?_) hall
    obtain ⟨name, hmem, hkey⟩ := hrest.key_mem entry hentry
    rw [hkey]
    exact hapart.1 name hmem
  | @leftOut α αs field rest builder entries v value habsent hrest ih =>
    simp only [areApart, Bool.and_eq_true, List.all_eq_true, Bool.not_eq_true'] at hapart
    obtain ⟨slots, hall, hbuild⟩ := ih hapart.2
    refine ⟨(none, slots), ?_, ?_⟩
    · refine visitAll_cons (fun entry hentry => ?_) hall
      obtain ⟨name, hmem, hkey⟩ := hrest.key_mem entry hentry
      rw [hkey]
      exact hapart.1 name hmem
    · rw [build, Option.none_or, habsent]
      exact hbuild

/-- **A record that is written decodes.** -/
theorem record_written {αs : List Type} {fields : Fields αs} {builder : Builder τ αs}
    {entries : Reading.Fields} {value : τ} (h : Written fields builder entries value)
    (hapart : fields.areApart = true) (name : String) (surplus : Surplus) :
    fields.record name surplus builder (.object entries true) = .ok value := by
  obtain ⟨slots, hall, hbuild⟩ := h.exists_slots hapart
  rw [record, hall]
  exact hbuild

theorem Written.required {α : Type} {αs : List Type} {name : String} {decode : Decoder α}
    {rest : Fields αs} {builder : Builder τ (α :: αs)} {reading : Reading}
    {entries : Reading.Fields} {v : α} {value : τ} (hdecode : decode reading = .ok v)
    (hrest : Written rest (builder v) entries value) :
    Written (.cons (.required name decode) rest) builder ((some name, reading) :: entries) value :=
  .given hdecode hrest

theorem Written.withDefault {α : Type} {αs : List Type} {name : String} {decode : Decoder α}
    {default : α} {rest : Fields αs} {builder : Builder τ (α :: αs)} {reading : Reading}
    {entries : Reading.Fields} {v : α} {value : τ} (hdecode : decode reading = .ok v)
    (hrest : Written rest (builder v) entries value) :
    Written (.cons (.withDefault name decode default) rest) builder
      ((some name, reading) :: entries) value :=
  .given hdecode hrest

/-- A field that is written only if it has a value. -/
theorem Written.ofOption {α : Type} {αs : List Type} {field : Field (Option α)} {rest : Fields αs}
    {builder : Builder τ (Option α :: αs)} {entries : Reading.Fields} {v? : Option α} {value : τ}
    {decode : Decoder α} {encode : α → Json} (hfield : field.decode = Decode.optional decode)
    (habsent : field.absent = some none) (hnull : ∀ v, Reading.ofJson (encode v) ≠ .null)
    (hdecode : ∀ v ∈ v?, decode (.ofJson (encode v)) = .ok v)
    (hrest : Written rest (builder v?) entries value) :
    Written (.cons field rest) builder
      (Reading.ofFields (fieldIfSome field.name (v?.map encode)) ++ entries) value := by
  cases v? with
  | none => exact .leftOut habsent hrest
  | some v => exact .given (hfield ▸ Decode.optional_eq_ok (hnull v) (hdecode v rfl)) hrest

end Fields

/-! ## What a record is decoded from -/

/-- The part of a reading that a field of a record is taken from: the value of an object under a
key, or the item of an array at an index. -/
inductive Reading.HasPart (key : String) (index : Nat) : Reading → Reading → Prop
  | field {entries : Reading.Fields} {closed : Bool} {part : Reading}
      (h : (some key, part) ∈ entries) : HasPart key index (.object entries closed) part
  | item {items : List Reading} {closed : Bool} {part : Reading}
      (h : items[index]? = some part) : HasPart key index (.array items closed) part

/-- The value of a field is decoded from its part of the reading, or is the default. -/
def Field.IsTaken {α : Type} (field : Field α) (index : Nat) (source : Reading) (v : α) : Prop :=
  field.absent = some v ∨ ∃ key part, field.isNamed (some key) = true ∧
    source.HasPart key index part ∧ field.decode part = .ok v

theorem Field.IsTaken.of_required {α : Type} {name : String} {decode : Decoder α} {index : Nat}
    {source : Reading} {v : α} (h : (Field.required name decode).IsTaken index source v) :
    ∃ part, source.HasPart name index part ∧ decode part = .ok v := by
  obtain h | ⟨key, part, hkey, hpart, hdecode⟩ := h
  · cases h
  · have hname : key = name := by simpa [isNamed, required] using hkey
    exact ⟨part, hname ▸ hpart, hdecode⟩

namespace Fields

/-- The record is built from values of its fields that were all taken from the reading. -/
def MadeOf (source : Reading) (index : Nat) :
    {αs : List Type} → Fields αs → Builder τ αs → τ → Prop
  | _, .nil, result, value => value = result
  | _, .cons field rest, builder, value =>
    ∃ v, field.IsTaken index source v ∧ rest.MadeOf source (index + 1) (builder v) value

/-- What has been read of the fields was decoded from the entries. -/
def ReadFrom (entries : Reading.Fields) : {αs : List Type} → Fields αs → Slots αs → Prop
  | _, .nil, _ => True
  | _, .cons field rest, (slot, slots) =>
    (∀ v ∈ slot, ∃ key part, field.isNamed (some key) = true ∧ (some key, part) ∈ entries ∧
      field.decode part = .ok v) ∧ rest.ReadFrom entries slots

theorem readFrom_unread (entries : Reading.Fields) {αs : List Type} (fields : Fields αs) :
    fields.ReadFrom entries fields.unread := by
  induction fields with
  | nil => trivial
  | cons field rest ih => exact ⟨nofun, ih⟩

theorem ReadFrom.visit {entries : Reading.Fields} {key : String} {part : Reading}
    (hentry : (some key, part) ∈ entries) {αs : List Type} {fields : Fields αs}
    {slots slots' : Slots αs} (h : fields.ReadFrom entries slots)
    (hvisit : fields.visit (some key) part slots = .ok slots') :
    fields.ReadFrom entries slots' := by
  induction fields with
  | nil => trivial
  | cons field rest ih =>
    obtain ⟨slot, slots⟩ := slots
    obtain ⟨hslot, hslots⟩ := h
    cases hnamed : field.isNamed (some key) with
    | true =>
      obtain ⟨-, v, hdecode, rfl⟩ := (visit_named hnamed).mp hvisit
      exact ⟨fun w hw => Option.some.inj hw ▸ ⟨key, part, hnamed, hentry, hdecode⟩, hslots⟩
    | false =>
      obtain ⟨after, hrest, rfl⟩ := (visit_unnamed hnamed).mp hvisit
      exact ⟨hslot, ih hslots hrest⟩

theorem ReadFrom.visitAll {entries visited : Reading.Fields} (hsub : visited ⊆ entries)
    {αs : List Type} {fields : Fields αs} {slots slots' : Slots αs}
    (h : fields.ReadFrom entries slots) (hvisit : fields.visitAll slots visited = .ok slots') :
    fields.ReadFrom entries slots' := by
  induction visited generalizing slots with
  | nil => cases hvisit; exact h
  | cons entry rest ih =>
    obtain ⟨hentry, hrest⟩ := List.cons_subset.mp hsub
    obtain ⟨_ | key, part⟩ := entry
    · cases hvisit
    · obtain ⟨between, hone, hall⟩ := bind_eq_ok_iff.mp hvisit
      exact ih hrest (h.visit hentry hone) hall

theorem ReadFrom.madeOf {entries : Reading.Fields} (closed : Bool) {αs : List Type}
    {fields : Fields αs} {builder : Builder τ αs} {slots : Slots αs} {value : τ}
    (h : fields.ReadFrom entries slots) (hbuild : fields.build builder slots = .ok value)
    (index : Nat) : fields.MadeOf (.object entries closed) index builder value := by
  induction fields generalizing index with
  | nil => exact (Except.ok.inj hbuild).symm
  | cons field rest ih =>
    obtain ⟨slot, slots⟩ := slots
    obtain ⟨hslot, hslots⟩ := h
    rw [build] at hbuild
    split at hbuild
    · rename_i v hv
      refine ⟨v, ?_, ih hslots hbuild (index + 1)⟩
      cases slot with
      | none => exact .inl hv
      | some w =>
        obtain ⟨key, part, hnamed, hmem, hdecode⟩ := hslot w rfl
        exact .inr ⟨key, part, hnamed, .field hmem, Option.some.inj hv ▸ hdecode⟩
    · cases hbuild

theorem madeOf_of_buildFromItems {expected : String} {items : List Reading} (closed : Bool)
    {αs : List Type} {fields : Fields αs} {builder : Builder τ αs} {index : Nat} {value : τ}
    {left : List Reading}
    (h : fields.buildFromItems expected index builder (items.drop index) = .ok (value, left)) :
    fields.MadeOf (.array items closed) index builder value := by
  induction fields generalizing index with
  | nil =>
    obtain ⟨rfl, -⟩ := Prod.mk.inj (Except.ok.inj h)
    rfl
  | cons field rest ih =>
    cases hdrop : items.drop index with
    | nil =>
      have hafter : items.drop (index + 1) = [] :=
        List.drop_eq_nil_of_le (Nat.le_succ_of_le (List.drop_eq_nil_iff.mp hdrop))
      rw [hdrop, buildFromItems] at h
      split at h
      · rename_i v hv
        rw [← hafter] at h
        refine ⟨v, .inl ?_, ih h⟩
        split at hv
        · exact hv
        · cases hv
      · cases h
    | cons item later =>
      have hitem : items[index]? = some item := by
        rw [← List.head?_drop, hdrop, List.head?_cons]
      have hlater : items.drop (index + 1) = later := by
        rw [← List.tail_drop, hdrop, List.tail_cons]
      rw [hdrop, buildFromItems, ← hlater] at h
      obtain ⟨v, hdecode, hrest⟩ := bind_eq_ok_iff.mp h
      exact ⟨v, .inr ⟨field.name, item, by simp [Field.isNamed], .item hitem, hdecode⟩, ih hrest⟩

/-- **What a record is decoded from.** -/
theorem madeOf_of_record {αs : List Type} {fields : Fields αs} {name : String} {surplus : Surplus}
    {builder : Builder τ αs} {source : Reading} {value : τ}
    (h : fields.record name surplus builder source = .ok value) :
    fields.MadeOf source 0 builder value := by
  unfold record at h
  split at h
  · rename_i entries closed
    obtain ⟨slots, hall, hbuild⟩ := bind_eq_ok_iff.mp h
    split at hbuild
    · exact ((readFrom_unread entries fields).visitAll (List.Subset.refl _) hall).madeOf _ hbuild 0
    · cases hbuild
  · rename_i items closed
    obtain ⟨⟨made, left⟩, hmade, hend⟩ := bind_eq_ok_iff.mp h
    dsimp only at hend
    have hvalue : made = value := by
      split at hend
      · cases hend
      · split at hend
        · exact Except.ok.inj hend
        · cases hend
    exact hvalue ▸ madeOf_of_buildFromItems closed hmade
  · cases h

end Fields

end FineTuning.Json
