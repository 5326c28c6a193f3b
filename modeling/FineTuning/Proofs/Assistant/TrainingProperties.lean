import FineTuning.Proofs.Assistant.Patches
import FineTuning.Proofs.Double.Whole
import FineTuning.Proofs.Json.ObjectFields
import FineTuning.Proofs.Text.Numeral
import FineTuning.Proofs.Text.Variants

/-!
# Properties of training nodes

Epochs and batch sizes come as integers, as doubles and as texts. Each way of writing denotes one
whole number at most (`Json.Denotes`), of any size. They are read as numbers of 64 bits, for which
large integers are rounded and large doubles cut.

* `Numeric.exists_decode_iff`: between the bounds of 64 bits, what is read as a number is what the
  value denotes.
* `TrainingPatch.ofProperties_eq_ok_iff`: which patch the properties make, if any.
* `NodePatch.ofProperties_training`: which properties are accepted, and what is set then.
-/

namespace FineTuning

open Json

/-! ## Numbers -/

/-- The value denotes the whole number: as a number it is equal to it, and as a text it is a numeral
of it between blanks. -/
def Json.Denotes : Json → Int → Prop
  | .number (.integer i), n => i = n
  | .number (.double d), n => d.isFinite = true ∧ d.toRat = n
  | .string s, n => Text.Numeral.IsNumeralOf (Text.trim s) n
  | _, _ => False

/-- A value denotes one number at most. -/
theorem Json.Denotes.unique {value : Json} {m n : Int} (hm : value.Denotes m)
    (hn : value.Denotes n) : m = n := by
  match value with
  | .number (.integer _) => exact hm.symm.trans hn
  | .number (.double d) =>
    have hd := (Double.toInt?_eq_some_iff (x := d)).mpr hm
    exact Option.some.inj (hd.symm.trans (Double.toInt?_eq_some_iff.mpr hn))
  | .string _ => exact Text.Numeral.IsNumeralOf.unique hm hn

theorem Json.Denotes.iff_eq {value : Json} {m n : Int} (h : value.Denotes n) :
    value.Denotes m ↔ m = n := by
  constructor
  · exact fun hm => hm.unique h
  · rintro rfl
    exact h

section Range

variable {n : Int64} (hlow : Int64.minValue < n) (hhigh : n < Int64.maxValue)
include hlow hhigh

/-- Rounding and cutting make no number between the bounds of the range of another one. -/
theorem Json.Number.toInt64?_eq_some_iff {x : Json.Number} :
    x.toInt64? = some n ↔ (Json.number x).Denotes n.toInt := by
  cases x with
  | double d => exact Double.toInt64?_eq_some_iff hlow hhigh
  | integer i =>
    by_cases hfits : Text.Numeral.fitsInt64 i = true
    · have hexact : (integer i).toInt64? = Text.Numeral.toInt64? i := by
        simp [toInt64?, asInt64?, Text.Numeral.toInt64?, hfits]
      rw [hexact]
      exact Text.Numeral.toInt64?_eq_some_iff
    · have hrounded : (integer i).toInt64? = (Double.ofInt i).toInt64? := by
        simp [toInt64?, asInt64?, Text.Numeral.toInt64?, hfits, toDouble]
      have hlarge : 2 ^ 63 ≤ i.natAbs := by
        simp only [Text.Numeral.fitsInt64, Bool.and_eq_true, decide_eq_true_eq] at hfits
        omega
      rw [hrounded]
      refine iff_of_false (Double.toInt64?_ofInt_ne hlow hhigh hlarge) ?_
      rintro rfl
      exact hfits (Text.Numeral.fitsInt64_toInt n)

/-- What is read as a number between the bounds of the range is what the value denotes. -/
theorem Numeric.exists_decode_iff {value : Json} :
    (∃ numeric, decode (.ofJson value) = .ok numeric ∧ numeric.toInt64? = some n) ↔
      value.Denotes n.toInt := by
  match value with
  | .number x =>
    simp [Reading.ofJson, decode, toInt64?, Number.toInt64?_eq_some_iff hlow hhigh]
  | .string s =>
    simp [Reading.ofJson, decode, toInt64?, Denotes, Text.Numeral.int64?_eq_some_iff]
  | .null | .bool _ | .array _ | .object _ => simp [Reading.ofJson, decode, Denotes]

end Range

/-! ## Checks -/

/-- A number of epochs that is allowed is the same in 64 bits. -/
theorem toInt_ofInt_epochs {epochs : UInt32} (h : epochs ≤ 5) :
    (Int64.ofInt epochs.toNat).toInt = epochs.toNat := by
  have hsmall : epochs.toNat ≤ 5 := UInt32.le_iff_toNat_le.mp h
  exact Int64.toInt_ofInt_of_le (by omega) (by omega)

theorem checkEpochs_eq_ok_iff {value : Numeric} {epochs : UInt32} :
    checkEpochs value = .ok epochs ↔
      value.toInt64? = some (.ofInt epochs.toNat) ∧ 1 ≤ epochs ∧ epochs ≤ 5 := by
  have hmin : TrainingData.minEpochs.toNat = 1 := rfl
  have hmax : TrainingData.maxEpochs.toNat = 5 := rfl
  rw [checkEpochs, hmin, hmax]
  constructor
  · intro h
    split at h
    · rename_i i hi
      split at h
      · rename_i hbounds
        cases h
        obtain ⟨n, hn⟩ := Int.eq_ofNat_of_zero_le (Int.le_trans (Int.natCast_nonneg _) hbounds.1)
        rw [hn] at hbounds
        have hfits : n < UInt32.size := Nat.lt_of_le_of_lt (Int.ofNat_le.mp hbounds.2) (by decide)
        rw [hi, hn, Int.toNat_natCast, UInt32.toNat_ofNat_of_lt' hfits, ← hn, Int64.ofInt_toInt,
          UInt32.le_iff_toNat_le, UInt32.le_iff_toNat_le, UInt32.toNat_ofNat_of_lt' hfits]
        exact ⟨rfl, Int.ofNat_le.mp hbounds.1, Int.ofNat_le.mp hbounds.2⟩
      · cases h
    · cases h
  · rintro ⟨hvalue, hlow, hhigh⟩
    have hbounds : ((1 : Nat) : Int) ≤ epochs.toNat ∧ (epochs.toNat : Int) ≤ (5 : Nat) :=
      ⟨Int.ofNat_le.mpr (UInt32.le_iff_toNat_le.mp hlow),
        Int.ofNat_le.mpr (UInt32.le_iff_toNat_le.mp hhigh)⟩
    simp only [hvalue, toInt_ofInt_epochs hhigh, if_pos hbounds, Int.toNat_natCast,
      UInt32.ofNat_toNat]

theorem checkBatchSize_eq_ok_iff {value : Numeric} {batchSize : String} :
    checkBatchSize value = .ok batchSize ↔ value.toInt64? = some 4 ∧ batchSize = "4" := by
  have hdefault : TrainingData.defaultBatchSize = (4 : Int64).toInt.repr := by decide
  rw [checkBatchSize, hdefault]
  constructor
  · intro h
    split at h
    · rename_i i hi
      split at h
      · rename_i hrepr
        obtain rfl := Int64.toInt_inj.mp (Text.Numeral.intRepr_inj hrepr)
        cases h
        exact ⟨hi, hdefault.symm⟩
      · cases h
    · cases h
  · rintro ⟨hvalue, rfl⟩
    simp only [hvalue]
    rfl

theorem Quantization.ofName?_eq_some_iff {text : String} {quantization : Quantization} :
    ofName? text = some quantization ↔ text = quantization.name := by
  refine ⟨fun h => ?_, ?_⟩
  · exact (beq_iff_eq.mp (List.find?_some h :)).symm
  · rintro rfl
    cases quantization <;> decide

/-- A text is read as a quantization just when it is a variant of its name. -/
theorem Quantization.parse?_eq_some_iff {text : String} {quantization : Quantization} :
    parse? text = some quantization ↔ Text.IsVariantOf text quantization.name := by
  have hname : Text.lowerAscii (Text.trim quantization.name) = quantization.name := by
    cases quantization <;> decide
  rw [parse?, ofName?_eq_some_iff, Text.IsVariantOf, Text.sameIgnoringAsciiCase, beq_iff_eq, hname]

theorem checkQuantization_eq_ok_iff {property : CheckedProperty} {value name : String} :
    checkQuantization property value = .ok name ↔
      ∃ quantization : Quantization, quantization.name = name ∧ Text.IsVariantOf value name := by
  rw [checkQuantization]
  constructor
  · intro h
    split at h
    · rename_i quantization hparse
      cases h
      exact ⟨quantization, rfl, Quantization.parse?_eq_some_iff.mp hparse⟩
    · cases h
  · rintro ⟨quantization, rfl, hvariant⟩
    rw [Quantization.parse?_eq_some_iff.mpr hvariant]

/-! ## Patches -/

/-- A value that is decoded and then checked is one that both accept. -/
theorem exists_checkOptional_iff {α β : Type} {Decodes : Json → α → Prop}
    {Accepts : Json → β → Prop} {check : α → Except ToolError β} {values : List Json}
    {checked : Option β}
    (h : ∀ value b, (∃ a, Decodes value a ∧ check a = .ok b) ↔ Accepts value b) :
    (∃ given, SetBy Decodes values given ∧ checkOptional check given = .ok checked) ↔
      SetBy Accepts values checked := by
  constructor
  · rintro ⟨_, _ | _ | ⟨hvalue, hdecodes⟩, hcheck⟩
    · cases hcheck
      exact .absent
    · cases hcheck
      exact .null
    · obtain ⟨b, hb, rfl⟩ := map_eq_ok_iff.mp hcheck
      exact .set hvalue ((h _ b).mp ⟨_, hdecodes, hb⟩)
  · rintro (_ | _ | ⟨hvalue, haccepts⟩)
    · exact ⟨none, .absent, rfl⟩
    · exact ⟨none, .null, rfl⟩
    · obtain ⟨a, hdecodes, hb⟩ := (h _ _).mpr haccepts
      exact ⟨some a, .set hvalue hdecodes, map_eq_ok_iff.mpr ⟨_, hb, rfl⟩⟩

/-- A number of epochs that the value denotes and that is allowed. -/
def Json.DenotesEpochs (value : Json) (epochs : UInt32) : Prop :=
  value.Denotes epochs.toNat ∧ 1 ≤ epochs ∧ epochs ≤ 5

/-- The batch size, if the value denotes it. -/
def Json.DenotesBatchSize (value : Json) (batchSize : String) : Prop :=
  value.Denotes 4 ∧ batchSize = "4"

/-- The name of a quantization, if the value is a variant of it. -/
def Json.NamesQuantization (value : Json) (name : String) : Prop :=
  ∃ s, value = .string s ∧ ∃ quantization : Quantization, quantization.name = name ∧
    Text.IsVariantOf s name

/-- The patch sets what the properties say, and nothing else. -/
structure TrainingPatch.IsSetBy (patch : TrainingPatch) (properties : List (String × Json)) :
    Prop where
  epochs : SetBy Json.DenotesEpochs (valuesUnder ["epochs"] properties) patch.epochs
  batchSize : SetBy Json.DenotesBatchSize (valuesUnder ["batchSize", "batch_size"] properties)
    patch.batchSize
  quantization : SetBy Json.NamesQuantization
    (valuesUnder ["quantization", "trainQuant", "train_quant"] properties) patch.quantization
  downloadQuant : SetBy Json.NamesQuantization
    (valuesUnder ["downloadQuant", "download_quant"] properties) patch.downloadQuant
  title : patch.title = none
  description : patch.description = none

/-- What is decoded from properties. -/
theorem TrainingProperties.decodeProperties_eq_ok_iff {properties : List (String × Json)}
    {given : TrainingProperties} :
    decodeProperties decode properties = .ok given ↔
      SetBy (fun value v => Numeric.decode (.ofJson value) = .ok v)
        (valuesUnder ["epochs"] properties) given.epochs ∧
      SetBy (fun value v => Numeric.decode (.ofJson value) = .ok v)
        (valuesUnder ["batchSize", "batch_size"] properties) given.batchSize ∧
      SetBy (fun value v => Decode.string (.ofJson value) = .ok v)
        (valuesUnder ["quantization", "trainQuant", "train_quant"] properties) given.quantization ∧
      SetBy (fun value v => Decode.string (.ofJson value) = .ok v)
        (valuesUnder ["downloadQuant", "download_quant"] properties) given.downloadQuant := by
  rw [decodeProperties, mapError_eq_ok_iff, decode, Fields.record_ofJson_object (by decide)]
  constructor
  · rintro ⟨epochs, hepochs, batchSize, hbatch, quantization, hquantization, downloadQuant,
      hdownload, rfl⟩
    exact ⟨(Field.isMadeOf_optional_iff rfl rfl).mp hepochs,
      (Field.isMadeOf_optional_iff rfl rfl).mp hbatch,
      (Field.isMadeOf_optional_iff rfl rfl).mp hquantization,
      (Field.isMadeOf_optional_iff rfl rfl).mp hdownload⟩
  · rintro ⟨hepochs, hbatch, hquantization, hdownload⟩
    exact ⟨_, (Field.isMadeOf_optional_iff rfl rfl).mpr hepochs,
      _, (Field.isMadeOf_optional_iff rfl rfl).mpr hbatch,
      _, (Field.isMadeOf_optional_iff rfl rfl).mpr hquantization,
      _, (Field.isMadeOf_optional_iff rfl rfl).mpr hdownload, rfl⟩

theorem exists_checkEpochs_iff (value : Json) (epochs : UInt32) :
    (∃ numeric, Numeric.decode (.ofJson value) = .ok numeric ∧ checkEpochs numeric = .ok epochs) ↔
      value.DenotesEpochs epochs := by
  simp only [checkEpochs_eq_ok_iff, ← and_assoc, exists_and_right, Json.DenotesEpochs]
  refine and_congr_left fun hhigh => and_congr_left fun _ => ?_
  have hvalue := toInt_ofInt_epochs hhigh
  have hlarge : epochs.toNat ≤ 5 := UInt32.le_iff_toNat_le.mp hhigh
  have hmin : Int64.minValue < .ofInt epochs.toNat := by
    rw [Int64.lt_iff_toInt_lt, hvalue, Int64.toInt_minValue]
    omega
  have hmax : Int64.ofInt epochs.toNat < Int64.maxValue := by
    rw [Int64.lt_iff_toInt_lt, hvalue, Int64.toInt_maxValue]
    omega
  rw [Numeric.exists_decode_iff hmin hmax, hvalue]

theorem exists_checkBatchSize_iff (value : Json) (batchSize : String) :
    (∃ numeric, Numeric.decode (.ofJson value) = .ok numeric ∧
      checkBatchSize numeric = .ok batchSize) ↔ value.DenotesBatchSize batchSize := by
  simp only [checkBatchSize_eq_ok_iff, ← and_assoc, exists_and_right, Json.DenotesBatchSize]
  exact and_congr_left fun _ => Numeric.exists_decode_iff (n := 4) (by decide) (by decide)

theorem Decode.string_ofJson_eq_ok_iff {value : Json} {s : String} :
    Decode.string (.ofJson value) = .ok s ↔ value = .string s := by
  cases value <;> simp [Reading.ofJson, Decode.string]

theorem exists_checkQuantization_iff (property : CheckedProperty) (value : Json) (name : String) :
    (∃ s, Decode.string (.ofJson value) = .ok s ∧ checkQuantization property s = .ok name) ↔
      value.NamesQuantization name := by
  simp only [Decode.string_ofJson_eq_ok_iff, checkQuantization_eq_ok_iff, Json.NamesQuantization]

/-- **Which patch the properties make.** -/
theorem TrainingPatch.ofProperties_eq_ok_iff {properties : List (String × Json)}
    {patch : TrainingPatch} : ofProperties properties = .ok patch ↔ patch.IsSetBy properties := by
  constructor
  · intro h
    obtain ⟨given, hgiven, h⟩ := bind_eq_ok_iff.mp h
    obtain ⟨epochs, hepochs, h⟩ := bind_eq_ok_iff.mp h
    obtain ⟨batchSize, hbatch, h⟩ := bind_eq_ok_iff.mp h
    obtain ⟨quantization, hquantization, h⟩ := bind_eq_ok_iff.mp h
    obtain ⟨downloadQuant, hdownload, h⟩ := bind_eq_ok_iff.mp h
    cases h
    obtain ⟨hepochs', hbatch', hquantization', hdownload'⟩ :=
      TrainingProperties.decodeProperties_eq_ok_iff.mp hgiven
    exact {
      epochs := (exists_checkOptional_iff exists_checkEpochs_iff).mp ⟨_, hepochs', hepochs⟩
      batchSize := (exists_checkOptional_iff exists_checkBatchSize_iff).mp ⟨_, hbatch', hbatch⟩
      quantization := (exists_checkOptional_iff (exists_checkQuantization_iff .quantization)).mp
        ⟨_, hquantization', hquantization⟩
      downloadQuant := (exists_checkOptional_iff (exists_checkQuantization_iff .downloadQuant)).mp
        ⟨_, hdownload', hdownload⟩
      title := rfl
      description := rfl }
  · intro h
    obtain ⟨epochs, hepochs', hepochs⟩ :=
      (exists_checkOptional_iff exists_checkEpochs_iff).mpr h.epochs
    obtain ⟨batchSize, hbatch', hbatch⟩ :=
      (exists_checkOptional_iff exists_checkBatchSize_iff).mpr h.batchSize
    obtain ⟨quantization, hquantization', hquantization⟩ :=
      (exists_checkOptional_iff (exists_checkQuantization_iff .quantization)).mpr h.quantization
    obtain ⟨downloadQuant, hdownload', hdownload⟩ :=
      (exists_checkOptional_iff (exists_checkQuantization_iff .downloadQuant)).mpr h.downloadQuant
    have hgiven : decodeProperties TrainingProperties.decode properties =
        .ok ⟨epochs, batchSize, quantization, downloadQuant⟩ :=
      TrainingProperties.decodeProperties_eq_ok_iff.mpr
        ⟨hepochs', hbatch', hquantization', hdownload'⟩
    have hpatch : { patch with title := none, description := none } = patch := by
      cases patch
      cases h.title
      cases h.description
      rfl
    refine bind_eq_ok_iff.mpr ⟨_, hgiven, bind_eq_ok_iff.mpr ⟨_, hepochs, ?_⟩⟩
    refine bind_eq_ok_iff.mpr ⟨_, hbatch, bind_eq_ok_iff.mpr ⟨_, hquantization, ?_⟩⟩
    exact bind_eq_ok_iff.mpr ⟨_, hdownload, congrArg Except.ok hpatch⟩

/-! ## Which properties are accepted -/

/-- The names of each property of a training node. -/
def TrainingProperties.names : List (List String) :=
  [["epochs"], ["batchSize", "batch_size"], ["quantization", "trainQuant", "train_quant"],
    ["downloadQuant", "download_quant"]]

/-- The value is a text that names a quantization, in any case and with blanks around it. -/
def Json.IsQuantization (value : Json) : Prop :=
  ∃ s, value = .string s ∧ (Text.IsVariantOf s "int4" ∨ Text.IsVariantOf s "int8")

/-- The properties have values that are allowed, none is given twice, and one at least is set. -/
structure TrainingProperties.AreAllowed (properties : List (String × Json)) : Prop where
  epochs : ∀ value ∈ valuesUnder ["epochs"] properties,
    value = .null ∨ ∃ n : Int, 1 ≤ n ∧ n ≤ 5 ∧ value.Denotes n
  batchSize : ∀ value ∈ valuesUnder ["batchSize", "batch_size"] properties,
    value = .null ∨ value.Denotes 4
  quantization : ∀ value ∈ valuesUnder ["quantization", "trainQuant", "train_quant"] properties,
    value = .null ∨ value.IsQuantization
  downloadQuant : ∀ value ∈ valuesUnder ["downloadQuant", "download_quant"] properties,
    value = .null ∨ value.IsQuantization
  once : ∀ names ∈ TrainingProperties.names, (valuesUnder names properties).length ≤ 1
  someSet : ∃ names ∈ TrainingProperties.names, ∃ value ∈ valuesUnder names properties,
    value ≠ .null

theorem exists_denotesEpochs_iff {value : Json} :
    (∃ epochs, value.DenotesEpochs epochs) ↔ ∃ n : Int, 1 ≤ n ∧ n ≤ 5 ∧ value.Denotes n := by
  constructor
  · rintro ⟨epochs, hdenotes, hlow, hhigh⟩
    have hlow := UInt32.le_iff_toNat_le.mp hlow
    have hhigh := UInt32.le_iff_toNat_le.mp hhigh
    exact ⟨epochs.toNat, Int.ofNat_le.mpr hlow, Int.ofNat_le.mpr hhigh, hdenotes⟩
  · rintro ⟨n, hlow, hhigh, hdenotes⟩
    obtain ⟨m, rfl⟩ := Int.eq_ofNat_of_zero_le (Int.le_trans (by decide) hlow)
    have hm : (UInt32.ofNat m).toNat = m :=
      UInt32.toNat_ofNat_of_lt' (Nat.lt_of_le_of_lt (Int.ofNat_le.mp hhigh) (by decide))
    refine ⟨UInt32.ofNat m, by rwa [hm], ?_, ?_⟩
    · rw [UInt32.le_iff_toNat_le, hm]
      exact Int.ofNat_le.mp hlow
    · rw [UInt32.le_iff_toNat_le, hm]
      exact Int.ofNat_le.mp hhigh

theorem exists_denotesBatchSize_iff {value : Json} :
    (∃ batchSize, value.DenotesBatchSize batchSize) ↔ value.Denotes 4 := by
  simp [Json.DenotesBatchSize]

theorem exists_namesQuantization_iff {value : Json} :
    (∃ name, value.NamesQuantization name) ↔ value.IsQuantization := by
  constructor
  · rintro ⟨_, s, rfl, quantization, rfl, hvariant⟩
    cases quantization with
    | int4 => exact ⟨s, rfl, .inl hvariant⟩
    | int8 => exact ⟨s, rfl, .inr hvariant⟩
  · rintro ⟨s, rfl, hvariant | hvariant⟩
    · exact ⟨"int4", s, rfl, .int4, rfl, hvariant⟩
    · exact ⟨"int8", s, rfl, .int8, rfl, hvariant⟩

/-- A patch sets nothing just when the properties do not. -/
theorem TrainingPatch.IsSetBy.eq_empty_iff {properties : List (String × Json)}
    {patch : TrainingPatch} (h : patch.IsSetBy properties) :
    patch = {} ↔ ∀ names ∈ TrainingProperties.names, ∀ value ∈ valuesUnder names properties,
      value = .null := by
  have hfields : patch = {} ↔ patch.epochs = none ∧ patch.batchSize = none ∧
      patch.quantization = none ∧ patch.downloadQuant = none := by
    cases patch
    cases h.title
    cases h.description
    simp
  rw [hfields, h.epochs.eq_none_iff, h.batchSize.eq_none_iff, h.quantization.eq_none_iff,
    h.downloadQuant.eq_none_iff]
  simp [TrainingProperties.names]

namespace NodePatch

variable {properties : List (String × Json)} {catalog : Catalog}

theorem ofProperties_training_eq_ok_iff {patch : NodePatch} :
    ofProperties .training properties catalog = .ok patch ↔
      ∃ training : TrainingPatch, training.IsSetBy properties ∧ training ≠ {} ∧
        patch = .training training := by
  constructor
  · intro h
    obtain ⟨hmade, hempty⟩ := of_ofProperties_eq_ok h
    obtain ⟨training, htraining, rfl⟩ := map_eq_ok_iff.mp hmade
    exact ⟨training, TrainingPatch.ofProperties_eq_ok_iff.mp htraining,
      beq_eq_false_iff_ne.mp hempty, rfl⟩
  · rintro ⟨training, hset, hne, rfl⟩
    have hempty : (NodePatch.training training).isEmpty = false := beq_eq_false_iff_ne.mpr hne
    have htraining := TrainingPatch.ofProperties_eq_ok_iff.mpr hset
    refine bind_eq_ok_iff.mpr ⟨.training training, map_eq_ok_iff.mpr ⟨_, htraining, rfl⟩, ?_⟩
    rw [hempty]
    rfl

/-- Properties make a patch just when they are allowed. -/
theorem exists_ofProperties_training_iff :
    (∃ patch, ofProperties .training properties catalog = .ok patch) ↔
      TrainingProperties.AreAllowed properties := by
  simp only [ofProperties_training_eq_ok_iff]
  constructor
  · rintro ⟨-, training, hset, hne, -⟩
    obtain ⟨honce₁, hepochs⟩ := SetBy.exists_iff.mp ⟨_, hset.epochs⟩
    obtain ⟨honce₂, hbatch⟩ := SetBy.exists_iff.mp ⟨_, hset.batchSize⟩
    obtain ⟨honce₃, hquantization⟩ := SetBy.exists_iff.mp ⟨_, hset.quantization⟩
    obtain ⟨honce₄, hdownload⟩ := SetBy.exists_iff.mp ⟨_, hset.downloadQuant⟩
    rw [Ne, hset.eq_empty_iff] at hne
    simp only [exists_denotesEpochs_iff] at hepochs
    simp only [exists_denotesBatchSize_iff] at hbatch
    simp only [exists_namesQuantization_iff] at hquantization hdownload
    refine ⟨hepochs, hbatch, hquantization, hdownload, ?_, by simpa using hne⟩
    simpa [TrainingProperties.names] using ⟨honce₁, honce₂, honce₃, honce₄⟩
  · intro h
    have honce := h.once
    simp only [TrainingProperties.names, List.forall_mem_cons] at honce
    obtain ⟨honce₁, honce₂, honce₃, honce₄, -⟩ := honce
    obtain ⟨epochs, hepochs⟩ := SetBy.exists_iff.mpr ⟨honce₁, fun value hvalue =>
      (h.epochs value hvalue).imp_right exists_denotesEpochs_iff.mpr⟩
    obtain ⟨batchSize, hbatch⟩ := SetBy.exists_iff.mpr ⟨honce₂, fun value hvalue =>
      (h.batchSize value hvalue).imp_right exists_denotesBatchSize_iff.mpr⟩
    obtain ⟨quantization, hquantization⟩ := SetBy.exists_iff.mpr ⟨honce₃, fun value hvalue =>
      (h.quantization value hvalue).imp_right exists_namesQuantization_iff.mpr⟩
    obtain ⟨downloadQuant, hdownload⟩ := SetBy.exists_iff.mpr ⟨honce₄, fun value hvalue =>
      (h.downloadQuant value hvalue).imp_right exists_namesQuantization_iff.mpr⟩
    have hset : TrainingPatch.IsSetBy { epochs, batchSize, quantization, downloadQuant }
        properties := ⟨hepochs, hbatch, hquantization, hdownload, rfl, rfl⟩
    refine ⟨_, _, hset, fun hempty => ?_, rfl⟩
    obtain ⟨names, hnames, value, hvalue, hnull⟩ := h.someSet
    exact hnull (hset.eq_empty_iff.mp hempty names hnames value hvalue)

/-- **Which properties of a training node are accepted, and what they set.** They make a patch just
when each value is allowed or `null`, no property is given twice and one at least is set. So no
number of epochs but one to five is accepted, and no batch size but four. In the patch the epochs
are exactly the number that the value denotes. -/
theorem ofProperties_training (properties : List (String × Json)) (catalog : Catalog) :
    ((∃ patch, ofProperties .training properties catalog = .ok patch) ↔
      TrainingProperties.AreAllowed properties) ∧
    (∀ value ∈ valuesUnder ["epochs"] properties, value ≠ .null →
      (¬∃ n : Int, 1 ≤ n ∧ n ≤ 5 ∧ value.Denotes n) →
      ∃ error, ofProperties .training properties catalog = .error error) ∧
    (∀ value ∈ valuesUnder ["batchSize", "batch_size"] properties, value ≠ .null →
      ¬value.Denotes 4 → ∃ error, ofProperties .training properties catalog = .error error) ∧
    ∀ patch, ofProperties .training properties catalog = .ok patch →
      ∃ training : TrainingPatch, patch = .training training ∧
        ((∀ value ∈ valuesUnder ["epochs"] properties, value = .null) → training.epochs = none) ∧
        (∀ value ∈ valuesUnder ["epochs"] properties, value ≠ .null →
          ∃ n : UInt32, training.epochs = some n ∧ ∀ m : Int, value.Denotes m ↔ m = n.toNat) ∧
        ((∀ value ∈ valuesUnder ["batchSize", "batch_size"] properties, value = .null) →
          training.batchSize = none) ∧
        (∀ value ∈ valuesUnder ["batchSize", "batch_size"] properties, value ≠ .null →
          training.batchSize = some "4" ∧ ∀ m : Int, value.Denotes m ↔ m = 4) := by
  have hfails (h : ¬TrainingProperties.AreAllowed properties) :
      ∃ error, ofProperties .training properties catalog = .error error := by
    cases hpatch : ofProperties .training properties catalog with
    | ok patch => exact absurd (exists_ofProperties_training_iff.mp ⟨patch, hpatch⟩) h
    | error error => exact ⟨error, rfl⟩
  refine ⟨exists_ofProperties_training_iff, fun value hvalue hnull hdenotes => hfails fun h => ?_,
    fun value hvalue hnull hdenotes => hfails fun h => ?_, fun patch hpatch => ?_⟩
  · exact hdenotes ((h.epochs value hvalue).resolve_left hnull)
  · exact hdenotes ((h.batchSize value hvalue).resolve_left hnull)
  · obtain ⟨training, hset, -, rfl⟩ := ofProperties_training_eq_ok_iff.mp hpatch
    refine ⟨training, rfl, hset.epochs.eq_none_iff.mpr, fun value hvalue hnull => ?_,
      hset.batchSize.eq_none_iff.mpr, fun value hvalue hnull => ?_⟩
    · obtain ⟨n, hn, hdenotes, -⟩ := hset.epochs.exists_of_ne_null hvalue hnull
      exact ⟨n, hn, fun m => hdenotes.iff_eq⟩
    · obtain ⟨_, hbatch, hdenotes, rfl⟩ := hset.batchSize.exists_of_ne_null hvalue hnull
      exact ⟨hbatch, fun m => hdenotes.iff_eq⟩

/-- Epochs in a text with a sign, a leading zero and blanks, a batch size as a double under its
other name, and a quantization in capitals are accepted. Numbers of epochs that do not fit in 64
bits with a sign are refused in every form. -/
theorem ofProperties_training_lenient :
    let given : List (String × Json) := [("epochs", .string " +03 "),
      ("batch_size", .number (.double (.ofInt 4))), ("trainQuant", .string "\tINT8"),
      ("unknown", .bool true)]
    (∃ training : TrainingPatch, ofProperties .training given ⟨[]⟩ = .ok (.training training) ∧
      training.epochs = some 3 ∧ training.batchSize = some "4") ∧
    ∀ large ∈ [Json.string "18446744073709551619", .number (.integer 18446744073709551615),
        .number (.double (.ofInt (2 ^ 100)))],
      ∃ error, ofProperties .training [("epochs", large)] ⟨[]⟩ = .error error := by
  intro given
  have hthree : (Json.string " +03 ").Denotes 3 := Text.Numeral.int?_eq_some_iff.mp (by decide)
  have hfour : (Json.number (.double (.ofInt 4))).Denotes 4 :=
    Double.toInt?_eq_some_iff.mp (by decide)
  have hallowed : TrainingProperties.AreAllowed given := {
    epochs := List.forall_mem_singleton.mpr (.inr ⟨3, by decide, by decide, hthree⟩)
    batchSize := List.forall_mem_singleton.mpr (.inr hfour)
    quantization := List.forall_mem_singleton.mpr (.inr ⟨_, rfl, .inr (by decide)⟩)
    downloadQuant := nofun
    once := by decide
    someSet := ⟨["epochs"], by decide, .string " +03 ", .head _, nofun⟩ }
  obtain ⟨haccepted, -, -, hset⟩ := ofProperties_training given ⟨[]⟩
  obtain ⟨patch, hpatch⟩ := haccepted.mpr hallowed
  obtain ⟨training, rfl, -, hepochs, -, hbatch⟩ := hset patch hpatch
  obtain ⟨n, hn, hdenotes⟩ := hepochs (.string " +03 ") (.head _) nofun
  have hn3 : n = 3 := by
    have hvalue := (hdenotes 3).mp hthree
    exact UInt32.toNat_inj.mp (Int.ofNat_inj.mp hvalue.symm)
  refine ⟨⟨training, hpatch, hn.trans (congrArg some hn3), (hbatch _ (.head _) nofun).1⟩, ?_⟩
  have hrefused {large : Json} {n : Int} (hlarge : large.Denotes n) (hn : 5 < n) :
      ∃ error, ofProperties .training [("epochs", large)] ⟨[]⟩ = .error error := by
    refine (ofProperties_training [("epochs", large)] ⟨[]⟩).2.1 large (.head _) ?_ ?_
    · rintro rfl
      exact hlarge
    · rintro ⟨m, -, hhigh, hm⟩
      exact absurd hhigh (Int.not_le.mpr (hm.unique hlarge ▸ hn))
  have htext : (Json.string "18446744073709551619").Denotes 18446744073709551619 :=
    Text.Numeral.int?_eq_some_iff.mp (by decide)
  have hdouble : (Json.number (.double (.ofInt (2 ^ 100)))).Denotes (2 ^ 100) :=
    Double.toInt?_eq_some_iff.mp (by decide +kernel)
  exact List.forall_mem_cons.mpr ⟨hrefused htext (by decide), List.forall_mem_cons.mpr
    ⟨hrefused (n := 18446744073709551615) rfl (by decide),
      List.forall_mem_singleton.mpr (hrefused hdouble (by decide))⟩⟩

end NodePatch

end FineTuning
