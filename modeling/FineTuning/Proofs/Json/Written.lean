import FineTuning.Json.Decode
import FineTuning.Json.Printer
import FineTuning.Proofs.Except
import FineTuning.Proofs.Json.Words

/-!
# Texts that were written read back

The reader goes through a text with a stack of open arrays and objects. Inside of any such stack,
the text of a value leaves it at the place after the value, whatever follows; this is shown by
induction over the value, its items and its fields together.

* `Json.FitsIn`: what a value has to meet: its numbers read back, and it does not lie too deep.
* `Reading.read_write`: reading on through the text of a value.
* `ofText_write`: the text of a value reads back as the value.
* `decodeText_write`: so it decodes as the value itself does.
-/

namespace FineTuning.Json

/-! ## Strings -/

theorem hexValue?_digitChar {n : Nat} (h : n < 16) : hexValue? (Nat.digitChar n) = some n := by
  have hall : ∀ k : Fin 16, hexValue? (Nat.digitChar k) = some k.val := by decide
  exact hall ⟨n, h⟩

theorem Piece.ofUnit_toNat {c : Char} (h : c.toNat < 0xd800) : ofUnit c.toNat = .char c := by
  have hhigh : ¬(0xd800 ≤ c.toNat) := by omega
  have hlow : ¬(0xdc00 ≤ c.toNat) := by omega
  simp [ofUnit, isHighSurrogate, isLowSurrogate, hhigh, hlow, Char.ofNat_toNat]

theorem scan_unitEscape {c : Char} (h : c.toNat < 0x20) (read : List Piece) (rest : List Char) :
    scan (.string read) (unitEscape c ++ rest) = scan (.string (.char c :: read)) rest := by
  have hzero : hexValue? '0' = some 0 := rfl
  have hhigh := hexValue?_digitChar (n := c.toNat / 16) (by omega)
  have hlow := hexValue?_digitChar (n := c.toNat % 16) (by omega)
  have hunit : c.toNat / 16 * 16 + c.toNat % 16 = c.toNat := by omega
  have hpiece : Piece.ofUnit c.toNat = .char c := Piece.ofUnit_toNat (by omega)
  simp [unitEscape, scan, hzero, hhigh, hlow, hunit, hpiece]

theorem scan_escapeChar (c : Char) (read : List Piece) (rest : List Char) :
    scan (.string read) (escapeChar c ++ rest) = scan (.string (.char c :: read)) rest := by
  unfold escapeChar
  split
  any_goals rfl
  rename_i hquote hback _ _ _ _ _
  split
  · exact scan_unitEscape ‹_› read rest
  · rename_i hcontrol
    have hquote : c ≠ '"' := fun h => hquote h
    have hback : c ≠ '\\' := fun h => hback h
    simp only [List.singleton_append, scan, hquote, hback, hcontrol, ↓reduceIte]

theorem scan_escaped (cs : List Char) (read : List Piece) (rest : List Char) :
    scan (.string read) (cs.flatMap escapeChar ++ rest) =
      scan (.string ((cs.map .char).reverse ++ read)) rest := by
  induction cs generalizing read with
  | nil => rfl
  | cons c cs ih =>
    rw [List.flatMap_cons, List.append_assoc, scan_escapeChar, ih, List.map_cons,
      List.reverse_cons, List.append_assoc, List.singleton_append]

theorem spell?_chars (cs : List Char) : spell? (cs.map .char) = some cs := by
  induction cs with
  | nil => rfl
  | cons c cs ih => rw [List.map_cons, spell?, ih, Option.map_some]

/-- **Strings read back,** with any characters in them. -/
theorem scan_stringText (s : String) (rest : List Char) :
    scan .between (stringText s ++ rest) = .string (some s) :: scan .between rest := by
  have hopen : scan .between (stringText s ++ rest) =
      scan (.string []) (s.toList.flatMap escapeChar ++ '"' :: rest) := by
    simp [stringText, scan, isSpace]
  have htext : stringText? (s.toList.map .char).reverse = some s := by
    rw [stringText?, List.reverse_reverse, spell?_chars, Option.map_some, String.ofList_toList]
  rw [hopen, scan_escaped, List.append_nil]
  simp [scan, htext]

/-! ## Layouts -/

/-- What stands between the parts of a value is space. -/
structure Layout.IsBlank (layout : Layout) : Prop where
  newline : ∀ depth, ∀ c ∈ layout.newline depth, isSpace c = true
  afterColon : ∀ c ∈ layout.afterColon, isSpace c = true

theorem Layout.isBlank_compact : Layout.compact.IsBlank :=
  ⟨fun _ _ hc => absurd hc List.not_mem_nil, fun _ hc => absurd hc List.not_mem_nil⟩

theorem Layout.isBlank_indented : Layout.indented.IsBlank := by
  refine ⟨fun depth c hc => ?_, List.forall_mem_singleton.mpr rfl⟩
  rcases List.mem_cons.mp hc with rfl | hc
  · rfl
  · rw [List.eq_of_mem_replicate hc]
    rfl

/-! ## Values that read back -/

mutual

/-- The text of the value can be read inside of so many arrays and objects: its numbers read back,
and none of its arrays and objects lies too deep. -/
def FitsIn (outer : Nat) : Json → Prop
  | .null | .bool _ | .string _ => True
  | .number n => Number.read n.text = .ok n
  | .array items => outer < Reading.depthLimit ∧ ItemsFitIn (outer + 1) items
  | .object fields => outer < Reading.depthLimit ∧ FieldsFitIn (outer + 1) fields

/-- All items fit. -/
def ItemsFitIn (outer : Nat) : List Json → Prop
  | [] => True
  | item :: rest => FitsIn outer item ∧ ItemsFitIn outer rest

/-- The values of all fields fit. -/
def FieldsFitIn (outer : Nat) : List (String × Json) → Prop
  | [] => True
  | (_, value) :: rest => FitsIn outer value ∧ FieldsFitIn outer rest

end

theorem itemsFitIn_iff {outer : Nat} {items : List Json} :
    ItemsFitIn outer items ↔ ∀ item ∈ items, item.FitsIn outer := by
  induction items with
  | nil => simp [ItemsFitIn]
  | cons item rest ih => rw [ItemsFitIn, ih, List.forall_mem_cons]

theorem fieldsFitIn_iff {outer : Nat} {fields : List (String × Json)} :
    FieldsFitIn outer fields ↔ ∀ field ∈ fields, field.2.FitsIn outer := by
  induction fields with
  | nil => simp [FieldsFitIn]
  | cons field rest ih => rw [FieldsFitIn, ih, List.forall_mem_cons]

@[simp] theorem fitsIn_string (outer : Nat) (s : String) : (Json.string s).FitsIn outer := trivial

@[simp] theorem fitsIn_bool (outer : Nat) (b : Bool) : (Json.bool b).FitsIn outer := trivial

@[simp] theorem fitsIn_array {outer : Nat} {items : List Json} :
    (Json.array items).FitsIn outer ↔
      outer < Reading.depthLimit ∧ ∀ item ∈ items, item.FitsIn (outer + 1) := by
  rw [FitsIn, itemsFitIn_iff]

@[simp] theorem fitsIn_object {outer : Nat} {fields : List (String × Json)} :
    (Json.object fields).FitsIn outer ↔
      outer < Reading.depthLimit ∧ ∀ field ∈ fields, field.2.FitsIn (outer + 1) := by
  rw [FitsIn, fieldsFitIn_iff]

/-- Whole numbers of 64 bits fit anywhere. -/
theorem fitsIn_ofNat {n : Nat} (h : n < UInt64.size) (outer : Nat) : (ofNat n).FitsIn outer := by
  rw [ofNat, ofInt, FitsIn]
  show Number.read n.repr.toList = _
  rw [Nat.toList_repr, Number.read_toDigits h]

theorem fitsIn_uint32 (n : UInt32) (outer : Nat) : (ofNat n.toNat).FitsIn outer :=
  fitsIn_ofNat (Nat.lt_trans n.toNat_lt_size (by decide)) outer

@[simp] theorem forall_mem_fieldIfSome {α : Type} {key : String} {v? : Option α}
    {encode : α → Json} {p : String × Json → Prop} :
    (∀ field ∈ fieldIfSome key (v?.map encode), p field) ↔ ∀ v ∈ v?, p (key, encode v) := by
  cases v? <;> simp [fieldIfSome]

theorem isWord_null : ∀ c ∈ ['n', 'u', 'l', 'l'], IsWordChar c := by
  simp only [List.forall_mem_cons, List.not_mem_nil, IsEmpty.forall_iff, implies_true, and_true]
  decide

theorem isWord_boolText (b : Bool) : ∀ c ∈ boolText b, IsWordChar c := by
  cases b <;> simp [boolText] <;> decide

namespace Reading

/-! ## Reading on -/

/-- The state after more characters. -/
def State.read (state : State) (cs : List Char) : State :=
  (scan .between cs).foldl step state

theorem read_space {cs : List Char} (hspace : ∀ c ∈ cs, isSpace c = true) (state : State)
    (rest : List Char) : state.read (cs ++ rest) = state.read rest := by
  induction cs with
  | nil => rfl
  | cons c cs ih =>
    obtain ⟨hc, hcs⟩ := List.forall_mem_cons.mp hspace
    simp only [State.read, List.cons_append, scan, hc, ↓reduceIte]
    exact ih hcs

theorem read_punctuation {c : Char} {token : Token} (h : punctuation? c = some token)
    (state : State) (rest : List Char) : state.read (c :: rest) = (step state token).read rest := by
  have hspace : isSpace c = false := by
    unfold punctuation? at h
    split at h <;> first | rfl | contradiction
  have hquote : c ≠ '"' := by rintro rfl; cases h
  simp only [State.read, scan, hspace, hquote, h, Bool.false_eq_true, ↓reduceIte, List.foldl_cons]

theorem read_word {w : List Char} (hne : w ≠ []) (hw : ∀ c ∈ w, IsWordChar c) {rest : List Char}
    (hrest : EndsWord rest) (state : State) :
    state.read (w ++ rest) = (step state (.word w)).read rest := by
  obtain ⟨c, w, rfl⟩ := List.exists_cons_of_ne_nil hne
  obtain ⟨⟨hspace, hquote, hpunct⟩, hw⟩ := List.forall_mem_cons.mp hw
  have hscan : scan .between (c :: w ++ rest) = .word (c :: w) :: scan .between rest := by
    simp only [List.cons_append, scan, hspace, hquote, hpunct, Bool.false_eq_true, ↓reduceIte]
    rw [scan_word_append hw, scan_word_of_endsWord hrest, List.reverse_append, List.reverse_reverse,
      List.reverse_singleton, List.singleton_append]
  simp only [State.read, hscan, List.foldl_cons]

theorem read_stringText (s : String) (state : State) (rest : List Char) :
    state.read (stringText s ++ rest) = (step state (.string (some s))).read rest := by
  rw [State.read, scan_stringText, List.foldl_cons, State.read]

theorem ofWord?_of_read {cs : List Char} {n : Number} (h : Number.read cs = .ok n) :
    ofWord? cs = some (.number n) := by
  unfold ofWord?
  split
  · rename_i hnull; subst hnull; cases h
  split
  · rename_i htrue; subst htrue; cases h
  split
  · rename_i hfalse; subst hfalse; cases h
  · rw [h]

/-- The states before a value inside of the frames; one before the first item of an array also
takes the end of the array. -/
inductive State.Awaits : State → List Frame → Prop
  | value (frames : List Frame) : Awaits (.value frames) frames
  | firstItem (frames : List Frame) : Awaits (.firstItem frames) (.array [] :: frames)

theorem State.Awaits.step_eq {state : State} {frames : List Frame} (h : state.Awaits frames)
    {token : Token} {after : State} (hbegin : begin? frames token = some after) :
    step state token = after := by
  cases h with
  | value frames => simp [step, next?, hbegin]
  | firstItem frames =>
    have hclose : token ≠ .closeArray := by rintro rfl; cases hbegin
    have hnext : next? (.firstItem frames) token = begin? (.array [] :: frames) token := by
      unfold next?
      split <;> simp_all
    simp [step, hnext, hbegin]

/-- A closing token completes what it closes, if that does not lie too deep. -/
theorem step_close {state : State} {frames : List Frame} {token : Token} {value : Reading}
    (hdepth : frames.length < depthLimit)
    (hnext : next? state token = some (place (closeAt frames.length value) frames)) :
    step state token = place value frames := by
  rw [step, hnext, closeAt, if_pos hdepth, Option.getD_some]

section

variable {layout : Layout} (hlayout : layout.IsBlank)
include hlayout

theorem endsWord_writeItems (depth : Nat) (items : List Json) (rest : List Char) :
    EndsWord (writeItems layout depth items ++ rest) := by
  cases items with
  | nil =>
    rw [writeItems, List.append_assoc]
    exact endsWord_append (hlayout.newline depth) (by decide) rest
  | cons item items => exact endsWord_cons (c := ',') (by decide) _

theorem endsWord_writeFields (depth : Nat) (fields : List (String × Json)) (rest : List Char) :
    EndsWord (writeFields layout depth fields ++ rest) := by
  cases fields with
  | nil =>
    rw [writeFields, List.append_assoc]
    exact endsWord_append (hlayout.newline depth) (by decide) rest
  | cons field fields => exact endsWord_cons (c := ',') (by decide) _

/-- A key with its colon, where a key can stand. -/
theorem read_key {state : State} {fields : Fields} {key : String} {frames : List Frame}
    (hkey : step state (.string (some key)) = .colon fields (some key) frames) (rest : List Char) :
    state.read (stringText key ++ ':' :: (layout.afterColon ++ rest)) =
      (State.value (.field fields (some key) :: frames)).read rest := by
  rw [read_stringText, read_punctuation rfl, read_space hlayout.afterColon, hkey]
  rfl

mutual

/-- **Reading on through a value.** The text of a value takes the reader to the place after it. -/
theorem read_write (value : Json) (depth : Nat) {state : State} {frames : List Frame}
    {rest : List Char} (hstate : state.Awaits frames) (hfits : value.FitsIn frames.length)
    (hrest : EndsWord rest) :
    state.read (write layout depth value ++ rest) = (place (ofJson value) frames).read rest := by
  match value with
  | .null => rw [write, read_word (by decide) isWord_null hrest, hstate.step_eq rfl, ofJson]
  | .bool true =>
    rw [write, read_word (by decide) (isWord_boolText true) hrest, hstate.step_eq rfl, ofJson]
  | .bool false =>
    rw [write, read_word (by decide) (isWord_boolText false) hrest, hstate.step_eq rfl, ofJson]
  | .number n =>
    rw [FitsIn] at hfits
    obtain ⟨hne, hword⟩ := Number.isWord_of_read hfits
    have hbegin : begin? frames (.word n.text) = some (place (.number n) frames) := by
      rw [begin?, ofWord?_of_read hfits, Option.map_some]
    rw [write, read_word hne hword hrest, hstate.step_eq hbegin, ofJson]
  | .string s => rw [write, read_stringText, hstate.step_eq rfl, ofJson]
  | .array [] =>
    rw [FitsIn] at hfits
    simp only [write, List.cons_append, List.nil_append]
    rw [read_punctuation rfl, hstate.step_eq rfl, read_punctuation rfl, ofJson, ofItems,
      step_close hfits.1 rfl]
  | .array (item :: items) =>
    rw [FitsIn, ItemsFitIn] at hfits
    obtain ⟨hdepth, hitem, hitems⟩ := hfits
    simp only [write, List.cons_append, List.append_assoc]
    rw [read_punctuation rfl, hstate.step_eq rfl, read_space (hlayout.newline _),
      read_write item _ (.firstItem frames) hitem (endsWord_writeItems hlayout _ _ _), place,
      read_writeItems items depth hdepth hitems, ofJson, ofItems]
    rfl
  | .object [] =>
    rw [FitsIn] at hfits
    simp only [write, List.cons_append, List.nil_append]
    rw [read_punctuation rfl, hstate.step_eq rfl, read_punctuation rfl, ofJson, ofFields,
      step_close hfits.1 rfl]
  | .object ((key, item) :: fields) =>
    rw [FitsIn, FieldsFitIn] at hfits
    obtain ⟨hdepth, hitem, hfields⟩ := hfits
    simp only [write, List.cons_append, List.append_assoc]
    rw [read_punctuation rfl, hstate.step_eq rfl, read_space (hlayout.newline _),
      read_key hlayout rfl,
      read_write item _ (.value (_ :: frames)) hitem (endsWord_writeFields hlayout _ _ _), place,
      read_writeFields fields depth hdepth hfields, ofJson, ofFields]
    rfl

theorem read_writeItems (items : List Json) (depth : Nat) {before : List Reading}
    {frames : List Frame} {rest : List Char} (hdepth : frames.length < depthLimit)
    (hfits : ItemsFitIn (frames.length + 1) items) :
    (State.afterItem before frames).read (writeItems layout depth items ++ rest) =
      (place (.array (before.reverse ++ ofItems items) true) frames).read rest := by
  match items with
  | [] =>
    simp only [writeItems, List.cons_append, List.nil_append, List.append_assoc]
    rw [read_space (hlayout.newline _), read_punctuation rfl, step_close hdepth rfl, ofItems,
      List.append_nil]
  | item :: items =>
    rw [ItemsFitIn] at hfits
    have hcomma : step (.afterItem before frames) .comma = .value (.array before :: frames) := rfl
    simp only [writeItems, List.cons_append, List.append_assoc]
    rw [read_punctuation rfl, hcomma, read_space (hlayout.newline _),
      read_write item _ (.value (_ :: frames)) hfits.1 (endsWord_writeItems hlayout _ _ _), place,
      read_writeItems items depth hdepth hfits.2, ofItems, List.reverse_cons, List.append_assoc]
    rfl

theorem read_writeFields (fields : List (String × Json)) (depth : Nat) {before : Fields}
    {frames : List Frame} {rest : List Char} (hdepth : frames.length < depthLimit)
    (hfits : FieldsFitIn (frames.length + 1) fields) :
    (State.afterField before frames).read (writeFields layout depth fields ++ rest) =
      (place (.object (before.reverse ++ ofFields fields) true) frames).read rest := by
  match fields with
  | [] =>
    simp only [writeFields, List.cons_append, List.nil_append, List.append_assoc]
    rw [read_space (hlayout.newline _), read_punctuation rfl, step_close hdepth rfl, ofFields,
      List.append_nil]
  | (key, item) :: fields =>
    rw [FieldsFitIn] at hfits
    have hcomma : step (.afterField before frames) .comma = .key before frames := rfl
    simp only [writeFields, List.cons_append, List.append_assoc]
    rw [read_punctuation rfl, hcomma, read_space (hlayout.newline _), read_key hlayout rfl,
      read_write item _ (.value (_ :: frames)) hfits.1 (endsWord_writeFields hlayout _ _ _), place,
      read_writeFields fields depth hdepth hfits.2, ofFields, List.reverse_cons, List.append_assoc]
    rfl

end

end

end Reading

/-- **What is written reads back.** -/
theorem ofText_write {layout : Layout} (hlayout : layout.IsBlank) {value : Json}
    (hfits : value.FitsIn 0) :
    Document.ofText (String.ofList (write layout 0 value)) = ⟨.ofJson value, true⟩ := by
  have hread : (Reading.State.value []).read (write layout 0 value) =
      .complete (.ofJson value) := by
    have h := Reading.read_write hlayout value 0 (.value []) hfits endsWord_nil
    rwa [List.append_nil] at h
  rw [Document.ofText, String.toList_ofList, Document.ofTokens]
  show Document.ofState ((Reading.State.value []).read _) = _
  rw [hread, Document.ofState]

/-- The text of a value decodes as the value itself does. -/
theorem decodeText_write {α : Type} {decode : Decoder α} {layout : Layout}
    (hlayout : layout.IsBlank) {value : Json} (hfits : value.FitsIn 0) :
    decodeText decode (String.ofList (write layout 0 value)) = decode (.ofJson value) := by
  rw [decodeText, ofText_write hlayout hfits]
  cases decode (.ofJson value) <;> rfl

/-- A text that decodes is well-formed, and its document decodes. -/
theorem of_decodeText {α : Type} {decode : Decoder α} {text : String} {v : α}
    (h : decodeText decode text = .ok v) :
    (Document.ofText text).wellFormed = true ∧ decode (Document.ofText text).root = .ok v := by
  obtain ⟨read, hread, hend⟩ := bind_eq_ok_iff.mp h
  split at hend
  · exact ⟨‹_›, Except.ok.inj hend ▸ hread⟩
  · cases hend

end FineTuning.Json
