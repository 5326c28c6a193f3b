import FineTuning.Graph.Codec
import FineTuning.Proofs.Graph.Integrity
import FineTuning.Proofs.Json.FieldOrder
import FineTuning.Proofs.Json.Written

/-!
# Graphs as texts

A graph that is written reads back, if its doubles are finite and read back as numbers. The data of
a node is written behind its kind, and is read from what is left when the kind is taken out.

* `NodeData.decode_perm`: data is read from its kind and its other fields in any order.
* `NodeData.decode_toJson`: every kind of data decodes from its JSON form.
* `Graph.doubles`: the doubles that a graph is written with.
* `Graph.ofText_toText`: the text of a graph with integrity gives the graph.
-/

namespace FineTuning

open Json

/-! ## Parts of a node -/

theorem Json.Decode.double_ofDouble {d : Double} (h : d.isFinite = true) :
    double (.ofJson (.ofDouble d)) = .ok d := by
  rw [ofDouble, if_pos h, Reading.ofJson]
  rfl

/-- The text of the double is read as the same number. This is so of most doubles, but not of all:
reading a number rounds more than once. -/
def Double.ReadsBack (d : Double) : Prop :=
  Number.read d.toText = .ok (.double d)

instance (d : Double) : Decidable d.ReadsBack :=
  inferInstanceAs (Decidable (_ = _))

theorem Json.fitsIn_ofDouble {d : Double} (h : d.isFinite = true → d.ReadsBack) (outer : Nat) :
    (ofDouble d).FitsIn outer := by
  unfold ofDouble
  split
  · exact h ‹_›
  · trivial

theorem Position.decode_toJson {p : Position} (h : p.isFinite = true) :
    decode (.ofJson p.toJson) = .ok p := by
  obtain ⟨hx, hy⟩ := Bool.and_eq_true_iff.mp h
  refine Fields.record_written ?_ (by decide) _ _
  refine .required (Decode.double_ofDouble hx) ?_
  exact .required (Decode.double_ofDouble hy) (.nil _)

theorem SelectedModel.decode_toJson {m : SelectedModel} (h : m.parameterCount.isFinite = true) :
    decode (.ofJson m.toJson) = .ok m := by
  refine Fields.record_written ?_ (by decide) _ _
  refine .required rfl (.withDefault rfl (.withDefault rfl ?_))
  exact .withDefault (Decode.double_ofDouble h) (.nil _)

theorem DatasetData.decodeStatus_name (status : DatasetStatus) :
    decodeStatus (.string status.name) = .ok status := by
  cases status <;> rfl

theorem DatasetData.decode_jsonFields (d : DatasetData) :
    decode (.object (Reading.ofFields d.jsonFields.tail) true) = .ok d := by
  simp only [jsonFields, NodeData.headFields, List.cons_append, List.nil_append, List.tail_cons,
    List.append_assoc, Reading.ofFields, Reading.ofFields_append, Reading.ofJson]
  refine Fields.record_written ?_ (by decide) _ _
  refine .required rfl (.withDefault rfl ?_)
  refine .ofOption rfl rfl nofun (fun url _ => rfl) ?_
  refine .ofOption rfl rfl nofun (fun id _ => rfl) ?_
  refine .withDefault (decodeStatus_name d.status) ?_
  rw [← List.append_nil (Reading.ofFields _)]
  exact .ofOption rfl rfl nofun (fun tab _ => rfl) (.nil _)

/-- The selected model may be written in any form from which it decodes. -/
theorem ModelData.decode_written {d : ModelData} {encode : SelectedModel → Json}
    (hnull : ∀ m, Reading.ofJson (encode m) ≠ .null)
    (h : ∀ m ∈ d.selectedModel, SelectedModel.decode (.ofJson (encode m)) = .ok m) :
    decode (.object (Reading.ofFields (
      ("title", .string d.title) :: ("description", .string d.description) ::
        (fieldIfSome "selectedModel" (d.selectedModel.map encode) ++
          [("isLocked", .bool d.isLocked)]))) true) = .ok d := by
  simp only [Reading.ofFields, Reading.ofFields_append, Reading.ofJson]
  refine Fields.record_written ?_ (by decide) _ _
  refine .required rfl (.withDefault rfl ?_)
  exact .ofOption rfl rfl hnull h (.withDefault rfl (.nil _))

theorem ModelData.decode_jsonFields {d : ModelData}
    (h : ∀ m ∈ d.selectedModel, m.parameterCount.isFinite = true) :
    decode (.object (Reading.ofFields d.jsonFields.tail) true) = .ok d :=
  decode_written nofun fun m hm => SelectedModel.decode_toJson (h m hm)

theorem TrainingData.decode_jsonFields (d : TrainingData) :
    decode (.object (Reading.ofFields d.jsonFields.tail) true) = .ok d := by
  refine Fields.record_written ?_ (by decide) _ _
  refine .required rfl (.withDefault rfl ?_)
  refine .withDefault (Decode.uint32_ofNat d.epochs) ?_
  exact .withDefault rfl (.withDefault rfl (.withDefault rfl (.nil _)))

/-! ## Nodes -/

namespace NodeData

/-- The doubles that the data is written with. -/
def doubles : NodeData → List Double
  | .dataset _ | .training _ => []
  | .model d => d.selectedModel.toList.map (·.parameterCount)

/-- The data is written behind its kind. -/
theorem jsonFields_eq_cons (data : NodeData) :
    data.jsonFields = ("kind", .string data.kind.name) :: data.jsonFields.tail := by
  cases data <;> rfl

/-- No other field is called like the kind. -/
theorem key_ne_kind (data : NodeData) : ∀ field ∈ data.jsonFields.tail, field.1 ≠ "kind" := by
  cases data with
  | dataset d =>
    simp only [jsonFields, DatasetData.jsonFields, headFields, List.cons_append, List.nil_append,
      List.tail_cons, List.forall_mem_cons, List.forall_mem_append, forall_mem_fieldIfSome]
    simp
  | model d =>
    simp only [jsonFields, ModelData.jsonFields, headFields, List.cons_append, List.nil_append,
      List.tail_cons, List.forall_mem_cons, List.forall_mem_append, forall_mem_fieldIfSome]
    simp
  | training d => simp [jsonFields, TrainingData.jsonFields, headFields]

theorem decodeKind_name (kind : NodeKind) : decodeKind (.string kind.name) = .ok kind := by
  cases kind <;> rfl

/-- Fields without a kind are passed by, and left. -/
theorem takeKind_append {fields : List (String × Json)} (h : ∀ field ∈ fields, field.1 ≠ "kind")
    {found kind : Option NodeKind} {entries others : Reading.Fields}
    (hothers : takeKind found entries = .ok (kind, others)) :
    takeKind found (Reading.ofFields fields ++ entries) =
      .ok (kind, Reading.ofFields fields ++ others) := by
  induction fields with
  | nil => exact hothers
  | cons field rest ih =>
    obtain ⟨key, value⟩ := field
    obtain ⟨hkey, hrest⟩ := List.forall_mem_cons.mp h
    have hne : some key ≠ some "kind" := fun heq => hkey (Option.some.inj heq)
    rw [Reading.ofFields, List.cons_append]
    unfold takeKind
    rw [if_neg hne, ih hrest]
    rfl

/-- The kind is taken out from between the other fields. -/
theorem takeKind_between {before after : List (String × Json)}
    (h : ∀ field ∈ before ++ after, field.1 ≠ "kind") (kind : NodeKind) :
    takeKind none (Reading.ofFields (before ++ ("kind", .string kind.name) :: after)) =
      .ok (some kind, Reading.ofFields (before ++ after)) := by
  obtain ⟨hbefore, hafter⟩ := List.forall_mem_append.mp h
  have hend : takeKind (some kind) [] = .ok (some kind, []) := rfl
  have hrest : takeKind (some kind) (Reading.ofFields after) =
      .ok (some kind, Reading.ofFields after) := by
    simpa using takeKind_append hafter hend
  rw [Reading.ofFields_append, Reading.ofFields_append]
  refine takeKind_append hbefore ?_
  rw [Reading.ofFields, Reading.ofJson, takeKind, if_pos rfl]
  exact bind_eq_ok_iff.mpr ⟨kind, decodeKind_name kind, hrest⟩

/-- The fields beside the kind may be in any order. -/
theorem decodeOfKind_perm {kind : NodeKind} {entries entries' : Reading.Fields} {data : NodeData}
    (hperm : entries.Perm entries') (h : decodeOfKind kind (.object entries true) = .ok data) :
    decodeOfKind kind (.object entries' true) = .ok data := by
  cases kind <;>
  · obtain ⟨d, hd, rfl⟩ := map_eq_ok_iff.mp h
    exact map_eq_ok_iff.mpr ⟨d, Fields.record_perm hperm hd, rfl⟩

/-- Data is read from its kind and its other fields in any order. -/
theorem decode_perm {kind : NodeKind} {fields others : List (String × Json)} {data : NodeData}
    (hperm : fields.Perm (("kind", .string kind.name) :: others))
    (hothers : ∀ field ∈ others, field.1 ≠ "kind")
    (h : decodeOfKind kind (.object (Reading.ofFields others) true) = .ok data) :
    decode (.ofJson (.object fields)) = .ok data := by
  obtain ⟨before, after, rfl⟩ := List.append_of_mem (hperm.mem_iff.mpr List.mem_cons_self)
  have hleft : (before ++ after).Perm others := (List.perm_middle.symm.trans hperm).cons_inv
  have htake := takeKind_between (fun field hf => hothers field (hleft.mem_iff.mp hf)) kind
  have hreadable := Reading.isReadable_ofJson
    (.object (before ++ ("kind", .string kind.name) :: after))
  rw [Reading.ofJson] at hreadable ⊢
  simp only [decode, hreadable, htake]
  exact decodeOfKind_perm (Reading.perm_ofFields hleft.symm) h

theorem decodeOfKind_jsonFields {data : NodeData} (h : ∀ d ∈ data.doubles, d.isFinite = true) :
    decodeOfKind data.kind (.object (Reading.ofFields data.jsonFields.tail) true) = .ok data := by
  cases data with
  | dataset d =>
    simp only [kind, decodeOfKind, jsonFields, d.decode_jsonFields]
    rfl
  | model d =>
    have hcount : ∀ m ∈ d.selectedModel, m.parameterCount.isFinite = true := fun m hm =>
      h _ (List.mem_map_of_mem (Option.mem_toList.mpr hm))
    simp only [kind, decodeOfKind, jsonFields, ModelData.decode_jsonFields hcount]
    rfl
  | training d =>
    simp only [kind, decodeOfKind, jsonFields, d.decode_jsonFields]
    rfl

/-- **Every kind of data reads back.** -/
theorem decode_toJson {data : NodeData} (h : ∀ d ∈ data.doubles, d.isFinite = true) :
    decode (.ofJson data.toJson) = .ok data :=
  decode_perm (.of_eq data.jsonFields_eq_cons) data.key_ne_kind (decodeOfKind_jsonFields h)

theorem fitsIn_toJson {data : NodeData} (h : ∀ d ∈ data.doubles, d.isFinite = true → d.ReadsBack)
    {outer : Nat} (houter : outer + 1 < Reading.depthLimit) : data.toJson.FitsIn outer := by
  have hthis : outer < Reading.depthLimit := Nat.lt_of_succ_lt houter
  cases data with
  | dataset d =>
    simp only [toJson, jsonFields, DatasetData.jsonFields, headFields, fitsIn_object,
      List.forall_mem_append, forall_mem_fieldIfSome]
    simp [hthis]
  | model d =>
    have hcount : ∀ m ∈ d.selectedModel, (ofDouble m.parameterCount).FitsIn (outer + 2) :=
      fun m hm => fitsIn_ofDouble (h _ (List.mem_map_of_mem (Option.mem_toList.mpr hm))) _
    simp only [toJson, jsonFields, ModelData.jsonFields, headFields, fitsIn_object,
      List.forall_mem_append, forall_mem_fieldIfSome]
    simpa [SelectedModel.toJson, hthis, houter] using hcount
  | training d =>
    simp [toJson, jsonFields, TrainingData.jsonFields, headFields, hthis, fitsIn_uint32]

end NodeData

namespace Node

/-- The doubles that the node is written with. -/
def doubles (n : Node) : List Double :=
  n.position.x :: n.position.y :: n.data.doubles

theorem decode_toJson {n : Node} (hseq : n.createdSeq < UInt64.size)
    (h : ∀ d ∈ n.doubles, d.isFinite = true) : decode (.ofJson n.toJson) = .ok n := by
  obtain ⟨hx, hy, hdata⟩ : _ ∧ _ ∧ ∀ d ∈ n.data.doubles, d.isFinite = true := by
    simpa [doubles] using h
  have hposition : n.position.isFinite = true := Bool.and_eq_true_iff.mpr ⟨hx, hy⟩
  refine Fields.record_written ?_ (by decide) _ _
  refine .required rfl ?_
  refine .withDefault (Position.decode_toJson hposition) ?_
  refine .withDefault (Decode.natBelow_ofNat hseq "u64") ?_
  exact .required (NodeData.decode_toJson hdata) (.nil _)

theorem fitsIn_toJson {n : Node} (hseq : n.createdSeq < UInt64.size)
    (h : ∀ d ∈ n.doubles, d.isFinite = true → d.ReadsBack) {outer : Nat}
    (houter : outer + 2 < Reading.depthLimit) : n.toJson.FitsIn outer := by
  have hthis : outer < Reading.depthLimit := Nat.lt_of_add_right_lt houter
  have hinner : outer + 1 < Reading.depthLimit := Nat.lt_of_succ_lt houter
  have hdata : n.data.toJson.FitsIn (outer + 1) :=
    NodeData.fitsIn_toJson (fun d hd => h d (by simp [doubles, hd])) houter
  have hx := Json.fitsIn_ofDouble (h n.position.x (by simp [doubles])) (outer + 2)
  have hy := Json.fitsIn_ofDouble (h n.position.y (by simp [doubles])) (outer + 2)
  simp [toJson, Position.toJson, hthis, hinner, hdata, hx, hy, fitsIn_ofNat hseq]

end Node

theorem Edge.decode_toJson (e : Edge) : decode (.ofJson e.toJson) = .ok e := by
  refine Fields.record_written ?_ (by decide) _ _
  exact .required rfl (.required rfl (.required rfl (.required rfl (.required rfl (.nil _)))))

/-! ## Graphs -/

namespace Graph

/-- The doubles that the graph is written with: positions and parameter counts. -/
def doubles (g : Graph) : List Double :=
  g.nodes.flatMap (·.doubles)

theorem decode_toJson {g : Graph} (hseq : ∀ n ∈ g.nodes, n.createdSeq < UInt64.size)
    (h : ∀ d ∈ g.doubles, d.isFinite = true) : decode (.ofJson g.toJson) = .ok g := by
  have hnode : ∀ n ∈ g.nodes, Node.decode (.ofJson n.toJson) = .ok n := fun n hn =>
    Node.decode_toJson (hseq n hn) fun d hd => h d (List.mem_flatMap.mpr ⟨n, hn, hd⟩)
  refine Fields.record_written ?_ (by decide) _ _
  refine .withDefault (Decode.list_ofJson hnode) ?_
  exact .withDefault (Decode.list_ofJson fun e _ => e.decode_toJson) (.nil _)

theorem fitsIn_toJson {g : Graph} (hseq : ∀ n ∈ g.nodes, n.createdSeq < UInt64.size)
    (h : ∀ d ∈ g.doubles, d.isFinite = true → d.ReadsBack) : g.toJson.FitsIn 0 := by
  have hlimit : ∀ outer ≤ 4, outer < Reading.depthLimit := by decide
  have hnode : ∀ n ∈ g.nodes, n.toJson.FitsIn 2 := fun n hn => by
    refine Node.fitsIn_toJson (hseq n hn) (fun d hd => h d ?_) (hlimit 4 (by decide))
    exact List.mem_flatMap.mpr ⟨n, hn, hd⟩
  simpa [toJson, Edge.toJson, hlimit] using hnode

/-- The check of integrity lets the graph through as it is. -/
theorem checked_eq_ok_iff {g g' : Graph} : g.checked = .ok g' ↔ g.HasIntegrity ∧ g = g' := by
  rw [← checkIntegrity_eq_ok_iff]
  unfold checked
  cases g.checkIntegrity <;> simp

/-- The text of a graph decodes as its value does, be its doubles finite or not. -/
theorem ofTextUnchecked_toText {g : Graph} (hseq : ∀ n ∈ g.nodes, n.createdSeq < UInt64.size)
    (hreads : ∀ d ∈ g.doubles, d.isFinite = true → d.ReadsBack) :
    ofTextUnchecked g.toText = (decode (.ofJson g.toJson)).mapError .unreadable := by
  rw [ofTextUnchecked, toText, pretty,
    decodeText_write Layout.isBlank_indented (fitsIn_toJson hseq hreads)]

/-- **Graphs read back.** The text of a graph with integrity gives the graph, if its doubles are
finite and read back as numbers. -/
theorem ofText_toText {g : Graph} (hintegrity : g.HasIntegrity)
    (hseq : ∀ n ∈ g.nodes, n.createdSeq < UInt64.size)
    (hfinite : ∀ d ∈ g.doubles, d.isFinite = true)
    (hreads : ∀ d ∈ g.doubles, d.isFinite = true → d.ReadsBack) : ofText g.toText = .ok g := by
  rw [ofText, ofTextUnchecked_toText hseq hreads, decode_toJson hseq hfinite]
  exact checked_eq_ok_iff.mpr ⟨hintegrity, rfl⟩

end Graph

end FineTuning
