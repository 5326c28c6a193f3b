import FineTuning.Job.Codec
import FineTuning.Proofs.Job.Description
import FineTuning.Proofs.Json.Records
import FineTuning.Proofs.Json.Written
import Mathlib.Data.List.Forall2
import Mathlib.Data.List.Induction

/-!
# Job descriptions as texts

Every job description reads back from its text, and every text of one gives nodes without
repetitions.

* `WireNodes.keys_ofList`, `WireNodes.get?_ofList`: of nodes with one id, the last is kept in the
  place of the first.
* `WireNodes.decodeInto_eq_ok_iff`: nodes decode just when each stands under its own id.
* `JobDescription.decode_toJson`, `JobDescription.fitsIn_toJson`: a description decodes from its
  JSON form, and this reads back from its text.
* `JobDescription.wire_format_round_trip`: both directions for whole texts.
-/

namespace FineTuning

open Json

/-! ## Parts of a description -/

theorem Quantization.decode_name (q : Quantization) : decode (.string q.name) = .ok q := by
  cases q <;> rfl

theorem WireNodeType.decode_name (type : WireNodeType) : decode (.string type.name) = .ok type := by
  cases type <;> rfl

theorem WireProps.decode_toJson (p : WireProps) : decode (.ofJson p.toJson) = .ok p := by
  rw [toJson, Reading.ofJson]
  simp only [Reading.ofFields_append, List.append_assoc]
  refine Fields.record_written ?_ (by decide) _ _
  refine .ofOption rfl rfl nofun (fun uris _ => Decode.list_ofJson fun _ _ => rfl) ?_
  refine .ofOption rfl rfl nofun (fun modelId _ => rfl) ?_
  refine .ofOption rfl rfl nofun (fun epochs _ => Decode.uint32_ofNat epochs) ?_
  refine .ofOption rfl rfl nofun (fun batchSize _ => Decode.uint32_ofNat batchSize) ?_
  refine .ofOption rfl rfl nofun (fun q _ => Quantization.decode_name q) ?_
  rw [← List.append_nil (Reading.ofFields _)]
  exact .ofOption rfl rfl nofun (fun q _ => Quantization.decode_name q) (.nil _)

theorem WireProps.fitsIn_toJson (p : WireProps) {outer : Nat}
    (h : outer + 1 < Reading.depthLimit) : p.toJson.FitsIn outer := by
  have hthis : outer < Reading.depthLimit := Nat.lt_of_succ_lt h
  simp only [toJson, fitsIn_object, List.forall_mem_append, forall_mem_fieldIfSome]
  simp [hthis, h, fitsIn_uint32]

theorem WireNode.decode_toJson (n : WireNode) : decode (.ofJson n.toJson) = .ok n := by
  refine Fields.record_written ?_ (by decide) _ _
  refine .required rfl ?_
  refine .required (WireNodeType.decode_name n.type) ?_
  exact .required n.props.decode_toJson (.nil _)

theorem WireNode.fitsIn_toJson (n : WireNode) {outer : Nat} (h : outer + 2 < Reading.depthLimit) :
    n.toJson.FitsIn outer := by
  have hthis : outer < Reading.depthLimit := Nat.lt_of_add_right_lt h
  simp [toJson, hthis, n.props.fitsIn_toJson h]

theorem PlannedEdge.decode_toJson (e : PlannedEdge) : decode (.ofJson e.toJson) = .ok e := by
  refine Fields.record_written ?_ (by decide) _ _
  exact .required rfl (.required rfl (.nil _))

theorem PlannedEdge.fitsIn_toJson (e : PlannedEdge) {outer : Nat} (h : outer < Reading.depthLimit) :
    e.toJson.FitsIn outer := by
  simp [toJson, h]

/-! ## Nodes under their ids -/

namespace WireNodes

theorem ofList_concat (nodes : List WireNode) (last : WireNode) :
    ofList (nodes ++ [last]) = (ofList nodes).insert last := by
  rw [ofList, List.foldl_append, List.foldl_cons, List.foldl_nil, ofList]

/-- A key stands where it was first put in. -/
theorem keys_ofList (nodes : List WireNode) :
    (ofList nodes).keys = (nodes.map (·.id)).eraseDups := by
  induction nodes using List.reverseRecOn with
  | nil => rfl
  | append_singleton nodes last ih =>
    rw [ofList_concat, keys_insert, ih, List.map_append, List.eraseDups_append]
    by_cases hmem : last.id ∈ nodes.map (·.id)
    · have hold : [last.id].removeAll (nodes.map (·.id)) = [] := by
        simpa [List.removeAll] using hmem
      rw [if_pos (List.mem_eraseDups.mpr hmem), List.map_singleton, hold, List.eraseDups_nil,
        List.append_nil]
    · have hnew : [last.id].removeAll (nodes.map (·.id)) = [last.id] := by
        simpa [List.removeAll] using hmem
      rw [if_neg (mt List.mem_eraseDups.mp hmem), List.map_singleton, hnew]
      rfl

/-- Under a key stands what was last put in. -/
theorem get?_ofList (nodes : List WireNode) (id : String) :
    (ofList nodes).get? id = nodes.reverse.find? (·.id == id) := by
  induction nodes using List.reverseRecOn with
  | nil => rfl
  | append_singleton nodes last ih =>
    rw [ofList_concat, get?_insert, ih, List.reverse_append, List.reverse_singleton,
      List.singleton_append, List.find?_cons]
    by_cases hid : last.id = id
    · rw [if_pos hid, beq_iff_eq.mpr hid]
    · rw [if_neg hid, beq_eq_false_iff_ne.mpr hid]

/-- Any nodes can be put in one after the other. -/
theorem ofList_entries (nodes : WireNodes) : ofList nodes.entries = nodes := by
  obtain ⟨entries, hnodup⟩ := nodes
  have hentries := WireNodes.entries_ofList hnodup
  revert hentries
  generalize ofList entries = made
  obtain ⟨made, _⟩ := made
  rintro rfl
  rfl

/-- An entry of an object gives the node if it stands under the id of the node. -/
def IsEntry (entry : Option String × Reading) (node : WireNode) : Prop :=
  entry.1 = some node.id ∧ WireNode.decode entry.2 = .ok node

/-- **Nodes decode from their entries,** each under its own id, and are inserted in order. -/
theorem decodeInto_eq_ok_iff {entries : Reading.Fields} {nodes result : WireNodes} :
    decodeInto nodes entries = .ok result ↔
      ∃ read, List.Forall₂ IsEntry entries read ∧ result = read.foldl insert nodes := by
  induction entries generalizing nodes with
  | nil => simp [decodeInto, eq_comm]
  | cons entry rest ih =>
    obtain ⟨key, value⟩ := entry
    constructor
    · intro h
      cases key with
      | none => cases h
      | some key =>
        obtain ⟨node, hnode, h⟩ := bind_eq_ok_iff.mp h
        split at h
        · rename_i hkey
          obtain ⟨read, hread, hresult⟩ := ih.mp h
          exact ⟨node :: read, .cons ⟨congrArg some hkey, hnode⟩ hread, hresult⟩
        · cases h
    · rintro ⟨_, hread, hresult⟩
      obtain _ | ⟨⟨hkey, hnode⟩, hrest⟩ := hread
      cases hkey
      refine bind_eq_ok_iff.mpr ⟨_, hnode, ?_⟩
      rw [if_pos rfl]
      exact ih.mpr ⟨_, hrest, hresult⟩

theorem exists_of_decode {source : Reading} {nodes : WireNodes} (h : decode source = .ok nodes) :
    ∃ entries read, source = .object entries true ∧ List.Forall₂ IsEntry entries read ∧
      nodes = ofList read := by
  unfold decode at h
  split at h
  · rename_i entries closed
    obtain ⟨made, hmade, h⟩ := bind_eq_ok_iff.mp h
    cases closed with
    | true =>
      cases h
      obtain ⟨read, hread, hmade⟩ := decodeInto_eq_ok_iff.mp hmade
      exact ⟨entries, read, rfl, hread, hmade⟩
    | false => cases h
  · cases h

theorem decode_toJson (nodes : WireNodes) : decode (.ofJson nodes.toJson) = .ok nodes := by
  have hentries : ∀ read : List WireNode,
      List.Forall₂ IsEntry (Reading.ofFields (read.map fun n => (n.id, n.toJson))) read := by
    intro read
    induction read with
    | nil => exact .nil
    | cons node rest ih => exact .cons ⟨rfl, node.decode_toJson⟩ ih
  rw [toJson, Reading.ofJson, decode,
    decodeInto_eq_ok_iff.mpr ⟨_, hentries nodes.entries, nodes.ofList_entries.symm⟩]
  rfl

theorem fitsIn_toJson (nodes : WireNodes) {outer : Nat}
    (h : outer + 3 < Reading.depthLimit) : nodes.toJson.FitsIn outer := by
  have hthis : outer < Reading.depthLimit := Nat.lt_of_add_right_lt h
  have hnode : ∀ n : WireNode, n.toJson.FitsIn (outer + 1) := fun n => n.fitsIn_toJson h
  simp [toJson, hthis, hnode]

end WireNodes

/-! ## Whole descriptions -/

theorem NodeSchema.decodeMeta_createdBy (createdBy : String) :
    decodeMeta (.ofJson (.object [("created_by", .string createdBy)])) = .ok createdBy := by
  refine Fields.record_written ?_ (by decide) _ _
  exact .required rfl (.nil _)

theorem NodeSchema.decode_toJson (s : NodeSchema) : decode (.ofJson s.toJson) = .ok s := by
  refine Fields.record_written ?_ (by decide) _ _
  refine .required (Decode.uint32_ofNat s.version) ?_
  refine .required s.nodes.decode_toJson ?_
  refine .required (Decode.list_ofJson fun e _ => e.decode_toJson) ?_
  exact .required (decodeMeta_createdBy s.createdBy) (.nil _)

namespace JobDescription

theorem decode_toJson (d : JobDescription) : decode (.ofJson d.toJson) = .ok d := by
  refine Fields.record_written ?_ (by decide) _ _
  refine .required rfl ?_
  refine .required rfl ?_
  exact .required d.schema.decode_toJson (.nil _)

theorem fitsIn_toJson (d : JobDescription) : d.toJson.FitsIn 0 := by
  have hlimit : ∀ outer ≤ 5, outer < Reading.depthLimit := by decide
  have hnodes : d.schema.nodes.toJson.FitsIn 2 :=
    d.schema.nodes.fitsIn_toJson (hlimit 5 (by decide))
  have hedge : ∀ e : PlannedEdge, e.toJson.FitsIn 3 := fun e =>
    e.fitsIn_toJson (hlimit 3 (by decide))
  simp [toJson, NodeSchema.toJson, hlimit, hnodes, hedge, fitsIn_uint32]

/-- The nodes of a description come from the entries of an object in its text. -/
theorem exists_entries_of_decode {source : Reading} {d : JobDescription}
    (h : decode source = .ok d) : ∃ schema entries read, source.HasPart "node_schema" 2 schema ∧
      schema.HasPart "nodes" 1 (.object entries true) ∧
      List.Forall₂ WireNodes.IsEntry entries read ∧ d.schema.nodes = .ofList read := by
  obtain ⟨trainingId, -, projectName, -, schema, hschema, rfl⟩ := Fields.madeOf_of_record h
  obtain ⟨schemaSource, hschemaPart, hschema⟩ := hschema.of_required
  obtain ⟨version, -, nodes, hnodes, edges, -, createdBy, -, rfl⟩ :=
    Fields.madeOf_of_record hschema
  obtain ⟨nodesSource, hnodesPart, hnodes⟩ := hnodes.of_required
  obtain ⟨entries, read, rfl, hread, rfl⟩ := WireNodes.exists_of_decode hnodes
  exact ⟨schemaSource, entries, read, hschemaPart, hnodesPart, hread, rfl⟩

/-- **The wire format loses nothing.** Every description reads back from either of its texts. Of
every text that gives a description, the nodes come from entries that each stand under their own
id; their keys are distinct, a key stands where it occurs first, and under it the node that occurs
last; and the description reads back from its own texts. -/
theorem wire_format_round_trip :
    (∀ d : JobDescription, ofText d.toText = .ok d ∧ ofText d.toPrettyText = .ok d) ∧
    ∀ (text : String) (d : JobDescription), ofText text = .ok d →
      d.schema.nodes.keys.Nodup ∧
      (∃ schema entries read,
        (Document.ofText text).root.HasPart "node_schema" 2 schema ∧
        schema.HasPart "nodes" 1 (.object entries true) ∧
        List.Forall₂ WireNodes.IsEntry entries read ∧
        d.schema.nodes.keys = (read.map (·.id)).eraseDups ∧
        ∀ id, d.schema.nodes.get? id = read.reverse.find? (·.id == id)) ∧
      ofText d.toText = .ok d ∧ ofText d.toPrettyText = .ok d := by
  have hround : ∀ d : JobDescription, ofText d.toText = .ok d ∧ ofText d.toPrettyText = .ok d :=
    fun d => ⟨(decodeText_write Layout.isBlank_compact d.fitsIn_toJson).trans d.decode_toJson,
      (decodeText_write Layout.isBlank_indented d.fitsIn_toJson).trans d.decode_toJson⟩
  refine ⟨hround, fun text d h => ⟨d.schema.nodes.nodup, ?_, hround d⟩⟩
  obtain ⟨schema, entries, read, hschema, hnodes, hread, hmade⟩ :=
    exists_entries_of_decode (of_decodeText h).2
  refine ⟨schema, entries, read, hschema, hnodes, hread, ?_, fun id => ?_⟩
  · rw [hmade, WireNodes.keys_ofList]
  · rw [hmade, WireNodes.get?_ofList]

/-- A description in which the node `b1` is given twice, with another model the second time. -/
def repeatedNodeJson : Json :=
  let model := fun id modelId => WireNode.toJson ⟨id, .baseModel, { modelId := some modelId }⟩
  .object [
    ("training_id", .string "t"),
    ("project_name", .string "p"),
    ("node_schema", .object [
      ("schema_version", .ofNat 1),
      ("nodes", .object [
        ("b1", model "b1" "small"), ("b2", model "b2" "large"), ("b1", model "b1" "tiny")]),
      ("edges", .array []),
      ("meta", .object [("created_by", .string "u")])])]

/-- What its text gives: the last model of `b1`, in the place of the first. -/
def repeatedNode : JobDescription where
  trainingId := "t"
  projectName := "p"
  schema := {
    version := 1
    nodes := .ofList [
      ⟨"b1", .baseModel, { modelId := some "tiny" }⟩,
      ⟨"b2", .baseModel, { modelId := some "large" }⟩]
    edges := []
    createdBy := "u" }

theorem wire_format_round_trip_repeated :
    ofText repeatedNodeJson.compact = .ok repeatedNode ∧
      repeatedNode.schema.nodes.keys.Nodup ∧
      ofText repeatedNode.toText = .ok repeatedNode ∧
      ofText repeatedNode.toPrettyText = .ok repeatedNode := by
  have hfits : repeatedNodeJson.FitsIn 0 := by
    simp [repeatedNodeJson, WireNode.toJson, WireProps.toJson, fieldIfSome, Reading.depthLimit,
      fitsIn_ofNat (n := 1) (by decide)]
  have hread : ofText repeatedNodeJson.compact = .ok repeatedNode :=
    (decodeText_write Layout.isBlank_compact hfits).trans rfl
  obtain ⟨hnodup, -, hround⟩ := wire_format_round_trip.2 _ _ hread
  exact ⟨hread, hnodup, hround⟩

end JobDescription

end FineTuning
