import FineTuning.Proofs.Graph.RoundTrip
import FineTuning.Proofs.Graph.StoreEdits
import FineTuning.Proofs.Json.FiniteNumbers

/-!
# Finite doubles in graphs

A graph that is read from a text has finite doubles only, and an edit of a store brings in no
others than its own.

* `Graph.isFinite_of_ofText`: the doubles of a loaded graph are finite.
* `Store.mem_doubles_edit`: the doubles after an edit were there before, or are those of the edit.
-/

namespace FineTuning

open Json

/-! ## Graphs that are loaded -/

theorem Json.Reading.IsFinite.part {source part : Reading} {key : String} {index : Nat}
    (h : source.IsFinite) (hpart : source.HasPart key index part) : part.IsFinite := by
  cases hpart with
  | field hmem => exact h.fields _ hmem
  | item hat => exact h.items _ (List.mem_of_getElem? hat)

/-- What holds of the default, and of all that a field decodes from finite numbers, holds of its
value. -/
theorem Json.Field.IsTaken.of_isFinite {α : Type} {field : Field α} {index : Nat}
    {source : Reading} {v : α} (h : field.IsTaken index source v) (hsource : source.IsFinite)
    {p : α → Prop} (habsent : ∀ v ∈ field.absent, p v)
    (hdecode : ∀ {part v}, part.IsFinite → field.decode part = .ok v → p v) : p v := by
  obtain h | ⟨key, part, -, hpart, hv⟩ := h
  · exact habsent v h
  · exact hdecode (hsource.part hpart) hv

theorem Json.Decode.isFinite_of_double {source : Reading} {d : Double} (hsource : source.IsFinite)
    (h : double source = .ok d) : d.isFinite = true := by
  cases hsource with
  | number hn => cases h; exact hn
  | _ => cases h

theorem Position.isFinite_of_decode {source : Reading} {p : Position} (hsource : source.IsFinite)
    (h : decode source = .ok p) : p.isFinite = true := by
  obtain ⟨x, hx, y, hy, rfl⟩ := Fields.madeOf_of_record h
  have hfinite := @Decode.isFinite_of_double
  exact Bool.and_eq_true_iff.mpr
    ⟨hx.of_isFinite hsource nofun hfinite, hy.of_isFinite hsource nofun hfinite⟩

theorem SelectedModel.isFinite_of_decode {source : Reading} {m : SelectedModel}
    (hsource : source.IsFinite) (h : decode source = .ok m) :
    m.parameterCount.isFinite = true := by
  obtain ⟨id, -, displayName, -, provider, -, count, hcount, rfl⟩ := Fields.madeOf_of_record h
  refine hcount.of_isFinite hsource (fun v hv => ?_) Decode.isFinite_of_double
  cases hv
  decide

theorem ModelData.isFinite_of_decode {source : Reading} {data : ModelData}
    (hsource : source.IsFinite) (h : decode source = .ok data) :
    ∀ m ∈ data.selectedModel, m.parameterCount.isFinite = true := by
  obtain ⟨title, -, description, -, model, hmodel, isLocked, -, rfl⟩ := Fields.madeOf_of_record h
  refine hmodel.of_isFinite hsource
    (p := fun model => ∀ m ∈ model, m.parameterCount.isFinite = true) ?_ ?_
  · intro v hv
    cases hv
    nofun
  · intro part v hpart hv m hm
    cases hm
    exact SelectedModel.isFinite_of_decode hpart (Decode.of_optional_eq_some hv)

namespace NodeData

theorem takeKind_subset {found kind : Option NodeKind} {fields others : Reading.Fields}
    (h : takeKind found fields = .ok (kind, others)) : others ⊆ fields := by
  induction fields generalizing found others with
  | nil => cases h; exact List.Subset.refl _
  | cons field rest ih =>
    obtain ⟨key, value⟩ := field
    unfold takeKind at h
    split at h
    · split at h
      · cases h
      · obtain ⟨tag, -, h⟩ := bind_eq_ok_iff.mp h
        exact List.subset_cons_of_subset _ (ih h)
    · obtain ⟨⟨kind', others'⟩, hrest, h⟩ := bind_eq_ok_iff.mp h
      cases h
      exact List.cons_subset_cons _ (ih hrest)

theorem isFinite_of_decodeOfKind {kind : NodeKind} {source : Reading} {data : NodeData}
    (hsource : source.IsFinite) (h : decodeOfKind kind source = .ok data) :
    ∀ d ∈ data.doubles, d.isFinite = true := by
  cases kind with
  | dataset =>
    obtain ⟨d, -, rfl⟩ := map_eq_ok_iff.mp h
    exact nofun
  | model =>
    obtain ⟨d, hd, rfl⟩ := map_eq_ok_iff.mp h
    intro x hx
    obtain ⟨m, hm, rfl⟩ := List.mem_map.mp hx
    exact ModelData.isFinite_of_decode hsource hd m (Option.mem_toList.mp hm)
  | training =>
    obtain ⟨d, -, rfl⟩ := map_eq_ok_iff.mp h
    exact nofun

theorem isFinite_of_decode {source : Reading} {data : NodeData} (hsource : source.IsFinite)
    (h : decode source = .ok data) : ∀ d ∈ data.doubles, d.isFinite = true := by
  have of_check : ∀ {check : Bool} {next : Unit → Except DecodeError NodeData},
      (if check then do let stop ← throw .malformed; next stop else next ()) = .ok data →
        next () = .ok data := by
    intro check next h
    cases check with
    | true => cases h
    | false => exact h
  unfold decode at h
  split at h
  · rename_i fields
    obtain ⟨⟨kind, others⟩, htake, h⟩ := bind_eq_ok_iff.mp (of_check h)
    cases kind with
    | none => cases h
    | some kind =>
      have hothers : (Reading.object others true).IsFinite :=
        .object fun field hfield => hsource.fields field (takeKind_subset htake hfield)
      exact isFinite_of_decodeOfKind hothers h
  · rename_i tag items
    obtain ⟨kind, -, h⟩ := bind_eq_ok_iff.mp (of_check h)
    have hrest : (Reading.array items true).IsFinite :=
      .array (List.forall_mem_cons.mp hsource.items).2
    exact isFinite_of_decodeOfKind hrest h
  · cases h
  · cases h
  · cases h
  · cases h

end NodeData

theorem Node.isFinite_of_decode {source : Reading} {n : Node} (hsource : source.IsFinite)
    (h : decode source = .ok n) : ∀ d ∈ n.doubles, d.isFinite = true := by
  obtain ⟨id, -, position, hposition, seq, -, data, hdata, rfl⟩ := Fields.madeOf_of_record h
  have hposition : position.isFinite = true := by
    refine hposition.of_isFinite hsource (fun v hv => ?_) Position.isFinite_of_decode
    cases hv
    decide
  have hdata : ∀ d ∈ data.doubles, d.isFinite = true :=
    hdata.of_isFinite hsource nofun NodeData.isFinite_of_decode
  obtain ⟨hx, hy⟩ := Bool.and_eq_true_iff.mp hposition
  exact List.forall_mem_cons.mpr ⟨hx, List.forall_mem_cons.mpr ⟨hy, hdata⟩⟩

namespace Graph

theorem isFinite_of_decode {source : Reading} {g : Graph} (hsource : source.IsFinite)
    (h : decode source = .ok g) : ∀ d ∈ g.doubles, d.isFinite = true := by
  obtain ⟨nodes, hnodes, edges, -, rfl⟩ := Fields.madeOf_of_record h
  have hnodes : ∀ n ∈ nodes, ∀ d ∈ n.doubles, d.isFinite = true := by
    refine hnodes.of_isFinite hsource
      (p := fun nodes => ∀ n ∈ nodes, ∀ d ∈ n.doubles, d.isFinite = true) ?_ ?_
    · intro v hv
      cases hv
      nofun
    · intro part v hpart hv n hn
      obtain ⟨items, rfl, hitems⟩ := Decode.exists_of_list hv
      obtain ⟨item, hitem, hdecode⟩ := hitems n hn
      exact Node.isFinite_of_decode (hpart.items item hitem) hdecode
  intro d hd
  obtain ⟨n, hn, hd⟩ := List.mem_flatMap.mp hd
  exact hnodes n hn d hd

end Graph

/-! ## Graphs that are edited -/

/-- The doubles that the patch sets. -/
def NodePatch.doubles : NodePatch → List Double
  | .dataset _ | .training _ => []
  | .model patch => patch.selectedModel.toList.map (·.parameterCount)

/-- The doubles that the edit brings in. -/
def StoreEdit.doubles : StoreEdit → List Double
  | .addNode _ position => [position.x, position.y]
  | .updateNode _ patch => patch.doubles
  | .deleteNode _ | .connect .. | .disconnect _ => []

theorem NodePatch.mem_doubles_of_applyTo? {patch : NodePatch} {data data' : NodeData}
    (h : patch.applyTo? data = some data') :
    ∀ d ∈ data'.doubles, d ∈ data.doubles ∨ d ∈ patch.doubles := by
  unfold applyTo? at h
  split at h
  · cases h
    exact nofun
  · rename_i patch data
    split at h
    · cases h
    · cases h
      intro d hd
      simp only [NodeData.doubles, NodePatch.doubles, ModelPatch.apply] at hd ⊢
      cases hmodel : patch.selectedModel with
      | none => rw [hmodel, Option.none_or] at hd; exact .inl hd
      | some m => rw [hmodel, Option.some_or] at hd; exact .inr hd
  · cases h
    exact nofun
  · cases h

namespace Graph

variable {g : Graph} {d : Double}

theorem mem_doubles : d ∈ g.doubles ↔ ∃ n ∈ g.nodes, d ∈ n.doubles := List.mem_flatMap

theorem mem_doubles_of_setData {id : String} {data : NodeData}
    (h : d ∈ (g.setData id data).doubles) : d ∈ g.doubles ∨ d ∈ data.doubles := by
  obtain ⟨after, hafter, hd⟩ := mem_doubles.mp h
  obtain hafter | ⟨before, hbefore, -, rfl⟩ := mem_of_mem_setFirst hafter
  · exact .inl (mem_doubles.mpr ⟨after, hafter, hd⟩)
  · -- Its position stays, and its data is the new one.
    have hd : d ∈ [before.position.x, before.position.y] ++ data.doubles := hd
    rcases List.mem_append.mp hd with hd | hd
    · exact .inl (mem_doubles.mpr ⟨before, hbefore, List.mem_append_left _ hd⟩)
    · exact .inr hd

end Graph

namespace Store

/-- **The doubles after an edit** were there before, or are those of the edit. -/
theorem mem_doubles_edit (s : Store) (edit : StoreEdit) {d : Double}
    (h : d ∈ (s.edit edit).graph.doubles) : d ∈ s.graph.doubles ∨ d ∈ edit.doubles := by
  cases edit with
  | addNode kind position =>
    obtain ⟨n, hn, hd⟩ := Graph.mem_doubles.mp h
    rcases List.mem_append.mp hn with hn | hn
    · exact .inl (Graph.mem_doubles.mpr ⟨n, hn, hd⟩)
    · rw [List.mem_singleton.mp hn] at hd
      cases kind <;> exact .inr hd
  | updateNode id patch =>
    simp only [Store.edit, perform, updateNode] at h
    split at h
    · rename_i data hdata
      obtain ⟨node, hnode, hdata⟩ := Option.bind_eq_some_iff.mp hdata
      obtain ⟨hmem, -⟩ := Graph.mem_of_node?_eq_some hnode
      rcases Graph.mem_doubles_of_setData h with hd | hd
      · exact .inl hd
      · refine (NodePatch.mem_doubles_of_applyTo? hdata d hd).imp_left fun hd => ?_
        exact Graph.mem_doubles.mpr ⟨node, hmem, List.mem_cons_of_mem _ (List.mem_cons_of_mem _ hd)⟩
    · exact .inl h
  | deleteNode id =>
    simp only [Store.edit, perform, deleteNode] at h
    split at h
    · obtain ⟨n, hn, hd⟩ := Graph.mem_doubles.mp h
      exact .inl (Graph.mem_doubles.mpr ⟨n, List.mem_of_mem_eraseP hn, hd⟩)
    · exact .inl h
  | connect source target sourceHandle targetHandle =>
    simp only [Store.edit, perform, connect] at h
    split at h
    · exact .inl h
    · exact .inl h
  | disconnect reference =>
    rw [graph_edit_disconnect] at h
    exact .inl h

end Store

end FineTuning
