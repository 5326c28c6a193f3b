import FineTuning.Assistant.Engine
import FineTuning.Proofs.Catalog.Resolve
import FineTuning.Proofs.Except

/-!
# Patches that assistants write

An update of an assistant goes through two checks before it becomes a patch of the store. What
comes out sets few fields, and only on a node that is not locked.

* `NodePatch.isWritable_of_ofProperties`: a patch sets no fields but those that assistants may
  write, whatever properties it is made of.
* `Engine.resolveUpdate_eq_ok_iff`: an update is resolved to a node that is there and not locked.
* `Engine.isFinite_of_resolveAddition`: a node is added only at a finite position.
-/

namespace FineTuning

/-! ## Patches -/

/-- The patches that assistants write on nodes of a kind. Of the fields of a node they set the
settings of a training, the chosen model, which is one of the catalog, and the status and tab of a
dataset. -/
inductive NodePatch.IsWritable (catalog : Catalog) : NodeKind → NodePatch → Prop
  | dataset (status : Option DatasetStatus) (activeTab : Option String) :
    IsWritable catalog .dataset (.dataset { status, activeTab })
  | model (selectedModel : Option SelectedModel)
      (hselected : ∀ m ∈ selectedModel, ∃ entry ∈ catalog.entries, m = entry.toSelectedModel) :
    IsWritable catalog .model (.model { selectedModel })
  | training (epochs : Option UInt32) (batchSize quantization downloadQuant : Option String) :
    IsWritable catalog .training (.training { epochs, batchSize, quantization, downloadQuant })

theorem exists_of_checkOptional {α β : Type} {check : α → Except ToolError β} {given : Option α}
    {checked : Option β} (h : checkOptional check given = .ok checked) :
    ∀ b ∈ checked, ∃ a ∈ given, check a = .ok b := by
  cases given with
  | none => cases h; exact nofun
  | some a =>
    obtain ⟨b, hb, rfl⟩ := map_eq_ok_iff.mp h
    intro b' hb'
    cases hb'
    exact ⟨a, rfl, hb⟩

namespace NodePatch

variable {kind : NodeKind} {properties : List (String × Json)} {catalog : Catalog}
  {patch : NodePatch}

theorem isWritable_of_ofAnyProperties (h : ofAnyProperties kind properties catalog = .ok patch) :
    patch.IsWritable catalog kind := by
  cases kind with
  | dataset =>
    obtain ⟨patch, hpatch, rfl⟩ := map_eq_ok_iff.mp h
    obtain ⟨given, -, h⟩ := bind_eq_ok_iff.mp hpatch
    obtain ⟨status, -, h⟩ := bind_eq_ok_iff.mp h
    cases h
    exact .dataset status given.activeTab
  | model =>
    obtain ⟨patch, hpatch, rfl⟩ := map_eq_ok_iff.mp h
    obtain ⟨given, -, h⟩ := bind_eq_ok_iff.mp hpatch
    obtain ⟨selectedModel, hselected, h⟩ := bind_eq_ok_iff.mp h
    cases h
    refine .model selectedModel fun m hm => ?_
    obtain ⟨name, -, hname⟩ := exists_of_checkOptional hselected m hm
    unfold checkModel at hname
    split at hname
    · rename_i entry hentry
      cases hname
      exact ⟨entry, Catalog.mem_of_resolve hentry, rfl⟩
    · cases hname
  | training =>
    obtain ⟨patch, hpatch, rfl⟩ := map_eq_ok_iff.mp h
    obtain ⟨given, -, h⟩ := bind_eq_ok_iff.mp hpatch
    obtain ⟨epochs, -, h⟩ := bind_eq_ok_iff.mp h
    obtain ⟨batchSize, -, h⟩ := bind_eq_ok_iff.mp h
    obtain ⟨quantization, -, h⟩ := bind_eq_ok_iff.mp h
    obtain ⟨downloadQuant, -, h⟩ := bind_eq_ok_iff.mp h
    cases h
    exact .training epochs batchSize quantization downloadQuant

/-- The patch of an update sets something. -/
theorem of_ofProperties_eq_ok (h : ofProperties kind properties catalog = .ok patch) :
    ofAnyProperties kind properties catalog = .ok patch ∧ patch.isEmpty = false := by
  obtain ⟨made, hmade, h⟩ := bind_eq_ok_iff.mp h
  dsimp only at h
  split at h
  · cases h
  · rename_i hempty
    cases h
    exact ⟨hmade, Bool.eq_false_iff.mpr hempty⟩

/-- **A patch sets no other fields,** whatever properties it is made of. -/
theorem isWritable_of_ofProperties (h : ofProperties kind properties catalog = .ok patch) :
    patch.IsWritable catalog kind :=
  isWritable_of_ofAnyProperties (of_ofProperties_eq_ok h).1

end NodePatch

/-! ## Requests -/

namespace Engine

variable {engine : Engine} {g : Graph} {created : List String}

/-- An update is resolved just when it refers to a node of the kind that it names, which is not
locked, and its properties make a patch for nodes of this kind. -/
theorem resolveUpdate_eq_ok_iff {request : UpdateRequest} {id : String} {patch : NodePatch} :
    engine.resolveUpdate g created request = .ok (id, patch) ↔
      resolveNode g created request.nodeId = .ok id ∧
        ∃ node, g.node? id = some node ∧ resolveKind request.kind = .ok node.kind ∧
          node.isLocked = false ∧
          NodePatch.ofProperties node.kind request.properties engine.catalog = .ok patch := by
  constructor
  · intro h
    obtain ⟨resolved, hresolved, h⟩ := bind_eq_ok_iff.mp h
    obtain ⟨requested, hrequested, h⟩ := bind_eq_ok_iff.mp h
    split at h
    · cases h
    · rename_i node hnode
      dsimp only at h
      split at h
      · cases h
      · rename_i hkind
        split at h
        · cases h
        · rename_i hlocked
          obtain ⟨made, hmade, h⟩ := bind_eq_ok_iff.mp h
          cases h
          obtain rfl := Decidable.not_not.mp hkind
          exact ⟨hresolved, node, hnode, hrequested, Bool.eq_false_iff.mpr hlocked, hmade⟩
  · rintro ⟨hid, node, hnode, hkind, hopen, hpatch⟩
    refine bind_eq_ok_iff.mpr ⟨id, hid, bind_eq_ok_iff.mpr ⟨node.kind, hkind, ?_⟩⟩
    simp only [hnode, ne_eq, not_true_eq_false, hopen, Bool.false_eq_true, ↓reduceIte, hpatch]
    rfl

/-- An update is resolved to the node that it refers to, which is not locked, and to the patch that
its properties make for a node of this kind. -/
theorem of_resolveUpdate_eq_ok {request : UpdateRequest} {id : String} {patch : NodePatch}
    (h : engine.resolveUpdate g created request = .ok (id, patch)) :
    resolveNode g created request.nodeId = .ok id ∧
      ∃ node, g.node? id = some node ∧ node.isLocked = false ∧
        NodePatch.ofProperties node.kind request.properties engine.catalog = .ok patch := by
  obtain ⟨hid, node, hnode, -, hopen, hpatch⟩ := resolveUpdate_eq_ok_iff.mp h
  exact ⟨hid, node, hnode, hopen, hpatch⟩

/-- An update is resolved to a node that is there and not locked, and to a patch for it. -/
theorem exists_of_resolveUpdate {request : UpdateRequest} {id : String} {patch : NodePatch}
    (h : engine.resolveUpdate g created request = .ok (id, patch)) :
    ∃ node, g.node? id = some node ∧ node.isLocked = false ∧
      patch.IsWritable engine.catalog node.kind := by
  obtain ⟨-, node, hnode, hopen, hpatch⟩ := of_resolveUpdate_eq_ok h
  exact ⟨node, hnode, hopen, NodePatch.isWritable_of_ofProperties hpatch⟩

/-- A node is added only at a finite position. -/
theorem isFinite_of_resolveAddition {request : AddNodeRequest} {kind : NodeKind}
    (h : engine.resolveAddition g request = .ok kind) : request.position.isFinite = true := by
  obtain ⟨requested, -, h⟩ := bind_eq_ok_iff.mp h
  dsimp only at h
  split at h
  · cases h
  · rename_i hfinite
    simpa using hfinite

end Engine

end FineTuning
