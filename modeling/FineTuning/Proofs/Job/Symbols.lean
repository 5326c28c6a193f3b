import FineTuning.Proofs.Graph.Integrity
import FineTuning.Proofs.Job.Plan

/-!
# Symbols of plans

The nodes of a plan go by symbols: `d1`, `d2`, .. for the datasets in their order, `b1` and `t1`.

* `symbolIds_of_isMadeOf`, `nodup_symbolIds`: which symbols a plan has; no two are the same.
* `exists_dataset_of_isMadeOf`, `nodup_nodeIds`: what goes by the symbols; no node has two.
* `symbolOf?_eq_some_iff`: where the nodes of a plan are distinct, the symbol of a node is the one
  that the plan gives it.
* `planEdge?_eq_some_iff`: the edges of a plan lead between the symbols of their ends.
-/

namespace FineTuning

/-- In a table without repeated keys, what is found under a key is what the table has there. -/
theorem map_find?_key_eq_some_iff {entries : List (String × String)}
    (h : (entries.map (·.1)).Nodup) {key value : String} :
    (entries.find? (·.1 == key)).map (·.2) = some value ↔ (key, value) ∈ entries := by
  rw [Option.map_eq_some_iff]
  constructor
  · rintro ⟨⟨key', value'⟩, hfound, rfl⟩
    obtain rfl : key' = key := by simpa using List.find?_some hfound
    exact List.mem_of_find?_eq_some hfound
  · intro hmem
    obtain ⟨entry, hfound⟩ : ∃ entry, entries.find? (·.1 == key) = some entry := by
      rw [← Option.isSome_iff_exists, List.find?_isSome]
      exact ⟨_, hmem, beq_self_eq_true key⟩
    have hkey : entry.1 = key := by simpa using List.find?_some hfound
    have hentry : entry = (key, value) :=
      List.inj_on_of_nodup_map h (List.mem_of_find?_eq_some hfound) hmem hkey
    exact ⟨entry, hfound, by rw [hentry]⟩

namespace Plan

/-! ## The symbols -/

/-- Datasets are told apart by their symbols. -/
theorem datasetSymbol_injective {i j : Nat} (h : datasetSymbol i = datasetSymbol j) : i = j := by
  simp only [datasetSymbol, toString] at h
  have hrepr := Text.Numeral.repr_inj ((String.append_right_inj _).mp h)
  omega

theorem head?_datasetSymbol (i : Nat) : (datasetSymbol i).toList.head? = some 'd' := by
  simp [datasetSymbol, toString]

theorem datasetSymbol_ne_modelSymbol (i : Nat) : datasetSymbol i ≠ modelSymbol := by
  intro h
  have hhead := head?_datasetSymbol i
  rw [h] at hhead
  cases hhead

theorem datasetSymbol_ne_trainingSymbol (i : Nat) : datasetSymbol i ≠ trainingSymbol := by
  intro h
  have hhead := head?_datasetSymbol i
  rw [h] at hhead
  cases hhead

/-- The symbols of the first `count` datasets, of the model and of the training node. -/
def allSymbols (count : Nat) : List String :=
  (List.range count).map datasetSymbol ++ [modelSymbol, trainingSymbol]

/-- No two of the symbols are the same. -/
theorem nodup_allSymbols (count : Nat) : (allSymbols count).Nodup := by
  refine List.nodup_append.mpr ⟨?_, by decide, ?_⟩
  · exact List.Nodup.map (fun i j => datasetSymbol_injective) List.nodup_range
  · rintro _ hdataset symbol hsymbol rfl
    obtain ⟨i, -, rfl⟩ := List.mem_map.mp hdataset
    rcases List.mem_pair.mp hsymbol with h | h
    · exact datasetSymbol_ne_modelSymbol i h
    · exact datasetSymbol_ne_trainingSymbol i h

/-! ## Numbering -/

theorem getElem?_numberDatasets (index : Nat) (found : List (String × String)) (i : Nat) :
    (numberDatasets index found)[i]? =
      found[i]?.map fun entry => ⟨datasetSymbol (index + i), entry.1, entry.2⟩ := by
  induction found generalizing index i with
  | nil => rfl
  | cons entry rest ih =>
    cases i with
    | zero => rfl
    | succ i =>
      rw [numberDatasets, List.getElem?_cons_succ, ih, List.getElem?_cons_succ,
        Nat.add_right_comm, Nat.add_assoc]

@[simp] theorem length_numberDatasets (index : Nat) (found : List (String × String)) :
    (numberDatasets index found).length = found.length := by
  induction found generalizing index with
  | nil => rfl
  | cons entry rest ih => rw [numberDatasets, List.length_cons, ih, List.length_cons]

theorem map_nodeId_numberDatasets (index : Nat) (found : List (String × String)) :
    (numberDatasets index found).map (·.nodeId) = found.map (·.1) := by
  induction found generalizing index with
  | nil => rfl
  | cons entry rest ih => rw [numberDatasets, List.map_cons, ih, List.map_cons]

/-- Datasets are numbered in their order, beginning with the first. -/
theorem map_symbol_numberDatasets (found : List (String × String)) :
    (numberDatasets 0 found).map (·.symbol) = (List.range found.length).map datasetSymbol := by
  refine List.ext_getElem? fun i => ?_
  rw [List.getElem?_map, getElem?_numberDatasets, List.getElem?_map, Option.map_map, Nat.zero_add]
  by_cases h : i < found.length
  · rw [List.getElem?_eq_getElem h, List.getElem?_range h]
    rfl
  · rw [List.getElem?_eq_none (by omega), List.getElem?_eq_none (by simpa using h)]
    rfl

/-! ## Symbols and nodes -/

/-- The nodes of the plan: the datasets, the model and the training node. -/
def nodeIds (plan : Plan) : List String :=
  (symbols plan.datasets plan.model plan.training).map (·.1)

variable {plan : Plan} {g : Graph} {report : TopologyReport} {storagePrefix id symbol : String}

theorem nodeIds_eq (plan : Plan) :
    plan.nodeIds = plan.datasets.map (·.nodeId) ++ [plan.model.nodeId, plan.training.nodeId] := by
  simp [nodeIds, symbols, Function.comp_def]

theorem model_symbol_of_isMadeOf (h : plan.IsMadeOf g report storagePrefix) :
    plan.model.symbol = modelSymbol := by
  obtain ⟨_, _, _, -, -, -, -, hplanned⟩ := of_planModel_eq_ok h.model
  rw [hplanned]

theorem training_symbol_of_isMadeOf (h : plan.IsMadeOf g report storagePrefix) :
    plan.training.symbol = trainingSymbol := by
  obtain ⟨_, _, _, _, -, -, -, -, -, hplanned⟩ := of_planTraining_eq_ok h.training
  rw [hplanned]

/-- The symbols of a plan are those for its number of datasets. -/
theorem symbolIds_of_isMadeOf (h : plan.IsMadeOf g report storagePrefix) :
    plan.symbolIds = allSymbols plan.datasets.length := by
  have hdatasets : plan.datasets.map (·.symbol) =
      (List.range plan.datasets.length).map datasetSymbol := by
    rw [h.datasets, plannedDatasets, map_symbol_numberDatasets, length_numberDatasets]
  rw [allSymbols, ← hdatasets, ← model_symbol_of_isMadeOf h, ← training_symbol_of_isMadeOf h]
  simp [symbolIds, symbols, Function.comp_def]

/-- No two nodes of a plan go by the same symbol. -/
theorem nodup_symbolIds (h : plan.IsMadeOf g report storagePrefix) : plan.symbolIds.Nodup := by
  rw [symbolIds_of_isMadeOf h]
  exact nodup_allSymbols _

/-- A dataset of the plan goes by its number and is one of the graph with content. -/
theorem exists_dataset_of_isMadeOf (h : plan.IsMadeOf g report storagePrefix) {i : Nat}
    {planned : PlannedDataset} (hplanned : plan.datasets[i]? = some planned) :
    planned.symbol = datasetSymbol i ∧ ∃ node data reference,
      g.node? planned.nodeId = some node ∧ node.data = .dataset data ∧
        data.contentReference? = some reference ∧ planned.uri = uriOf storagePrefix reference := by
  rw [h.datasets, plannedDatasets, getElem?_numberDatasets, Option.map_eq_some_iff] at hplanned
  obtain ⟨entry, hentry, rfl⟩ := hplanned
  obtain ⟨finding, hfinding, husable⟩ := List.mem_filterMap.mp (List.mem_of_getElem? hentry)
  obtain ⟨id, -, rfl⟩ := List.mem_map.mp hfinding
  obtain ⟨node, data, reference, hnode, hdata, hreference, rfl⟩ := of_usable?_findDataset husable
  exact ⟨by rw [Nat.zero_add], node, data, reference, hnode, hdata, hreference, rfl⟩

/-- The datasets of the plan are those of the report that are used, in the same order. -/
theorem map_nodeId_plannedDatasets (g : Graph) (report : TopologyReport) (storagePrefix : String) :
    (plannedDatasets g report storagePrefix).map (·.nodeId) =
      report.datasets.filter fun id => (findDataset g storagePrefix id).usable?.isSome := by
  rw [plannedDatasets, map_nodeId_numberDatasets, List.filterMap_map, List.map_filterMap,
    ← List.filterMap_eq_filter]
  refine List.filterMap_congr fun id _ => ?_
  simp only [Function.comp_apply, Option.guard]
  split
  · rename_i husable
    obtain ⟨found, hfound⟩ := Option.isSome_iff_exists.mp husable
    obtain ⟨_, _, _, -, -, -, rfl⟩ := of_usable?_findDataset hfound
    rw [hfound]
    rfl
  · rename_i hunused
    rw [Option.not_isSome_iff_eq_none.mp hunused]
    rfl

theorem kindOf?_dataset_of_isMadeOf (h : plan.IsMadeOf g report storagePrefix)
    (hid : id ∈ plan.datasets.map (·.nodeId)) : g.kindOf? id = some .dataset := by
  obtain ⟨planned, hplanned, rfl⟩ := List.mem_map.mp hid
  obtain ⟨i, hi⟩ := List.mem_iff_getElem?.mp hplanned
  obtain ⟨-, node, data, _, hnode, hdata, -⟩ := exists_dataset_of_isMadeOf h hi
  rw [Graph.kindOf?, hnode, Option.map_some, Node.kind, hdata, NodeData.kind]

theorem kindOf?_model_of_isMadeOf (h : plan.IsMadeOf g report storagePrefix) :
    g.kindOf? plan.model.nodeId = some .model := by
  obtain ⟨node, data, _, hnode, hdata, -, -, hplanned⟩ := of_planModel_eq_ok h.model
  rw [hplanned, Graph.kindOf?_of_node?_eq_some hnode, Node.kind, hdata, NodeData.kind]

theorem kindOf?_training_of_isMadeOf (h : plan.IsMadeOf g report storagePrefix) :
    g.kindOf? plan.training.nodeId = some .training := by
  obtain ⟨node, data, _, _, hnode, hdata, -, -, -, hplanned⟩ := of_planTraining_eq_ok h.training
  rw [hplanned, Graph.kindOf?_of_node?_eq_some hnode, Node.kind, hdata, NodeData.kind]

theorem model_nodeId_of_isMadeOf (h : plan.IsMadeOf g report storagePrefix) :
    plan.model.nodeId = report.model.getD "" := by
  obtain ⟨node, _, _, hnode, -, -, -, hplanned⟩ := of_planModel_eq_ok h.model
  rw [hplanned, (Graph.mem_of_node?_eq_some hnode).2]

theorem training_nodeId_of_isMadeOf (h : plan.IsMadeOf g report storagePrefix) :
    plan.training.nodeId = report.training.getD "" := by
  obtain ⟨node, _, _, _, hnode, -, -, -, -, hplanned⟩ := of_planTraining_eq_ok h.training
  rw [hplanned, (Graph.mem_of_node?_eq_some hnode).2]

/-- The nodes of a plan are named by the report. -/
theorem nodeIds_subset_report (h : plan.IsMadeOf g report storagePrefix) :
    plan.nodeIds ⊆ report.datasets ++ [report.model.getD "", report.training.getD ""] := by
  rw [nodeIds_eq, model_nodeId_of_isMadeOf h, training_nodeId_of_isMadeOf h, h.datasets,
    map_nodeId_plannedDatasets]
  intro id hid
  rw [List.mem_append] at hid ⊢
  exact hid.imp_left List.mem_of_mem_filter

/-- The nodes of a plan are nodes of the graph. -/
theorem nodeIds_subset_of_isMadeOf (h : plan.IsMadeOf g report storagePrefix) :
    plan.nodeIds ⊆ g.nodeIds := by
  intro id hid
  rw [nodeIds_eq, List.mem_append, List.mem_pair] at hid
  obtain hid | rfl | rfl := hid
  · exact Graph.mem_nodeIds_of_kindOf? (kindOf?_dataset_of_isMadeOf h hid)
  · exact Graph.mem_nodeIds_of_kindOf? (kindOf?_model_of_isMadeOf h)
  · exact Graph.mem_nodeIds_of_kindOf? (kindOf?_training_of_isMadeOf h)

/-- The nodes of a plan are distinct: the datasets are those of the report, and the model and the
training node are of other kinds. -/
theorem nodup_nodeIds (h : plan.IsMadeOf g report storagePrefix)
    (hreport : report.datasets.Nodup) : plan.nodeIds.Nodup := by
  have hmodel := kindOf?_model_of_isMadeOf h
  have htraining := kindOf?_training_of_isMadeOf h
  have hne : plan.model.nodeId ≠ plan.training.nodeId := fun heq => by
    rw [heq, htraining] at hmodel
    cases hmodel
  rw [nodeIds_eq, List.nodup_append]
  refine ⟨?_, by simpa using hne, ?_⟩
  · rw [h.datasets, map_nodeId_plannedDatasets]
    exact hreport.filter _
  · rintro _ hid other hother rfl
    have hdataset := kindOf?_dataset_of_isMadeOf h hid
    rcases List.mem_pair.mp hother with heq | heq
    · rw [heq, hmodel] at hdataset
      cases hdataset
    · rw [heq, htraining] at hdataset
      cases hdataset

section Distinct

variable (hids : plan.nodeIds.Nodup)
include hids

/-- The symbol of a node is the one that the plan gives it. -/
theorem symbolOf?_eq_some_iff : plan.symbolOf? id = some symbol ↔
    (id, symbol) ∈ symbols plan.datasets plan.model plan.training :=
  map_find?_key_eq_some_iff hids

/-- Looking from the end for the symbol of a node finds the same one. -/
theorem lastSymbol?_eq (id : String) :
    lastSymbol? (symbols plan.datasets plan.model plan.training) id = plan.symbolOf? id := by
  refine Option.ext fun symbol => ?_
  have hreverse : ((symbols plan.datasets plan.model plan.training).reverse.map (·.1)).Nodup := by
    rw [List.map_reverse, List.nodup_reverse]
    exact hids
  rw [symbolOf?_eq_some_iff hids, lastSymbol?, map_find?_key_eq_some_iff hreverse,
    List.mem_reverse]

/-- The nodes of the plan are the ones with a symbol. -/
theorem isSome_symbolOf?_iff : (plan.symbolOf? id).isSome = true ↔ id ∈ plan.nodeIds := by
  rw [Option.isSome_iff_exists, nodeIds, List.mem_map]
  constructor
  · rintro ⟨symbol, h⟩
    exact ⟨_, (symbolOf?_eq_some_iff hids).mp h, rfl⟩
  · rintro ⟨⟨_, symbol⟩, hmem, rfl⟩
    exact ⟨symbol, (symbolOf?_eq_some_iff hids).mpr hmem⟩

/-- An edge of the plan leads between the symbols of the ends of an edge of the graph. -/
theorem planEdge?_eq_some_iff {e : Edge} {planned : PlannedEdge} :
    planEdge? (symbols plan.datasets plan.model plan.training) e = some planned ↔
      plan.symbolOf? e.source = some planned.source ∧
        plan.symbolOf? e.target = some planned.target := by
  simp only [planEdge?, lastSymbol?_eq hids, Option.bind_eq_bind, Option.bind_eq_some_iff]
  constructor
  · rintro ⟨source, hsource, target, htarget, ⟨⟩⟩
    exact ⟨hsource, htarget⟩
  · rintro ⟨hsource, htarget⟩
    exact ⟨_, hsource, _, htarget, rfl⟩

/-- Different nodes of a plan go by different symbols. -/
theorem symbolOf?_injective (h : plan.IsMadeOf g report storagePrefix) {id' : String}
    (hid : plan.symbolOf? id = some symbol) (hid' : plan.symbolOf? id' = some symbol) :
    id = id' := by
  rw [symbolOf?_eq_some_iff hids] at hid hid'
  exact congrArg Prod.fst (List.inj_on_of_nodup_map (nodup_symbolIds h) hid hid' rfl)

end Distinct

end Plan

end FineTuning
