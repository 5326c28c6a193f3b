import FineTuning.Proofs.Job.Described
import FineTuning.Proofs.Job.Outcome

/-!
# Which plans can be described

A plan need not come from a graph: its symbols may be repeated, a dataset may be called like a
model, and an edge may lead anywhere. Whether such a plan can be described is decided by its
context, its batch size and the symbols of its edges alone, although the edges are checked against
the nodes of the description, where a node replaces an earlier one with its symbol.

* `Plan.isDescribable_iff`: what a description needs, as the lack of faults.
* `JobDescription.ofPlan_eq_error_iff`: the errors are about the context and the batch size, or else
  about edges.
* `JobDescription.isOf_of_ofPlan`: what every description says of its plan.
* `JobDescription.ofPlan_decides`: which plans are described, and how.
-/

namespace FineTuning

namespace Plan

variable {plan : Plan} {context : JobContext}

/-- The plan and its context have all that a description needs. -/
structure IsDescribable (plan : Plan) (context : JobContext) : Prop where
  context : ∀ field ∈ context.fields, Text.isBlankText field.2 = false
  batchSize : Text.Numeral.IsUInt32 (Text.trim plan.training.batchSize)
  edges : ∀ e ∈ plan.edges, e.source ∈ plan.symbolIds ∧ e.target ∈ plan.symbolIds

/-- The blank fields of the context, and then the batch size if it is no number. -/
def fieldFaults (plan : Plan) (context : JobContext) : List CompileError :=
  context.emptyFields ++ faultUnless (Text.Numeral.IsUInt32 (Text.trim plan.training.batchSize))
    (.invalidBatchSize plan.training.nodeId plan.training.batchSize)

/-- One error for each edge with an end that is no symbol of the plan. -/
def edgeFaults (plan : Plan) : List CompileError :=
  plan.looseEdges.map fun e => .danglingEdge e.source e.target

theorem faults_eq_fieldFaults (plan : Plan) (context : JobContext) :
    JobDescription.faults plan context = plan.fieldFaults context := by
  rw [JobDescription.faults, fieldFaults, toList_batchSizeFault?, context.blankFields_eq]

theorem edgeFaults_eq_nil_iff : plan.edgeFaults = [] ↔ plan.looseEdges = [] := List.map_eq_nil_iff

/-- A plan can be described just when it has no faults. -/
theorem isDescribable_iff :
    plan.IsDescribable context ↔ plan.fieldFaults context = [] ∧ plan.edgeFaults = [] := by
  rw [fieldFaults, List.append_eq_nil_iff, ← context.blankFields_eq,
    JobContext.blankFields_eq_nil_iff, faultUnless_eq_nil_iff, edgeFaults_eq_nil_iff,
    looseEdges_eq_nil_iff]
  constructor
  · exact fun h => ⟨⟨h.context, h.batchSize⟩, h.edges⟩
  · exact fun ⟨⟨hfields, hbatch⟩, hedges⟩ => ⟨hfields, hbatch, hedges⟩

end Plan

namespace JobDescription

variable {plan : Plan} {context : JobContext}

/-- The description is that of the plan in the context, with this number for the batch size. Where
the symbols of the plan are distinct, no node is lost. -/
structure IsOf (description : JobDescription) (plan : Plan) (context : JobContext)
    (batchSize : UInt32) : Prop where
  trainingId : description.trainingId = context.trainingId
  projectName : description.projectName = context.projectName
  createdBy : description.schema.createdBy = context.createdBy
  edges : description.schema.edges = plan.edges
  nodes : plan.symbolIds.Nodup → description.schema.nodes.entries =
    plan.datasets.map (fun d => ⟨d.symbol, .dataset, { uris := some [d.uri] }⟩) ++
      [⟨plan.model.symbol, .baseModel, { modelId := some plan.model.modelId }⟩,
        ⟨plan.training.symbol, .train, {
          epochs := some plan.training.epochs
          batchSize := some batchSize
          trainQuant := some plan.training.trainQuant
          downloadQuant := some plan.training.downloadQuant }⟩]

/-- A plan without faults is described. -/
theorem exists_ofPlan (h : plan.IsDescribable context) :
    ∃ description, ofPlan plan context = .ok description := by
  obtain ⟨hfields, hedges⟩ := Plan.isDescribable_iff.mp h
  rw [← Plan.faults_eq_fieldFaults] at hfields
  obtain ⟨hblank, batchSize, hbatch⟩ := faults_eq_nil_iff.mp hfields
  exact ⟨_, ofPlan_eq_ok hblank hbatch (Plan.edgeFaults_eq_nil_iff.mp hedges)⟩

/-- **The errors** are about the context and the batch size, or else about the edges. -/
theorem ofPlan_eq_error_iff {errors : List CompileError} :
    ofPlan plan context = .error ⟨errors⟩ ↔
      errors ≠ [] ∧ (errors = plan.fieldFaults context ∨
        plan.fieldFaults context = [] ∧ errors = plan.edgeFaults) := by
  have hfaults := plan.faults_eq_fieldFaults context
  by_cases hfields : plan.fieldFaults context = []
  · by_cases hedges : plan.edgeFaults = []
    · obtain ⟨description, hok⟩ := exists_ofPlan (Plan.isDescribable_iff.mpr ⟨hfields, hedges⟩)
      simp [hok, hfields, hedges]
    · have herror : ofPlan plan context = .error ⟨plan.edgeFaults⟩ :=
        ofPlan_of_looseEdges (hfaults.trans hfields) (mt Plan.edgeFaults_eq_nil_iff.mpr hedges)
      rw [herror, Except.error.injEq, CompileFailure.mk.injEq, hfields]
      constructor
      · rintro rfl
        exact ⟨hedges, .inr ⟨rfl, rfl⟩⟩
      · rintro ⟨hne, rfl | ⟨-, rfl⟩⟩
        · exact absurd rfl hne
        · rfl
  · have herror : ofPlan plan context = .error ⟨plan.fieldFaults context⟩ := by
      rw [← hfaults] at hfields ⊢
      exact ofPlan_of_faults hfields
    rw [herror, Except.error.injEq, CompileFailure.mk.injEq]
    constructor
    · rintro rfl
      exact ⟨hfields, .inl rfl⟩
    · rintro ⟨-, rfl | ⟨hnil, -⟩⟩
      · rfl
      · exact absurd hnil hfields

/-- What a description says of its plan. -/
theorem isOf_of_ofPlan {description : JobDescription}
    (h : ofPlan plan context = .ok description) :
    ∃ batchSize : UInt32,
      Text.Numeral.IsNumeralOf (Text.trim plan.training.batchSize) batchSize.toNat ∧
        description.IsOf plan context batchSize := by
  obtain ⟨batchSize, hbatch, rfl⟩ := of_ofPlan_eq_ok h
  exact ⟨batchSize, Text.Numeral.isNumeralOf_of_uint32? hbatch, rfl, rfl, rfl, rfl,
    fun hids => entries_assemble hids context batchSize⟩

/-- **Which plans can be described.** Whatever its symbols and edges, a plan is described in a
context just when no field of the context is blank, the batch size is a number of 32 bits with
blanks around it or not, and both ends of every edge are symbols of the plan. If it is not, the
errors are those about the fields of the context and then about the batch size, or if there are none
of these, one for each edge with an end that is no symbol, in the order of the edges. A description
has the edges of the plan, and if the symbols are distinct, it lists the datasets in order, the
model and the training node, each with what the plan says of it and nothing else. -/
theorem ofPlan_decides (plan : Plan) (context : JobContext) :
    ((∃ description, ofPlan plan context = .ok description) ↔ plan.IsDescribable context) ∧
      (∀ errors, ofPlan plan context = .error ⟨errors⟩ ↔
        errors ≠ [] ∧ (errors = plan.fieldFaults context ∨
          plan.fieldFaults context = [] ∧ errors = plan.edgeFaults)) ∧
      ∀ description, ofPlan plan context = .ok description →
        ∃ batchSize : UInt32,
          Text.Numeral.IsNumeralOf (Text.trim plan.training.batchSize) batchSize.toNat ∧
            description.IsOf plan context batchSize := by
  refine ⟨⟨?_, exists_ofPlan⟩, fun errors => ofPlan_eq_error_iff, fun _ => isOf_of_ofPlan⟩
  rintro ⟨description, hok⟩
  by_contra hfaulty
  -- A plan that has faults is refused with them.
  have hrefused : ∃ errors, ofPlan plan context = .error ⟨errors⟩ := by
    by_cases hfields : plan.fieldFaults context = []
    · have hedges : plan.edgeFaults ≠ [] :=
        fun hedges => hfaulty (Plan.isDescribable_iff.mpr ⟨hfields, hedges⟩)
      exact ⟨_, ofPlan_eq_error_iff.mpr ⟨hedges, .inr ⟨hfields, rfl⟩⟩⟩
    · exact ⟨_, ofPlan_eq_error_iff.mpr ⟨hfields, .inl rfl⟩⟩
  obtain ⟨errors, herror⟩ := hrefused
  rw [hok] at herror
  cases herror

/-- The datasets are called like a model and a training node, and the others like datasets; an edge
is there twice and one leads back to where it begins. Of two loose edges both are named. -/
theorem ofPlan_decides_renamed :
    let plan : Plan := {
      datasets := [⟨"t1", "x", "s3://a"⟩, ⟨"b1", "x", "s3://b"⟩]
      model := ⟨"d1", "m", "base"⟩
      training := ⟨"d2", "t", 3, " +07 ", .int4, .int8⟩
      edges := [⟨"b1", "d1"⟩, ⟨"d2", "d2"⟩, ⟨"b1", "d1"⟩] }
    let loose : Plan := { plan with edges := [⟨"b1", "x"⟩, ⟨"b1", "d1"⟩, ⟨"y", "y"⟩] }
    let context : JobContext := ⟨"job", "project", "me"⟩
    plan.symbolIds.Nodup ∧
      (∃ description, ofPlan plan context = .ok description ∧
        description.schema.edges = plan.edges ∧ description.schema.nodes.entries = [
          ⟨"t1", .dataset, { uris := some ["s3://a"] }⟩,
          ⟨"b1", .dataset, { uris := some ["s3://b"] }⟩,
          ⟨"d1", .baseModel, { modelId := some "base" }⟩,
          ⟨"d2", .train, {
            epochs := some 3, batchSize := some 7
            trainQuant := some .int4, downloadQuant := some .int8 }⟩]) ∧
      ofPlan loose context = .error ⟨[.danglingEdge "b1" "x", .danglingEdge "y" "y"]⟩ := by
  intro plan loose context
  have hids : plan.symbolIds.Nodup := by decide
  obtain ⟨hdescribable, -, hdescribed⟩ := ofPlan_decides plan context
  obtain ⟨description, hok⟩ := hdescribable.mpr ⟨by decide, by decide, by decide⟩
  obtain ⟨batchSize, hvalue, hof⟩ := hdescribed description hok
  have hseven : batchSize = 7 := by
    have hnumeral : Text.Numeral.IsNumeralOf (Text.trim plan.training.batchSize) 7 :=
      Text.Numeral.int?_eq_some_iff.mp (by decide)
    exact UInt32.toNat_inj.mp (Int.ofNat_inj.mp (hvalue.unique hnumeral))
  subst hseven
  refine ⟨hids, ⟨description, hok, hof.edges, hof.nodes hids⟩, ?_⟩
  exact ((ofPlan_decides loose context).2.1 _).mpr ⟨by decide, .inr ⟨by decide, by decide⟩⟩

end JobDescription

end FineTuning
