import FineTuning.Proofs.Job.Outcome

/-!
# Errors about settings

Compilation refuses the settings of a training node that are out of range or not understood. If the
settings of all training nodes are sound, it has nothing to say about them, whatever else is wrong
with the graph, which need not even have integrity.

* `Graph.HasSoundSettings`: the settings of all training nodes are those of a job.
* `Graph.not_isAboutSettings_of_compile_eq_error`: then no error is about settings.
-/

namespace FineTuning

/-- The error is about the epochs, the batch size or a quantization of a training node. -/
def CompileError.IsAboutSettings : CompileError → Prop
  | .invalidEpochs _ _ | .invalidBatchSize _ _ | .invalidQuantization _ _ _ => True
  | _ => False

/-- If the data is that of a training node, its settings are those of a job. -/
def NodeData.HasSoundSettings (data : NodeData) : Prop :=
  ∀ training, data = .training training → training.IsSound

/-- The settings of all training nodes are those of a job. -/
def Graph.HasSoundSettings (g : Graph) : Prop :=
  ∀ node ∈ g.nodes, node.data.HasSoundSettings

namespace Plan

variable {g : Graph} {report : TopologyReport} {storagePrefix id : String} {error : CompileError}

theorem eq_of_requireNode_eq_error (h : requireNode g id = .error error) :
    error = .nodeMissing id := by
  unfold requireNode at h
  split at h <;> cases h
  rfl

theorem not_isAboutSettings_findDataset
    (h : (findDataset g storagePrefix id).error? = some error) : ¬error.IsAboutSettings := by
  unfold findDataset at h
  split at h
  · rename_i missing hmissing
    cases h
    rw [eq_of_requireNode_eq_error hmissing]
    exact not_false
  · split at h
    · split at h <;> cases h
    · cases h
      exact not_false

theorem not_isAboutSettings_planModel (h : planModel g id = .error error) :
    ¬error.IsAboutSettings := by
  rcases bind_eq_error_iff.mp h with hmissing | ⟨node, -, h⟩
  · rw [eq_of_requireNode_eq_error hmissing]
    exact not_false
  · split at h
    · split at h <;> cases h
      exact not_false
    · cases h
      exact not_false

theorem not_isAboutSettings_planTraining {errors : List CompileError} (hg : g.HasSoundSettings)
    (h : planTraining g id = .error errors) : ∀ error ∈ errors, ¬error.IsAboutSettings := by
  unfold planTraining at h
  split at h
  · rename_i missing hmissing
    cases h
    rw [eq_of_requireNode_eq_error hmissing, List.forall_mem_singleton]
    exact not_false
  · rename_i node hnode
    split at h
    · rename_i training htraining
      split at h
      · cases h
      · -- The settings are sound, so the list of what is wrong with them is empty.
        cases h
        have hmem := (Graph.mem_of_node?_eq_some (requireNode_eq_ok_iff.mp hnode)).1
        rw [trainingFaults_eq,
          TrainingData.faults_eq_nil_iff.mpr (hg node hmem training htraining)]
        exact List.forall_mem_nil _
    · cases h
      rw [List.forall_mem_singleton]
      exact not_false

/-- Nothing that is wrong with a graph is about settings, if those of all training nodes are
sound. -/
theorem not_isAboutSettings_errors (hg : g.HasSoundSettings)
    (h : error ∈ errors g report storagePrefix) : ¬error.IsAboutSettings := by
  simp only [errors, List.mem_append, or_assoc] at h
  rcases h with h | h | h | h
  · obtain ⟨finding, hfinding, herror⟩ := List.mem_filterMap.mp h
    obtain ⟨id, -, rfl⟩ := List.mem_map.mp hfinding
    exact not_isAboutSettings_findDataset herror
  · rw [eq_of_mem_faultUnless h]
    exact not_false
  · cases hmodel : planModel g (report.model.getD "") with
    | ok model => rw [hmodel] at h; cases h
    | error fault =>
      rw [hmodel] at h
      rw [List.mem_singleton.mp h]
      exact not_isAboutSettings_planModel hmodel
  · cases htraining : planTraining g (report.training.getD "") with
    | ok training => rw [htraining] at h; cases h
    | error faults =>
      rw [htraining] at h
      exact not_isAboutSettings_planTraining hg htraining error h

theorem not_isAboutSettings_warnings (h : error ∈ warnings g report storagePrefix) :
    ¬error.IsAboutSettings := by
  obtain ⟨finding, -, hwarning⟩ := List.mem_filterMap.mp h
  cases finding with
  | withoutContent nodeId => cases hwarning; exact not_false
  | usable nodeId uri => cases hwarning
  | faulty error => cases hwarning

theorem not_isAboutSettings_ofReport {errors : List CompileError} (hg : g.HasSoundSettings)
    (h : ofReport g report storagePrefix = .error ⟨errors⟩) :
    ∀ error ∈ errors, ¬error.IsAboutSettings := by
  cases hvalid : report.isValid with
  | false =>
    rw [ofReport_of_invalid hvalid] at h
    cases h
    intro error herror
    obtain ⟨cause, -, rfl⟩ := List.mem_map.mp herror
    exact not_false
  | true =>
    by_cases hnone : Plan.errors g report storagePrefix = []
    · obtain ⟨plan, hplan⟩ := ofReport_of_no_errors hvalid hnone
      rw [hplan] at h
      cases h
    · rw [ofReport_of_errors hvalid hnone] at h
      cases h
      intro error herror
      rcases List.mem_append.mp herror with herror | herror
      · exact not_isAboutSettings_errors hg herror
      · exact not_isAboutSettings_warnings herror

end Plan

theorem JobContext.not_isAboutSettings_of_mem_blankFields {context : JobContext}
    {error : CompileError} (h : error ∈ context.blankFields) : ¬error.IsAboutSettings := by
  simp only [blankFields_eq, emptyFields, List.mem_append, or_assoc] at h
  rcases h with h | h | h <;> rw [eq_of_mem_faultUnless h] <;> exact not_false

/-- The batch size of a plan is a number, so only the context can keep it from being described. -/
theorem JobDescription.not_isAboutSettings_ofPlan {g : Graph} {report : TopologyReport}
    {storagePrefix : String} {plan : Plan} {warned errors : List CompileError}
    {context : JobContext} (hplan : Plan.ofReport g report storagePrefix = .ok (plan, warned))
    (h : ofPlan plan context = .error ⟨errors⟩) : ∀ error ∈ errors, ¬error.IsAboutSettings := by
  obtain ⟨hloose, batchSize, hbatch⟩ := Plan.isClosed_of_ofReport hplan
  by_cases hblank : context.blankFields = []
  · rw [ofPlan_eq_ok hblank hbatch hloose] at h
    cases h
  · have hfaults : faults plan context = context.blankFields := by
      simp [faults, Plan.batchSizeFault?, hbatch]
    rw [ofPlan_of_faults (hfaults ▸ hblank), hfaults] at h
    cases h
    exact fun error => JobContext.not_isAboutSettings_of_mem_blankFields

namespace Graph

variable {g : Graph} {context : JobContext} {storagePrefix : String}

/-- **Sound settings compile.** No error of a graph whose settings are sound is about them. -/
theorem not_isAboutSettings_of_compile_eq_error {errors : List CompileError}
    (hg : g.HasSoundSettings) (h : g.compile context storagePrefix = .error ⟨errors⟩) :
    ∀ error ∈ errors, ¬error.IsAboutSettings := by
  rcases bind_eq_error_iff.mp h with hplan | ⟨⟨plan, warned⟩, hplan, h⟩
  · exact Plan.not_isAboutSettings_ofReport hg hplan
  · rcases bind_eq_error_iff.mp h with hdescription | ⟨description, -, h⟩
    · exact JobDescription.not_isAboutSettings_ofPlan hplan hdescription
    · cases h

/-- The warnings with a job are never about settings. -/
theorem not_isAboutSettings_of_compile_eq_ok {job : Job}
    (h : g.compile context storagePrefix = .ok job) :
    ∀ warning ∈ job.warnings, ¬warning.IsAboutSettings := by
  obtain ⟨⟨plan, warned⟩, hplan, h⟩ := bind_eq_ok_iff.mp h
  obtain ⟨description, -, h⟩ := bind_eq_ok_iff.mp h
  cases h
  obtain ⟨-, -, rfl⟩ := Plan.of_ofReport_eq_ok hplan
  exact fun warning => Plan.not_isAboutSettings_warnings

end Graph

end FineTuning
