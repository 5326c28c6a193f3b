import FineTuning.Config
import FineTuning.Job.Error
import FineTuning.Text.Blank

/-!
# The context of a job

What a job needs that its graph does not say. None of it may be blank.
-/

namespace FineTuning

/-- Identifies a job and who creates it. -/
structure JobContext where
  trainingId : String
  projectName : String
  createdBy : String
deriving DecidableEq

namespace JobContext

/-- The context of a job that is created by the configured creator unless another one is given. -/
def ofConfig (config : Config) (trainingId projectName : String) (createdBy : Option String) :
    JobContext :=
  ⟨trainingId, projectName, createdBy.getD config.createdBy⟩

/-- The fields by the names that they have in the job description. -/
def fields (context : JobContext) : List (String × String) :=
  [("training_id", context.trainingId), ("project_name", context.projectName),
    ("created_by", context.createdBy)]

/-- The fields that are blank. -/
def blankFields (context : JobContext) : List CompileError :=
  (context.fields.filter fun field => Text.isBlankText field.2).map fun field =>
    .emptyField field.1

end JobContext

end FineTuning
