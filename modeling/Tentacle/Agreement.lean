import Tentacle.Inbox.Summary
import Tentacle.FluxRuntime.GetTaskStatus

/-!
# The two tools' formatters side by side

The inbox tool and the status tool each carry their own copy of the task summary and of
the checkpoint record: `_summarize_task` and `_serialize_checkpoint` in `create_task.py`,
`_format_plan` and `_format_checkpoint` in `get_task_status.py`.

* `formatPlan_agrees_summarizeTask` — the two step summaries agree on every snapshot:
  each computes the spec's `TaskSnapshot.stepSummary`.
* `serializeCheckpoint_eq_formatCheckpoint` — on a snapshot with `plan_id`, `questions`
  and `alternatives`, `_serialize_checkpoint` raises exactly when `_format_checkpoint`
  does, and otherwise returns the same task reference, step, name, description, preview
  and timestamps.
* `serializeCheckpoint_task_variant` — `_serialize_checkpoint` reads `plan_id` without the
  `task_id` fallback of `_format_checkpoint`, so it raises on every snapshot of the
  `task_id` schema variant, which the status tool formats.
* `formatters_step_bounds` — both formatters count at most one outcome per step; the
  progress they compute themselves lies in `[0, 100]` and is `0.0` without steps, but a
  percentage the snapshot reports is passed through as it is
  (`formatters_pass_percentage_through`).
-/

namespace Tentacle

open Inbox FluxRuntime

/-! ## Step summaries -/

/-- `_format_plan`'s `steps_total`, `steps_completed`, `steps_failed` and `progress` are
`_summarize_task`'s four fields. -/
theorem formatPlan_agrees_summarizeTask (plan : TaskSnapshot) :
    (GetTaskStatusTool.formatPlan plan).summary = summarizeTask plan := by
  rw [formatPlan_summary, summarizeTask_eq_stepSummary]

/-! ## Checkpoint records -/

section Checkpoint

variable {c : CheckpointSnapshot}

/-- `_format_checkpoint` reports the task through `plan_id`, falling back to `task_id`. -/
theorem formatCheckpoint_planId {f : FormattedCheckpoint}
    (h : GetTaskStatusTool.formatCheckpoint c = .ok f) :
    f.planId = GetTaskStatusTool.checkpointReference c := by
  simp only [GetTaskStatusTool.formatCheckpoint] at h
  repeat obtain ⟨_, -, h⟩ := bind_eq_ok h
  cases h
  rfl

/-- `_serialize_checkpoint`'s record for a formatted checkpoint, given the three values
only it reads. -/
def SerializedCheckpoint.ofFormatted (checkpointType questions alternatives : PyVal)
    (f : FormattedCheckpoint) : SerializedCheckpoint :=
  { taskId := f.planId, stepId := f.stepId, checkpointName := f.name,
    description := f.description, checkpointType, previewData := f.preview, questions,
    alternatives, createdAt := f.createdAt, expiresAt := f.expiresAt }

/-- Where the snapshot has `plan_id`, `questions` and `alternatives`, the inbox tool's
record is the status tool's, with the type, questions and alternatives added: one raises
exactly when the other does, and on success they agree on the task reference, step,
name, description, preview and both timestamps. -/
theorem serializeCheckpoint_eq_formatCheckpoint {planId questions alternatives : PyVal}
    (hplan : c.planId = some planId) (hq : c.questions = some questions)
    (ha : c.alternatives = some alternatives) :
    serializeCheckpoint c =
      SerializedCheckpoint.ofFormatted (checkpointTypeValue c.checkpointType) questions
        alternatives <$> GetTaskStatusTool.formatCheckpoint c := by
  simp only [serializeCheckpoint, GetTaskStatusTool.formatCheckpoint,
    GetTaskStatusTool.checkpointReference, hplan, hq, ha, attr_some, Option.getD_some, map_bind,
    map_pure, pure_bind]
  rfl

/-- A checkpoint of the first schema variant, with `plan_id`, `questions` and
`alternatives`. -/
def planVariantCheckpoint : CheckpointSnapshot :=
  ⟨some (.str "task-1"), none, some (.str "step-1"), some (.str "approve"),
    some (.str "Approve the plan"), some (.wrapped (.str "approval")), some (.dict []),
    some (.list []), some (.list []), some none, some none⟩

theorem serializeCheckpoint_eq_formatCheckpoint_sample :
    (planVariantCheckpoint.planId = some (.str "task-1") ∧
      planVariantCheckpoint.questions = some (.list []) ∧
      planVariantCheckpoint.alternatives = some (.list [])) ∧
    serializeCheckpoint planVariantCheckpoint =
      SerializedCheckpoint.ofFormatted (checkpointTypeValue planVariantCheckpoint.checkpointType)
        (.list []) (.list []) <$> GetTaskStatusTool.formatCheckpoint planVariantCheckpoint :=
  ⟨⟨rfl, rfl, rfl⟩,
    @serializeCheckpoint_eq_formatCheckpoint planVariantCheckpoint _ _ _ rfl rfl rfl⟩

/-- On a snapshot of the `task_id` schema variant, `_format_checkpoint` reports the
task it refers to, while `_serialize_checkpoint` raises `AttributeError` on `plan_id`. -/
theorem serializeCheckpoint_task_variant (c : CheckpointSnapshot) (f : FormattedCheckpoint)
    (hf : GetTaskStatusTool.formatCheckpoint c = .ok f) (hplan : c.planId = none) :
    f.planId = c.taskId.getD .none ∧
      serializeCheckpoint c = .error (PyExc.attributeError "plan_id") := by
  refine ⟨?_, by simp [serializeCheckpoint, hplan]; rfl⟩
  rw [formatCheckpoint_planId hf, GetTaskStatusTool.checkpointReference, hplan]
  rfl

/-- A checkpoint of the `task_id` schema variant, without `questions` and
`alternatives`, as the status tool formats it. -/
def taskVariantCheckpoint : CheckpointSnapshot :=
  ⟨none, some (.str "task-1"), some (.str "step-1"), some (.str "approve"),
    some (.str "Approve the plan"), none, some .none, none, none, some none, some none⟩

theorem serializeCheckpoint_task_variant_sample :
    (GetTaskStatusTool.formatCheckpoint taskVariantCheckpoint =
        .ok ⟨.str "task-1", .str "step-1", .str "approve", .str "Approve the plan", .none, none,
          none⟩ ∧
      taskVariantCheckpoint.planId = none) ∧
    PyVal.str "task-1" = taskVariantCheckpoint.taskId.getD .none ∧
      serializeCheckpoint taskVariantCheckpoint = .error (PyExc.attributeError "plan_id") :=
  ⟨⟨rfl, rfl⟩, serializeCheckpoint_task_variant taskVariantCheckpoint
    ⟨.str "task-1", .str "step-1", .str "approve", .str "Approve the plan", .none, none, none⟩
    rfl rfl⟩

end Checkpoint

/-! ## Step counts and progress -/

/-- Both formatters count at most one outcome per step. The progress is the snapshot's
own percentage, unchanged, whenever `get_progress_percentage` returns one; otherwise it is
the fallback, in `[0, 100]` and `0.0` for a task without steps. -/
theorem formatters_step_bounds (t : TaskSnapshot) :
    let bounded (s : StepSummary) : Prop :=
      s.stepsCompleted + s.stepsFailed ≤ s.stepsTotal ∧ s.stepsTotal = (t.steps.getD []).length ∧
      (∀ p, t.progress = .ok p → s.progressPercentage = p) ∧
      (∀ e, t.progress = .error e → ∃ q, s.progressPercentage = .finite q ∧
        0 ≤ q ∧ q ≤ 100 ∧ (s.stepsTotal = 0 → q = 0))
    bounded (summarizeTask t) ∧ bounded (GetTaskStatusTool.formatPlan t).summary := by
  intro _
  rw [summarizeTask_eq_stepSummary, formatPlan_summary]
  exact ⟨t.stepSummary_bounds, t.stepSummary_bounds⟩

/-- A task without steps whose own percentage is `150.0`. -/
def overfullTask : TaskSnapshot :=
  ⟨"task-1", "user-1", "Write the report", TaskStatus.executing.raw, some [], .ok (.finite 150),
    none, none⟩

/-- Both formatters report `150.0` for a task without steps whose snapshot says so. -/
theorem formatters_pass_percentage_through :
    (summarizeTask overfullTask).stepsTotal = 0 ∧
      (summarizeTask overfullTask).progressPercentage = .finite 150 ∧
    (GetTaskStatusTool.formatPlan overfullTask).stepsTotal = 0 ∧
      (GetTaskStatusTool.formatPlan overfullTask).progress = .finite 150 :=
  ⟨rfl, rfl, rfl, rfl⟩

end Tentacle
