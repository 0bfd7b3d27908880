import Tentacle.Domain

/-!
# `create_task.py`: the helpers around the wait

The module-level functions of `src/infrastructure/inbox/tools/create_task.py` that do
not wait: `_status_value`, `_safe_progress`, `_summarize_task`, `_serialize_checkpoint`
and `_resolve_wait_timeout`.

* `summarizeTask_eq_stepSummary` — the counting loop with its two accumulators computes
  the step summary of the spec (`TaskSnapshot.stepSummary`).
* `resolveWaitTimeout_mem` — whenever `_resolve_wait_timeout` returns, its value lies in
  `[0, max 0 MAX]`.
* `resolveWaitTimeout_raises` — it raises only on an infinite float: `int(inf)` is an
  `OverflowError`, which its `except (TypeError, ValueError)` does not catch.
-/

namespace Tentacle.Inbox

/-- `_status_value`. -/
def statusValue (status : RawStatus) : String := canonicalStatus status

/-! ## `_summarize_task` -/

/-- `_safe_progress`: the snapshot's own percentage, and when reading it raises, `0.0`
for a task without steps or the completed share rounded to two decimals. -/
def safeProgress (task : TaskSnapshot) (completedSteps totalSteps : Nat) : PyFloat :=
  match task.progress with
  | .ok p => p
  | .error _ =>
    if totalSteps ≤ 0 then .finite 0
    else .finite (round2 ((completedSteps : ℚ) / totalSteps * 100))

/-- One iteration of `_summarize_task`'s loop over the steps, on the accumulators
`(completed_steps, failed_steps)`. -/
def countStep (acc : Nat × Nat) (step : StepSnapshot) : Nat × Nat :=
  let stepStatus := statusValue step.status
  if stepStatus ∈ ["done", "completed"] then (acc.1 + 1, acc.2)
  else if stepStatus = "failed" then (acc.1, acc.2 + 1)
  else acc

/-- `_summarize_task`. -/
def summarizeTask (task : TaskSnapshot) : StepSummary :=
  let steps := task.steps.getD []
  let counts := steps.foldl countStep (0, 0)
  { stepsTotal := steps.length
    stepsCompleted := counts.1
    stepsFailed := counts.2
    progressPercentage := safeProgress task counts.1 steps.length }

/-- One iteration adds one to exactly one accumulator for a completed or a failed step:
the `elif` never fires on a completed step, since no status is both. -/
theorem countStep_eq (a b : Nat) (s : StepSnapshot) :
    countStep (a, b) s =
      (a + if s.isCompleted then 1 else 0, b + if s.isFailed then 1 else 0) := by
  unfold countStep StepSnapshot.isCompleted StepSnapshot.isFailed statusValue
  generalize canonicalStatus s.status = x
  by_cases hc : x ∈ ["done", "completed"]
  · have hf : x ≠ "failed" := by rintro rfl; simp at hc
    simp [hc, hf]
  · by_cases hf : x = "failed" <;> simp [hc, hf]

theorem foldl_countStep (steps : List StepSnapshot) (a b : Nat) :
    steps.foldl countStep (a, b) =
      (a + steps.countP (·.isCompleted), b + steps.countP (·.isFailed)) := by
  induction steps generalizing a b with
  | nil => rfl
  | cons s rest ih =>
    rw [List.foldl_cons, countStep_eq, ih]
    simp only [List.countP_cons, Prod.mk.injEq]
    constructor <;> ring

/-- `_summarize_task` computes the spec's step summary. -/
theorem summarizeTask_eq_stepSummary (task : TaskSnapshot) :
    summarizeTask task = task.stepSummary := by
  simp only [summarizeTask, foldl_countStep, TaskSnapshot.stepSummary, safeProgress,
    fallbackProgress]
  cases task.progress <;> simp

/-! ## `_serialize_checkpoint` -/

/-- The record `_serialize_checkpoint` returns. -/
structure SerializedCheckpoint where
  taskId : PyVal
  stepId : PyVal
  checkpointName : PyVal
  description : PyVal
  checkpointType : PyVal
  previewData : PyVal
  questions : PyVal
  alternatives : PyVal
  createdAt : Option String
  expiresAt : Option String
  deriving Repr

/-- `getattr(checkpoint_type, "value", checkpoint_type) or "approval"`, on
`getattr(checkpoint, "checkpoint_type", None)`. -/
def checkpointTypeValue (checkpointType : Option CheckpointTypeRepr) : PyVal :=
  let raw := match checkpointType with
    | none => PyVal.none
    | some (.plain v) => v
    | some (.wrapped v) => v
  raw.orElse (.str "approval")

/-- `_serialize_checkpoint`. The dictionary's values are read in order with plain
attribute access, so the first missing attribute raises `AttributeError`; only
`checkpoint_type` is read through `getattr`. -/
def serializeCheckpoint (checkpoint : CheckpointSnapshot) :
    Except PyExc SerializedCheckpoint := do
  let checkpointType := checkpointTypeValue checkpoint.checkpointType
  let taskId ← attr "plan_id" checkpoint.planId
  let stepId ← attr "step_id" checkpoint.stepId
  let checkpointName ← attr "checkpoint_name" checkpoint.checkpointName
  let description ← attr "description" checkpoint.description
  let previewData ← attr "preview_data" checkpoint.previewData
  let questions ← attr "questions" checkpoint.questions
  let alternatives ← attr "alternatives" checkpoint.alternatives
  let createdAt ← attr "created_at" checkpoint.createdAt
  let expiresAt ← attr "expires_at" checkpoint.expiresAt
  return { taskId, stepId, checkpointName, description, checkpointType, previewData,
           questions, alternatives, createdAt := isoOrNone createdAt,
           expiresAt := isoOrNone expiresAt }

/-! ## `_resolve_wait_timeout` -/

/-- `_resolve_wait_timeout`; `requested` is `arguments.get("wait_timeout_seconds")`,
`none` when the key is absent. -/
def resolveWaitTimeout (settings : Settings) (requested : Option PyVal) :
    Except PyExc Int :=
  let fallback := max 0 (min settings.waitTimeoutSeconds settings.waitMaxTimeoutSeconds)
  match requested with
  | none | some .none => .ok fallback
  | some v =>
    match v.toInt with
    | .ok timeoutInt => .ok (max 0 (min timeoutInt settings.waitMaxTimeoutSeconds))
    | .error e =>
      if e.kind = .typeError ∨ e.kind = .valueError then .ok fallback else .error e

/-- Whenever `_resolve_wait_timeout` returns, its value lies in `[0, max 0 MAX]`. -/
theorem resolveWaitTimeout_mem {settings : Settings} {requested : Option PyVal} {t : Int}
    (h : resolveWaitTimeout settings requested = .ok t) :
    0 ≤ t ∧ t ≤ max 0 settings.waitMaxTimeoutSeconds := by
  unfold resolveWaitTimeout at h
  split at h
  · cases h; omega
  · cases h; omega
  · split at h
    · -- `int()` returned: clamp it
      cases h; omega
    · -- `int()` raised: the default, or the exception propagates
      split at h
      · cases h; omega
      · cases h

/-- `_resolve_wait_timeout` raises only when `int()` overflows on an infinite float. -/
theorem resolveWaitTimeout_raises {settings : Settings} {requested : Option PyVal}
    {e : PyExc} (h : resolveWaitTimeout settings requested = .error e) :
    e.kind = .overflowError ∧
      (requested = some (PyVal.float .inf) ∨ requested = some (PyVal.float .negInf)) := by
  unfold resolveWaitTimeout at h
  split at h
  · cases h
  · cases h
  · rename_i v _ _
    split at h
    · cases h
    · rename_i e' he
      split at h
      · cases h
      · rename_i hk
        cases h
        rcases PyVal.toInt_error he with h1 | h1 | ⟨h1, rfl | rfl⟩
        · exact absurd (.inl h1) hk
        · exact absurd (.inr h1) hk
        · exact ⟨h1, .inl rfl⟩
        · exact ⟨h1, .inr rfl⟩

end Tentacle.Inbox
