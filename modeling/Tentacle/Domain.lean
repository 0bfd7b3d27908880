import Tentacle.Python

/-!
# The objects the tools read

Both tools are thin adapters over backends that are not in the source tree
(`src.application.tasks`, `src.application.checkpoints`, `src.domain.tasks.models`,
`src.core.config`, the tool base classes). What the tools need of them is fixed here,
once: the task, step and checkpoint snapshots they read (with the attributes they may
lack, since both tools read them by duck typing), the `ToolResult` they return, the
three configuration values the inbox tool reads, and the checkpoint backend both call.

The module ends with the step summary of the task summary formatter, stated the way the
spec states it; each tool's own formatter is shown to compute it.
-/

namespace Tentacle

/-! ## Statuses -/

/-- A status as `_status_value` receives it. -/
inductive RawStatus where
  /-- `None`, or an object with no `status` attribute (`getattr(x, "status", None)`). -/
  | none
  /-- An object with no `value` attribute whose `str()` is `text`, such as a plain string. -/
  | plain (text : String)
  /-- An enum member: `str(member.value)`, or `none` when `member.value is None`. -/
  | wrapped (value : Option String)
  deriving DecidableEq, Repr

/-- `_status_value`, written out identically in `create_task.py` and as
`GetTaskStatusTool._status_value`: the lowercased `str` of the status's `value` (or of
the status itself), and `"unknown"` for `None`. -/
def canonicalStatus : RawStatus → String
  | .none | .wrapped none => "unknown"
  | .plain text | .wrapped (some text) => pyLower text

/-- Modelled from the spec: `TaskStatus` (`src.domain.tasks.models`), the seven canonical
task statuses of §3. -/
inductive TaskStatus where
  | planning | ready | executing | checkpoint | completed | failed | cancelled
  deriving DecidableEq, Repr

/-- Modelled from the spec: the `value` of each `TaskStatus` member, its lowercase name. -/
def TaskStatus.value : TaskStatus → String
  | .planning => "planning"
  | .ready => "ready"
  | .executing => "executing"
  | .checkpoint => "checkpoint"
  | .completed => "completed"
  | .failed => "failed"
  | .cancelled => "cancelled"

/-- A `TaskStatus` member as a raw status. -/
def TaskStatus.raw (s : TaskStatus) : RawStatus := .wrapped (some s.value)

/-! ## Snapshots -/

/-- A `datetime`; the tools only call `isoformat()` on it. -/
structure Timestamp where
  isoformat : String
  deriving DecidableEq, Repr

/-- `x.isoformat() if x else None` (a `datetime` is always truthy). -/
def isoOrNone : Option Timestamp → Option String
  | some t => some t.isoformat
  | none => none

/-- Modelled from the spec: a step of a task, as the tools read it. -/
structure StepSnapshot where
  status : RawStatus
  deriving DecidableEq, Repr

/-- Modelled from the spec: a task snapshot (`Task`/`Plan`) as a backend returns it.
`steps` is `none` when the attribute is missing or `None`; `progress` is what
`float(task.get_progress_percentage())` gives, including the ways it can raise (the
method is missing, raises, or returns something `float` rejects). -/
structure TaskSnapshot where
  id : String
  userId : String
  goal : String
  status : RawStatus
  steps : Option (List StepSnapshot)
  progress : Except PyExc PyFloat
  createdAt : Option Timestamp
  updatedAt : Option Timestamp

/-- A checkpoint's type: an enum member (read through `.value`) or a plain value. -/
inductive CheckpointTypeRepr where
  | plain (v : PyVal)
  | wrapped (value : PyVal)
  deriving Repr

/-- Modelled from the spec: a checkpoint snapshot. Every attribute may be missing
(`none`); the two schema variants carry `planId` or only `taskId`. The timestamps are
`some none` when present but `None`. -/
structure CheckpointSnapshot where
  planId : Option PyVal
  taskId : Option PyVal
  stepId : Option PyVal
  checkpointName : Option PyVal
  description : Option PyVal
  checkpointType : Option CheckpointTypeRepr
  previewData : Option PyVal
  questions : Option PyVal
  alternatives : Option PyVal
  createdAt : Option (Option Timestamp)
  expiresAt : Option (Option Timestamp)
  deriving Repr

/-- Modelled from the spec: a checkpoint as §2 describes it has, under either schema
variant, a step reference (possibly `None`), a name, a description, preview data and
both timestamps. -/
def CheckpointSnapshot.HasRecordFields (c : CheckpointSnapshot) : Prop :=
  c.stepId.isSome ∧ c.checkpointName.isSome ∧ c.description.isSome ∧ c.previewData.isSome ∧
    c.createdAt.isSome ∧ c.expiresAt.isSome

instance (c : CheckpointSnapshot) : Decidable c.HasRecordFields :=
  inferInstanceAs (Decidable (_ ∧ _ ∧ _ ∧ _ ∧ _ ∧ _))

/-! ## Results, configuration, the checkpoint backend -/

/-- Modelled from the spec: `ToolResult{success, data?, message?, error?}` (§6). -/
structure ToolResult (α : Type) where
  success : Bool
  data : Option α
  message : Option String
  error : Option String

/-- `ToolResult(success=False, error=error)`. -/
def ToolResult.failure {α : Type} (error : String) : ToolResult α :=
  ⟨false, none, none, some error⟩

/-- Modelled from the spec: the three `settings` values the inbox tool reads
(`INBOX_CREATE_TASK_WAIT_TIMEOUT_SECONDS`, `..._WAIT_MAX_TIMEOUT_SECONDS`,
`..._WAIT_POLL_INTERVAL_SECONDS`). -/
structure Settings where
  waitTimeoutSeconds : Int
  waitMaxTimeoutSeconds : Int
  waitPollIntervalSeconds : ℚ

/-- Modelled from the spec: `CheckpointUseCases` (§6), each call returning or raising. -/
structure CheckpointUseCases where
  listPending : PyVal → Except PyExc (List CheckpointSnapshot)
  listPendingForTask : String → Except PyExc (List CheckpointSnapshot)

/-! ## The step summary (§4.3)

What both tools' formatters are for, in the spec's words: the number of steps, the
number whose canonical status is `done` or `completed`, the number that `failed`, and a
progress percentage that prefers the snapshot's own and otherwise is
`round(completed / total * 100, 2)`, or `0.0` for a task without steps. -/

/-- The four step-summary fields, as `_summarize_task` returns them. -/
structure StepSummary where
  stepsTotal : Nat
  stepsCompleted : Nat
  stepsFailed : Nat
  progressPercentage : PyFloat
  deriving DecidableEq, Repr

/-- A step counts as completed when its canonical status is `done` or `completed`. -/
def StepSnapshot.isCompleted (s : StepSnapshot) : Bool :=
  canonicalStatus s.status ∈ ["done", "completed"]

/-- A step counts as failed when its canonical status is `failed`. -/
def StepSnapshot.isFailed (s : StepSnapshot) : Bool :=
  canonicalStatus s.status = "failed"

/-- The progress fallback: `0.0` without steps, else the completed share rounded to two
decimals. -/
def fallbackProgress (completed total : Nat) : PyFloat :=
  if total = 0 then .finite 0 else .finite (round2 ((completed : ℚ) / total * 100))

/-- The step summary of a task snapshot, as the spec describes it. -/
def TaskSnapshot.stepSummary (t : TaskSnapshot) : StepSummary :=
  let steps := t.steps.getD []
  let completed := steps.countP (·.isCompleted)
  { stepsTotal := steps.length
    stepsCompleted := completed
    stepsFailed := steps.countP (·.isFailed)
    progressPercentage := match t.progress with
      | .ok p => p
      | .error _ => fallbackProgress completed steps.length }

/-! ## Bounds of the step summary -/

/-- No step counts as both completed and failed. -/
theorem StepSnapshot.not_isCompleted_and_isFailed (s : StepSnapshot) :
    ¬(s.isCompleted ∧ s.isFailed) := by
  simp only [StepSnapshot.isCompleted, StepSnapshot.isFailed, decide_eq_true_eq]
  rintro ⟨h1, h2⟩
  rw [h2] at h1
  simp at h1

theorem countP_completed_add_failed_le (steps : List StepSnapshot) :
    steps.countP (·.isCompleted) + steps.countP (·.isFailed) ≤ steps.length := by
  induction steps with
  | nil => rfl
  | cons s steps ih =>
    have hs := s.not_isCompleted_and_isFailed
    simp only [List.countP_cons, List.length_cons]
    cases hc : s.isCompleted <;> cases hf : s.isFailed <;> simp [hc, hf] at hs ⊢ <;> omega

/-- The fallback is a finite percentage in `[0, 100]`, and `0.0` without steps. -/
theorem fallbackProgress_mem {completed total : Nat} (h : completed ≤ total) :
    ∃ q, fallbackProgress completed total = .finite q ∧ 0 ≤ q ∧ q ≤ 100 ∧ (total = 0 → q = 0) := by
  unfold fallbackProgress
  split_ifs with h0
  · exact ⟨0, rfl, le_rfl, by norm_num, fun _ => rfl⟩
  · have ht : (0 : ℚ) < total := by exact_mod_cast Nat.pos_of_ne_zero h0
    have hle : (completed : ℚ) / total ≤ 1 := (div_le_one ht).mpr (by exact_mod_cast h)
    obtain ⟨h1, h2⟩ := round2_mem (q := (completed : ℚ) / total * 100) (by positivity)
      (by linarith)
    exact ⟨_, rfl, h1, h2, fun h => absurd h h0⟩

/-- The step counts are bounded by the number of steps; the progress is the snapshot's own
percentage when it returns one, and otherwise the fallback's bounded value. -/
theorem TaskSnapshot.stepSummary_bounds (t : TaskSnapshot) :
    t.stepSummary.stepsCompleted + t.stepSummary.stepsFailed ≤ t.stepSummary.stepsTotal ∧
    t.stepSummary.stepsTotal = (t.steps.getD []).length ∧
    (∀ p, t.progress = .ok p → t.stepSummary.progressPercentage = p) ∧
    (∀ e, t.progress = .error e → ∃ q, t.stepSummary.progressPercentage = .finite q ∧
      0 ≤ q ∧ q ≤ 100 ∧ (t.stepSummary.stepsTotal = 0 → q = 0)) := by
  have hcount := countP_completed_add_failed_le (t.steps.getD [])
  refine ⟨hcount, rfl, fun p hp => by simp [TaskSnapshot.stepSummary, hp],
    fun e he => ?_⟩
  simp only [TaskSnapshot.stepSummary, he]
  exact fallbackProgress_mem (by omega)

end Tentacle
