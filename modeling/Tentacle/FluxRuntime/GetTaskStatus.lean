import Tentacle.Domain

/-!
# `GetTaskStatusTool.execute`

The read-only status tool of `src/infrastructure/flux_runtime/tools/get_task_status.py`.
Given a truthy `plan_id` it reports one task, after checking that the requester owns
it; otherwise it lists the requester's tasks, split into active and terminal ones. It
reads either a unified `DelegationService` from the context or the split use cases
(from the context, else from the module's cached providers), and tolerates a provider
that cannot be built. Every statement that can raise sits inside its `try`, so the model
of `execute` returns a result, never an exception.

* `formatPlan_summary` — `_format_plan`'s two generator sums and its progress fallback
  compute the spec's step summary.
* `execute_task_lookup` — once the lookup of a requested task has returned, the answer
  depends only on whether a task came back and on its owner: a task owned by another
  user gets the generic denial, whatever its attributes; no task gets `Task not found`.
* `execute_listing` — listing mode: the active tasks in the order fetched, up to five
  finished ones on request, every pending checkpoint on request, and the summary line
  built from the three counts.
* `execute_single_task` — a task the requester owns, with exactly the pending
  checkpoints that refer to it, attached only when there are some.
-/

namespace Tentacle.FluxRuntime

/-! ## Formatting -/

/-- `GetTaskStatusTool._status_value`. -/
def GetTaskStatusTool.statusValue (status : RawStatus) : String := canonicalStatus status

/-- The record `_format_plan` returns. -/
structure FormattedPlan where
  planId : String
  goal : String
  status : String
  progress : PyFloat
  stepsTotal : Nat
  stepsCompleted : Nat
  stepsFailed : Nat
  createdAt : Option String
  updatedAt : Option String
  deriving Repr

/-- `GetTaskStatusTool._format_plan`. -/
def GetTaskStatusTool.formatPlan (plan : TaskSnapshot) : FormattedPlan :=
  let steps := plan.steps.getD []
  let completedSteps :=
    ((steps.filter fun s => statusValue s.status ∈ ["done", "completed"]).map fun _ => 1).sum
  let failedSteps := ((steps.filter fun s => statusValue s.status = "failed").map fun _ => 1).sum
  let progress := match plan.progress with
    | .ok progress => progress
    | .error _ =>
      if !steps.isEmpty then .finite (round2 ((completedSteps : ℚ) / steps.length * 100))
      else .finite 0
  { planId := plan.id, goal := plan.goal, status := statusValue plan.status, progress,
    stepsTotal := steps.length, stepsCompleted := completedSteps, stepsFailed := failedSteps,
    createdAt := isoOrNone plan.createdAt, updatedAt := isoOrNone plan.updatedAt }

/-- The four step-summary fields of a formatted plan. -/
def FormattedPlan.summary (plan : FormattedPlan) : StepSummary :=
  ⟨plan.stepsTotal, plan.stepsCompleted, plan.stepsFailed, plan.progress⟩

theorem sum_map_one {α : Type} (l : List α) : (l.map fun _ => 1).sum = l.length := by
  induction l with
  | nil => rfl
  | cons _ _ ih => simp [ih, Nat.add_comm]

/-- `_format_plan` computes the spec's step summary. -/
theorem formatPlan_summary (plan : TaskSnapshot) :
    (GetTaskStatusTool.formatPlan plan).summary = plan.stepSummary := by
  simp only [GetTaskStatusTool.formatPlan, FormattedPlan.summary, TaskSnapshot.stepSummary,
    sum_map_one, ← List.countP_eq_length_filter, fallbackProgress, GetTaskStatusTool.statusValue,
    StepSnapshot.isCompleted, StepSnapshot.isFailed, decide_eq_true_eq]
  cases plan.progress with
  | ok p => rfl
  | error e =>
    cases plan.steps.getD [] with
    | nil => rfl
    | cons s rest => simp

/-- The record `_format_checkpoint` returns. -/
structure FormattedCheckpoint where
  planId : PyVal
  stepId : PyVal
  name : PyVal
  description : PyVal
  preview : PyVal
  createdAt : Option String
  expiresAt : Option String
  deriving Repr

/-- `getattr(c, "plan_id", getattr(c, "task_id", None))`: the task a checkpoint refers
to, under either schema. -/
def GetTaskStatusTool.checkpointReference (c : CheckpointSnapshot) : PyVal :=
  c.planId.getD (c.taskId.getD .none)

/-- `GetTaskStatusTool._format_checkpoint`. -/
def GetTaskStatusTool.formatCheckpoint (checkpoint : CheckpointSnapshot) :
    Except PyExc FormattedCheckpoint := do
  let planId := checkpointReference checkpoint
  let stepId ← attr "step_id" checkpoint.stepId
  let name ← attr "checkpoint_name" checkpoint.checkpointName
  let description ← attr "description" checkpoint.description
  let preview ← attr "preview_data" checkpoint.previewData
  let createdAt ← attr "created_at" checkpoint.createdAt
  let expiresAt ← attr "expires_at" checkpoint.expiresAt
  return { planId, stepId, name, description, preview, createdAt := isoOrNone createdAt,
           expiresAt := isoOrNone expiresAt }

/-! ## Providers -/

/-- Modelled from the spec: `DelegationService` (§6). `getUserPlans` takes `user_id` and
`limit`; the tool always passes `status=None`. -/
structure DelegationService where
  getPlan : String → Except PyExc (Option TaskSnapshot)
  getPendingCheckpoints : PyVal → Except PyExc (List CheckpointSnapshot)
  getUserPlans : PyVal → PyVal → Except PyExc (List TaskSnapshot)

/-- Modelled from the spec: `TaskUseCases` (§6) as `get_task_status.py` calls it.
`listTasks` takes `user_id` and `limit`; the tool always passes `status=None`. -/
structure TaskUseCases where
  getTask : String → Except PyExc (Option TaskSnapshot)
  listTasks : PyVal → PyVal → Except PyExc (List TaskSnapshot)

/-- `arguments` as `execute` reads them, each key `none` when absent. `plan_id` is a
string when given. -/
structure GetTaskStatusArgs where
  planId : Option String
  includeCompleted : Option PyVal
  includeCheckpoints : Option PyVal
  limit : Option PyVal

/-- `context` as `execute` reads it; a provider is `none` when absent or `None`. -/
structure GetTaskStatusContext where
  userId : Option PyVal
  delegationService : Option DelegationService
  taskUseCases : Option TaskUseCases
  checkpointUseCases : Option CheckpointUseCases

/-- What `await _get_task_use_cases()` and `await _get_checkpoint_use_cases()` give. -/
structure GetTaskStatusWorld where
  taskUseCases : Except PyExc TaskUseCases
  checkpointUseCases : Except PyExc CheckpointUseCases

/-- The providers `execute` holds after resolving them. -/
structure Providers where
  delegationService : Option DelegationService
  taskUseCases : Option TaskUseCases
  checkpointUseCases : Option CheckpointUseCases

/-- Lines 122-142: take the context's providers, and build a missing split provider
(the checkpoint one only when checkpoints are wanted); a build that raises is logged
and leaves the provider missing. -/
def resolveProviders (world : GetTaskStatusWorld) (context : GetTaskStatusContext)
    (includeCheckpoints : Bool) : Providers :=
  let delegationService := context.delegationService
  let taskUseCases :=
    if delegationService.isNone && context.taskUseCases.isNone then world.taskUseCases.toOption
    else context.taskUseCases
  let checkpointUseCases :=
    if includeCheckpoints && delegationService.isNone && context.checkpointUseCases.isNone then
      world.checkpointUseCases.toOption
    else context.checkpointUseCases
  ⟨delegationService, taskUseCases, checkpointUseCases⟩

/-- `delegation_service.get_plan(plan_id)`, else `task_use_cases.get_task(plan_id)`
(on `None` the attribute lookup itself raises). -/
def Providers.getPlan (providers : Providers) (planId : String) :
    Except PyExc (Option TaskSnapshot) :=
  match providers.delegationService, providers.taskUseCases with
  | some delegation, _ => delegation.getPlan planId
  | none, some taskUseCases => taskUseCases.getTask planId
  | none, none => .error (PyExc.attributeError "get_task")

/-- The user's tasks: `get_user_plans`, else `list_tasks`, each with `status=None`. -/
def Providers.listPlans (providers : Providers) (userId limit : PyVal) :
    Except PyExc (List TaskSnapshot) :=
  match providers.delegationService, providers.taskUseCases with
  | some delegation, _ => delegation.getUserPlans userId limit
  | none, some taskUseCases => taskUseCases.listTasks userId limit
  | none, none => .error (PyExc.attributeError "list_tasks")

/-- The checkpoints single-task mode filters: all of the user's pending ones from the
delegation service, else the task's own, else none. -/
def Providers.checkpointsForPlan (providers : Providers) (userId : PyVal) (planId : String) :
    Except PyExc (List CheckpointSnapshot) :=
  match providers.delegationService, providers.checkpointUseCases with
  | some delegation, _ => delegation.getPendingCheckpoints userId
  | none, some checkpointUseCases => checkpointUseCases.listPendingForTask planId
  | none, none => .ok []

/-- The user's pending checkpoints for listing mode. -/
def Providers.pendingCheckpoints (providers : Providers) (userId : PyVal) :
    Except PyExc (List CheckpointSnapshot) :=
  match providers.delegationService, providers.checkpointUseCases with
  | some delegation, _ => delegation.getPendingCheckpoints userId
  | none, some checkpointUseCases => checkpointUseCases.listPending userId
  | none, none => .ok []

/-! ## The two modes -/

/-- The record listing mode returns; a key is present when its field is `some`. -/
structure ListingData where
  activeTasks : List FormattedPlan
  activeCount : Nat
  completedTasks : Option (List FormattedPlan)
  completedCount : Option Nat
  pendingCheckpoints : Option (List FormattedCheckpoint)
  checkpointCount : Option Nat

/-- The `data` of a successful result: one formatted task (with its pending checkpoints
when some match), or the listing. -/
inductive StatusData where
  | plan (plan : FormattedPlan) (pendingCheckpoints : Option (List FormattedCheckpoint))
  | listing (data : ListingData)

open GetTaskStatusTool in
/-- Lines 153-195: one task, checked for ownership, with its own pending checkpoints. -/
def singleTask (providers : Providers) (userId : PyVal) (planId : String)
    (includeCheckpoints : Bool) : Except PyExc (ToolResult StatusData) := do
  let plan? ← providers.getPlan planId
  match plan? with
  | none => return .failure s!"Task not found: {planId}"
  | some plan =>
    if !userId.eqStr plan.userId then return .failure "Access denied to this task"
    let resultData := formatPlan plan
    let pendingCheckpoints ← if includeCheckpoints then do
        let checkpoints ← providers.checkpointsForPlan userId planId
        let planCheckpoints := checkpoints.filter fun c => (checkpointReference c).eqStr planId
        if planCheckpoints.isEmpty then pure none
        else some <$> planCheckpoints.mapM formatCheckpoint
      else pure none
    return ⟨true, some (.plan resultData pendingCheckpoints),
      some s!"Task '{plan.goal.take 50}...' is {statusValue plan.status}", none⟩

open GetTaskStatusTool in
/-- `active_status_values`: the `TaskStatus` members counted as active. -/
def activeStatusValues : List String :=
  [TaskStatus.planning, .ready, .executing, .checkpoint].map fun s => statusValue s.raw

open GetTaskStatusTool in
/-- `terminal_status_values`: the `TaskStatus` members counted as finished. -/
def terminalStatusValues : List String :=
  [TaskStatus.completed, .failed, .cancelled].map fun s => statusValue s.raw

/-- Lines 268-279: the non-empty fragments joined with commas, or `No active tasks`. -/
def summaryMessage (active checkpoints completed : Nat) : String :=
  let summaryParts :=
    (if active = 0 then [] else [s!"{active} active task(s)"]) ++
    (if checkpoints = 0 then [] else [s!"{checkpoints} checkpoint(s) pending approval"]) ++
    (if completed = 0 then [] else [s!"{completed} recently completed"])
  if summaryParts.isEmpty then "No active tasks" else ", ".intercalate summaryParts

open GetTaskStatusTool in
/-- Lines 198-285: the user's tasks, active ones always, up to five finished ones on
request, and the pending checkpoints on request. -/
def listing (providers : Providers) (userId limit : PyVal)
    (includeCompleted includeCheckpoints : Bool) : Except PyExc (ToolResult StatusData) := do
  let activePlans ← providers.listPlans userId limit
  let activeTasks := activePlans.filter fun p => statusValue p.status ∈ activeStatusValues
  let completedTasks :=
    if includeCompleted then
      (activePlans.filter fun p => statusValue p.status ∈ terminalStatusValues).take 5
    else []
  let pendingCheckpoints ← if includeCheckpoints then do
      let checkpoints ← providers.pendingCheckpoints userId
      checkpoints.mapM formatCheckpoint
    else pure []
  let resultData : ListingData :=
    { activeTasks := activeTasks.map formatPlan
      activeCount := activeTasks.length
      completedTasks := if includeCompleted then some (completedTasks.map formatPlan) else none
      completedCount := if includeCompleted then some completedTasks.length else none
      pendingCheckpoints := if includeCheckpoints then some pendingCheckpoints else none
      checkpointCount := if includeCheckpoints then some pendingCheckpoints.length else none }
  return ⟨true, some (.listing resultData),
    some (summaryMessage activeTasks.length pendingCheckpoints.length completedTasks.length),
    none⟩

/-! ## `execute` -/

/-- `plan_id` when it is truthy: single-task mode. -/
def GetTaskStatusTool.requestedPlan (args : GetTaskStatusArgs) : Option String :=
  match args.planId with
  | some planId => if planId.isEmpty then none else some planId
  | none => none

/-- `include_checkpoints`, default `True`. -/
def GetTaskStatusTool.includeCheckpoints (args : GetTaskStatusArgs) : Bool :=
  (args.includeCheckpoints.getD (.bool true)).truthy

/-- `GetTaskStatusTool.execute`. -/
def GetTaskStatusTool.execute (world : GetTaskStatusWorld) (args : GetTaskStatusArgs)
    (context : GetTaskStatusContext) : ToolResult StatusData :=
  let includeCompleted := (args.includeCompleted.getD (.bool false)).truthy
  let includeCheckpoints := includeCheckpoints args
  let limit := args.limit.getD (.int 10)
  let userId := context.userId.getD .none
  if !userId.truthy then .failure "User context not available"
  else
    let providers := resolveProviders world context includeCheckpoints
    if providers.delegationService.isNone && providers.taskUseCases.isNone then
      .failure "Delegation service not available"
    else
      let outcome := match requestedPlan args with
        | some planId => singleTask providers userId planId includeCheckpoints
        | none => listing providers userId limit includeCompleted includeCheckpoints
      match outcome with
      | .ok result => result
      | .error e => .failure s!"Failed to get task status: {e.message}"

/-! ## Looking a task up

In single-task mode the answer turns on what the lookup returned. A task owned by
someone else is refused before any of its attributes is read, so every such task gets
the same answer; but that answer is not the one for a task that does not exist. -/

section Lookup

variable {providers : Providers} {userId : PyVal} {planId : String}
  {includeCheckpoints : Bool}

theorem singleTask_foreign {t : TaskSnapshot} (hget : providers.getPlan planId = .ok (some t))
    (howner : userId.eqStr t.userId = false) :
    singleTask providers userId planId includeCheckpoints =
      .ok (.failure "Access denied to this task") := by
  simp [singleTask, hget, howner, bind, Except.bind, pure, Except.pure]

theorem singleTask_missing (hget : providers.getPlan planId = .ok none) :
    singleTask providers userId planId includeCheckpoints =
      .ok (.failure s!"Task not found: {planId}") := by
  simp [singleTask, hget, bind, Except.bind, pure, Except.pure]

/-- A lookup that returned went through an available provider. -/
theorem Providers.available_of_getPlan {o : Option TaskSnapshot}
    (h : providers.getPlan planId = .ok o) :
    (providers.delegationService.isNone && providers.taskUseCases.isNone) = false := by
  unfold Providers.getPlan at h
  split at h <;> simp_all

end Lookup

/-- Single-task mode, once the lookup of the requested task has returned: a task owned
by another user gets the generic denial whatever its goal, status, steps and
checkpoints, and no task gets `Task not found: <id>`, for every requester and flags
(a requester without a user id is turned away first in both cases). -/
theorem execute_task_lookup (world : GetTaskStatusWorld) (args : GetTaskStatusArgs)
    (context : GetTaskStatusContext) (planId : String)
    (hplan : GetTaskStatusTool.requestedPlan args = some planId) :
    (∀ t : TaskSnapshot,
      (resolveProviders world context (GetTaskStatusTool.includeCheckpoints args)).getPlan
        planId = .ok (some t) →
      (context.userId.getD .none).eqStr t.userId = false →
      GetTaskStatusTool.execute world args context =
        if (context.userId.getD .none).truthy then .failure "Access denied to this task"
        else .failure "User context not available") ∧
    ((resolveProviders world context (GetTaskStatusTool.includeCheckpoints args)).getPlan
        planId = .ok none →
      GetTaskStatusTool.execute world args context =
        if (context.userId.getD .none).truthy then .failure s!"Task not found: {planId}"
        else .failure "User context not available") := by
  refine ⟨fun t hget howner => ?_, fun hget => ?_⟩
  all_goals
    unfold GetTaskStatusTool.execute
    by_cases hu : (context.userId.getD .none).truthy
    · simp only [hu, Bool.not_true, Bool.false_eq_true, if_false, if_true, hplan,
        Providers.available_of_getPlan hget]
      first
        | rw [singleTask_foreign hget howner]
        | rw [singleTask_missing hget]
    · simp [hu]

/-- `task-1` of `user-2`, with a goal the requester must not learn. -/
def foreignTask : TaskSnapshot :=
  ⟨"task-1", "user-2", "Secret goal", .plain "executing", none, .error ⟨.other, "no percentage"⟩,
    none, none⟩

/-- A delegation service on which `task-1` belongs to `user-2`. -/
def foreignDelegation : DelegationService :=
  ⟨fun _ => .ok (some foreignTask), fun _ => .ok [], fun _ _ => .ok []⟩

/-- A delegation service that knows no task. -/
def emptyDelegation : DelegationService := ⟨fun _ => .ok none, fun _ => .ok [], fun _ _ => .ok []⟩

/-- `task-1` asked for by `user-1` through a delegation service, once where `user-2` owns it
and once where there is no such task; the getters cannot build a provider. -/
theorem execute_task_lookup_sample :
    let ask : GetTaskStatusArgs := ⟨some "task-1", none, none, none⟩
    let world : GetTaskStatusWorld := ⟨.error ⟨.other, "unused"⟩, .error ⟨.other, "unused"⟩⟩
    let foreign : GetTaskStatusContext := ⟨some (.str "user-1"), some foreignDelegation, none, none⟩
    let missing : GetTaskStatusContext := ⟨some (.str "user-1"), some emptyDelegation, none, none⟩
    GetTaskStatusTool.requestedPlan ask = some "task-1" ∧
    (resolveProviders world foreign (GetTaskStatusTool.includeCheckpoints ask)).getPlan "task-1" =
      .ok (some foreignTask) ∧
    (PyVal.str "user-1").eqStr foreignTask.userId = false ∧
    GetTaskStatusTool.execute world ask foreign = .failure "Access denied to this task" ∧
    (resolveProviders world missing (GetTaskStatusTool.includeCheckpoints ask)).getPlan "task-1" =
      .ok none ∧
    GetTaskStatusTool.execute world ask missing = .failure "Task not found: task-1" :=
  have hforeign := (execute_task_lookup ⟨.error ⟨.other, "unused"⟩, .error ⟨.other, "unused"⟩⟩
    ⟨some "task-1", none, none, none⟩ ⟨some (.str "user-1"), some foreignDelegation, none, none⟩
    "task-1" rfl).1 foreignTask rfl rfl
  have hmissing := (execute_task_lookup ⟨.error ⟨.other, "unused"⟩, .error ⟨.other, "unused"⟩⟩
    ⟨some "task-1", none, none, none⟩ ⟨some (.str "user-1"), some emptyDelegation, none, none⟩
    "task-1" rfl).2 rfl
  ⟨rfl, rfl, rfl, hforeign.trans (if_pos rfl), rfl, hmissing.trans (if_pos rfl)⟩

/-- The answer reveals whether the task exists: asked for `task-1`, a requester gets
`Access denied to this task` when another user owns it and `Task not found: task-1`
when there is no such task. -/
theorem foreign_task_distinguished :
    GetTaskStatusTool.execute ⟨.error ⟨.other, "unused"⟩, .error ⟨.other, "unused"⟩⟩
        ⟨some "task-1", none, none, none⟩
        ⟨some (.str "user-1"), some foreignDelegation, none, none⟩ ≠
      GetTaskStatusTool.execute ⟨.error ⟨.other, "unused"⟩, .error ⟨.other, "unused"⟩⟩
        ⟨some "task-1", none, none, none⟩
        ⟨some (.str "user-1"), some emptyDelegation, none, none⟩ := by
  intro h
  have := congrArg ToolResult.error h
  revert this
  decide

/-! ## Checkpoints the spec describes format -/

open GetTaskStatusTool

/-- `_format_checkpoint` returns on every checkpoint with the attributes §2 gives one. -/
theorem formatCheckpoint_isOk {c : CheckpointSnapshot} (hc : c.HasRecordFields) :
    ∃ f, formatCheckpoint c = .ok f := by
  obtain ⟨hs, hn, hd, hp, hcr, he⟩ := hc
  rw [Option.isSome_iff_exists] at hs hn hd hp hcr he
  obtain ⟨⟨_, hs⟩, ⟨_, hn⟩, ⟨_, hd⟩, ⟨_, hp⟩, ⟨_, hcr⟩, ⟨_, he⟩⟩ :=
    And.intro hs (And.intro hn (And.intro hd (And.intro hp (And.intro hcr he))))
  exact ⟨_, by simp only [formatCheckpoint, hs, hn, hd, hp, hcr, he, attr_some]; rfl⟩

theorem mapM_formatCheckpoint_isOk {C : List CheckpointSnapshot}
    (hC : ∀ c ∈ C, c.HasRecordFields) : ∃ F, C.mapM formatCheckpoint = .ok F := by
  induction C with
  | nil => exact ⟨[], rfl⟩
  | cons c C ih =>
    obtain ⟨f, hf⟩ := formatCheckpoint_isOk (hC c (List.mem_cons_self c C))
    obtain ⟨F, hF⟩ := ih fun c' h => hC c' (List.mem_cons_of_mem c h)
    exact ⟨f :: F, by simp only [List.mapM_cons, hf, hF]; rfl⟩

/-! ## Listing mode -/

section Listing

variable {providers : Providers} {userId limit : PyVal} {includeCompleted includeCheckpoints : Bool}
  {L : List TaskSnapshot} {C : List CheckpointSnapshot} {F : List FormattedCheckpoint}

/-- A listing call that returned went through an available provider. -/
theorem Providers.available_of_listPlans (h : providers.listPlans userId limit = .ok L) :
    (providers.delegationService.isNone && providers.taskUseCases.isNone) = false := by
  unfold Providers.listPlans at h
  split at h <;> simp_all

/-- Listing mode once the listing call, the checkpoint call (when made) and the
formatting of its checkpoints have returned. -/
theorem listing_eq (hL : providers.listPlans userId limit = .ok L)
    (hC : includeCheckpoints = true → providers.pendingCheckpoints userId = .ok C)
    (hF : C.mapM formatCheckpoint = .ok F) :
    let active := L.filter fun p => statusValue p.status ∈ activeStatusValues
    let completed := (L.filter fun p => statusValue p.status ∈ terminalStatusValues).take 5
    listing providers userId limit includeCompleted includeCheckpoints =
      .ok ⟨true, some (.listing
        { activeTasks := active.map formatPlan
          activeCount := active.length
          completedTasks := if includeCompleted then some (completed.map formatPlan) else none
          completedCount := if includeCompleted then some completed.length else none
          pendingCheckpoints := if includeCheckpoints then some F else none
          checkpointCount := if includeCheckpoints then some F.length else none }),
        some (summaryMessage active.length (if includeCheckpoints then F.length else 0)
          (if includeCompleted then completed.length else 0)), none⟩ := by
  cases includeCheckpoints <;> cases includeCompleted <;>
    simp only [listing, bind, Except.bind, hL, hC, hF, Bool.false_eq_true, ↓reduceIte, pure,
      Except.pure, List.map_take, List.length_take, List.length_nil]

end Listing

/-- Listing mode, once the listing call has returned `L` and, when checkpoints are asked
for, the checkpoint call has returned `C`, checkpoints as §2 describes them: the active
tasks in `L`'s order, the first five finished ones on request, every checkpoint of `C`
on request, and the summary line built from the three counts. No task is both active
and finished, and a task with any other status is in neither list. -/
theorem execute_listing (world : GetTaskStatusWorld) (args : GetTaskStatusArgs)
    (context : GetTaskStatusContext) (L : List TaskSnapshot) (C : List CheckpointSnapshot)
    (hplan : requestedPlan args = none)
    (hL : (resolveProviders world context (includeCheckpoints args)).listPlans
      (context.userId.getD .none) (args.limit.getD (.int 10)) = .ok L)
    (hC : includeCheckpoints args = true →
      (resolveProviders world context (includeCheckpoints args)).pendingCheckpoints
        (context.userId.getD .none) = .ok C)
    (hfields : ∀ c ∈ C, c.HasRecordFields) :
    let active := L.filter fun p =>
      statusValue p.status ∈ ["planning", "ready", "executing", "checkpoint"]
    let finished := L.filter fun p => statusValue p.status ∈ ["completed", "failed", "cancelled"]
    let includeCompleted := (args.includeCompleted.getD (.bool false)).truthy
    active.Disjoint finished ∧
    ∃ F, C.mapM formatCheckpoint = .ok F ∧
      execute world args context =
        if (context.userId.getD .none).truthy then
          ⟨true, some (.listing
            { activeTasks := active.map formatPlan
              activeCount := active.length
              completedTasks :=
                if includeCompleted then some ((finished.take 5).map formatPlan) else none
              completedCount := if includeCompleted then some (finished.take 5).length else none
              pendingCheckpoints := if includeCheckpoints args then some F else none
              checkpointCount := if includeCheckpoints args then some F.length else none }),
            some (summaryMessage active.length (if includeCheckpoints args then F.length else 0)
              (if includeCompleted then (finished.take 5).length else 0)), none⟩
        else .failure "User context not available" := by
  intro active finished includeCompleted
  refine ⟨fun p h1 h2 => ?_, ?_⟩
  · simp only [active, finished, List.mem_filter, decide_eq_true_eq] at h1 h2
    generalize statusValue p.status = s at h1 h2
    simp only [List.mem_cons, List.mem_singleton, List.not_mem_nil, or_false] at h1 h2
    rcases h1.2 with rfl | rfl | rfl | rfl <;> simp at h2
  · obtain ⟨F, hF⟩ := mapM_formatCheckpoint_isOk hfields
    refine ⟨F, hF, ?_⟩
    unfold execute
    by_cases hu : (context.userId.getD .none).truthy
    · simp only [hu, Bool.not_true, Bool.false_eq_true, if_false, if_true, hplan,
        Providers.available_of_listPlans hL, listing_eq hL hC hF]
      rfl
    · simp [hu]

/-- `task-1` of `user-1`, executing. -/
def sampleTask : TaskSnapshot :=
  ⟨"task-1", "user-1", "Write the report", TaskStatus.executing.raw, some [], .ok (.finite 0),
    none, none⟩

/-- `user-1`'s tasks: `task-1`, a completed one, and one whose status is no
`TaskStatus` value. -/
def sampleTasks : List TaskSnapshot :=
  [sampleTask,
    ⟨"task-2", "user-1", "Book the venue", TaskStatus.completed.raw, some [], .ok (.finite 100),
      none, none⟩,
    ⟨"task-3", "user-1", "Archive the logs", .plain "archived", none,
      .error ⟨.other, "no percentage"⟩, none, none⟩]

/-- A pending checkpoint of `task-1` in the `plan_id` schema, and one of `task-2` in the
`task_id` schema. -/
def sampleCheckpoints : List CheckpointSnapshot :=
  [⟨some (.str "task-1"), none, some (.str "step-1"), some (.str "approve"),
      some (.str "Approve the draft"), none, some (.dict []), none, none, some none, some none⟩,
    ⟨none, some (.str "task-2"), some .none, some (.str "confirm"),
      some (.str "Confirm the booking"), none, some .none, none, none, some none, some none⟩]

/-- A delegation service that finds `task-1` and returns the samples. -/
def sampleDelegation : DelegationService :=
  ⟨fun planId => .ok (if planId = "task-1" then some sampleTask else none),
    fun _ => .ok sampleCheckpoints, fun _ _ => .ok sampleTasks⟩

/-- `user-1` with the sample delegation service; the getters cannot build a provider. -/
def sampleStatusContext : GetTaskStatusContext :=
  ⟨some (.str "user-1"), some sampleDelegation, none, none⟩

def sampleStatusWorld : GetTaskStatusWorld :=
  ⟨.error ⟨.other, "unused"⟩, .error ⟨.other, "unused"⟩⟩

theorem execute_listing_sample :
    (requestedPlan ⟨none, some (.bool true), none, none⟩ = none ∧
      (resolveProviders sampleStatusWorld sampleStatusContext true).listPlans (.str "user-1")
        (.int 10) = .ok sampleTasks ∧
      (resolveProviders sampleStatusWorld sampleStatusContext true).pendingCheckpoints
        (.str "user-1") = .ok sampleCheckpoints ∧
      ∀ c ∈ sampleCheckpoints, c.HasRecordFields) ∧
    let active := sampleTasks.filter fun p =>
      statusValue p.status ∈ ["planning", "ready", "executing", "checkpoint"]
    let finished := sampleTasks.filter fun p =>
      statusValue p.status ∈ ["completed", "failed", "cancelled"]
    active.Disjoint finished ∧
    ∃ F, sampleCheckpoints.mapM formatCheckpoint = .ok F ∧
      execute sampleStatusWorld ⟨none, some (.bool true), none, none⟩ sampleStatusContext =
        if (PyVal.str "user-1").truthy then
          ⟨true, some (.listing
            { activeTasks := active.map formatPlan
              activeCount := active.length
              completedTasks := if true then some ((finished.take 5).map formatPlan) else none
              completedCount := if true then some (finished.take 5).length else none
              pendingCheckpoints := if true then some F else none
              checkpointCount := if true then some F.length else none }),
            some (summaryMessage active.length (if true then F.length else 0)
              (if true then (finished.take 5).length else 0)), none⟩
        else .failure "User context not available" :=
  ⟨⟨rfl, rfl, rfl, by decide⟩,
    execute_listing sampleStatusWorld ⟨none, some (.bool true), none, none⟩ sampleStatusContext
      sampleTasks sampleCheckpoints rfl rfl (fun _ => rfl) (by decide)⟩

/-! ## Single-task mode -/

section Owned

variable {providers : Providers} {userId : PyVal} {planId : String} {includeCheckpoints : Bool}
  {t : TaskSnapshot} {C : List CheckpointSnapshot} {F : List FormattedCheckpoint}

theorem isEmpty_filter_eq_not_any {α : Type} (p : α → Bool) (l : List α) :
    (l.filter p).isEmpty = !l.any p := by
  induction l with
  | nil => rfl
  | cons a l ih => cases h : p a <;> simp [List.filter_cons, h, ih]

/-- Single-task mode on a task the requester owns, once the checkpoint call (when made)
and the formatting of the task's own checkpoints have returned. -/
theorem singleTask_owned (hget : providers.getPlan planId = .ok (some t))
    (howner : userId.eqStr t.userId = true)
    (hC : includeCheckpoints = true → providers.checkpointsForPlan userId planId = .ok C)
    (hF : (C.filter fun c => (checkpointReference c).eqStr planId).mapM formatCheckpoint =
      .ok F) :
    singleTask providers userId planId includeCheckpoints =
      .ok ⟨true, some (.plan (formatPlan t)
          (if includeCheckpoints && C.any fun c => (checkpointReference c).eqStr planId
           then some F else none)),
        some s!"Task '{t.goal.take 50}...' is {statusValue t.status}", none⟩ := by
  cases includeCheckpoints
  · simp only [singleTask, bind, Except.bind, hget, howner, Bool.not_true, Bool.false_eq_true,
      ↓reduceIte, pure, Except.pure, Bool.false_and]
  · cases hany : C.any fun c => (checkpointReference c).eqStr planId <;>
      simp only [singleTask, bind, Except.bind, hget, howner, Bool.not_true, Bool.false_eq_true,
        ↓reduceIte, pure, Except.pure, hC, isEmpty_filter_eq_not_any, hany, hF, Bool.not_false,
        Bool.and_false, Bool.and_self, Functor.map, Except.map]

end Owned

/-- Single-task mode on a task the requester owns, once the checkpoint call (when made)
has returned `C`, checkpoints as §2 describes them: the formatted task, with the
checkpoints of `C` whose task reference (`plan_id`, else `task_id`) is the requested id,
in `C`'s order, attached exactly when checkpoints were asked for and there is one. -/
theorem execute_single_task (world : GetTaskStatusWorld) (args : GetTaskStatusArgs)
    (context : GetTaskStatusContext) (planId : String) (t : TaskSnapshot)
    (C : List CheckpointSnapshot) (hplan : requestedPlan args = some planId)
    (hget : (resolveProviders world context (includeCheckpoints args)).getPlan planId =
      .ok (some t))
    (howner : (context.userId.getD .none).eqStr t.userId = true)
    (hC : includeCheckpoints args = true →
      (resolveProviders world context (includeCheckpoints args)).checkpointsForPlan
        (context.userId.getD .none) planId = .ok C)
    (hfields : ∀ c ∈ C, c.HasRecordFields) :
    ∃ F, (C.filter fun c => (checkpointReference c).eqStr planId).mapM formatCheckpoint = .ok F ∧
      execute world args context =
        if (context.userId.getD .none).truthy then
          ⟨true, some (.plan (formatPlan t)
              (if includeCheckpoints args && C.any fun c => (checkpointReference c).eqStr planId
               then some F else none)),
            some s!"Task '{t.goal.take 50}...' is {statusValue t.status}", none⟩
        else .failure "User context not available" := by
  obtain ⟨F, hF⟩ := mapM_formatCheckpoint_isOk fun c hc => hfields c (List.mem_filter.mp hc).1
  refine ⟨F, hF, ?_⟩
  unfold execute
  by_cases hu : (context.userId.getD .none).truthy
  · simp only [hu, Bool.not_true, Bool.false_eq_true, if_false, if_true, hplan,
      Providers.available_of_getPlan hget, singleTask_owned hget howner hC hF]
  · simp [hu]

theorem execute_single_task_sample :
    (requestedPlan ⟨some "task-1", none, none, none⟩ = some "task-1" ∧
      (resolveProviders sampleStatusWorld sampleStatusContext true).getPlan "task-1" =
        .ok (some sampleTask) ∧
      (PyVal.str "user-1").eqStr sampleTask.userId = true ∧
      (resolveProviders sampleStatusWorld sampleStatusContext true).checkpointsForPlan
        (.str "user-1") "task-1" = .ok sampleCheckpoints ∧
      ∀ c ∈ sampleCheckpoints, c.HasRecordFields) ∧
    ∃ F, (sampleCheckpoints.filter fun c => (checkpointReference c).eqStr "task-1").mapM
        formatCheckpoint = .ok F ∧
      execute sampleStatusWorld ⟨some "task-1", none, none, none⟩ sampleStatusContext =
        if (PyVal.str "user-1").truthy then
          ⟨true, some (.plan (formatPlan sampleTask)
              (if true && sampleCheckpoints.any fun c => (checkpointReference c).eqStr "task-1"
               then some F else none)),
            some s!"Task '{sampleTask.goal.take 50}...' is {statusValue sampleTask.status}", none⟩
        else .failure "User context not available" :=
  ⟨⟨rfl, rfl, rfl, rfl, by decide⟩,
    execute_single_task sampleStatusWorld ⟨some "task-1", none, none, none⟩ sampleStatusContext
      "task-1" sampleTask sampleCheckpoints rfl rfl rfl (fun _ => rfl) (by decide)⟩

end Tentacle.FluxRuntime
