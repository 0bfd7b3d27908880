import Tentacle.Inbox.Wait

/-!
# `InboxCreateTaskTool.execute`

The tool creates a task, links it to the conversation, and then either answers at once
(`planning`) or waits for it and answers with what the wait saw. Its statements before
the `try` run unguarded; everything inside the `try` that raises becomes a
`Failed to create task: ...` result.

* `execute_success_data` — every successful result has one of six statuses, `planning`
  exactly when the caller did not wait, `running` exactly when the wait timed out, and
  the step summary exactly when the wait saw a snapshot. The pass-through branch that
  returns an arbitrary observed status is unreachable.
* `execute_getTask_calls` — a run makes no `get_task` call without waiting and at most
  `⌊max 0 MAX / p⌋ + 2` of them otherwise, and returns with that much fuel.
* `execute_after_link` — once the task is created and linked, the result is a success
  naming it, unless the wait saw `checkpoint` and the checkpoint lookup raised.
* `execute_raises_only_before_try` — `execute` raises only before its `try`: on a
  missing `goal`, an infinite `wait_timeout_seconds`, or file references forwarded into
  constraints that are not a `dict`.
* `execute_raises_before_try` — the last two do happen: on `1e400`, and on a list of
  constraints with file references, `execute` raises instead of returning a result.
-/

namespace Tentacle.Inbox

/-- `arguments` as `execute` reads them, each key `none` when absent. -/
structure CreateTaskArgs where
  goal : Option String
  constraints : Option PyVal
  waitForCompletion : Option PyVal
  waitTimeoutSeconds : Option PyVal

/-- `context` as `execute` reads it, each key `none` when absent. -/
structure CreateTaskContext where
  userId : Option PyVal
  organizationId : Option PyVal
  conversationId : Option PyVal
  fileReferences : Option PyVal

/-- What one `execute` meets outside its arguments: what `await _get_task_use_cases()`
and `await _get_checkpoint_use_cases()` give, and the clock of its wait. -/
structure CreateTaskWorld where
  taskUseCases : Except PyExc TaskUseCases
  checkpointUseCases : Except PyExc CheckpointUseCases
  clock : Clock

/-- The `data` dictionary of a result: `base_data` (`task_id`, `goal`, `timed_out`,
and the four summary keys when merged in), `status`, and the keys only some branches
set. A key is present when its field is `some`. -/
structure CreateTaskData where
  taskId : String
  goal : String
  timedOut : Bool
  summary : Option StepSummary
  status : String
  currentStatus : Option String
  waitTimeoutSeconds : Option Int
  checkpoint : Option (Option SerializedCheckpoint)

/-! ## Before the `try` -/

/-- The locals `execute` sets up before its `try`. -/
structure Prepared where
  goal : String
  constraints : PyVal
  waitForCompletion : Bool
  waitTimeoutSeconds : Int
  userId : PyVal
  organizationId : PyVal
  conversationId : PyVal

/-- Lines 215-217: forward the chat's file references into the constraints. -/
def forwardFileReferences (constraints fileReferences : PyVal) : Except PyExc PyVal :=
  if fileReferences.truthy then constraints.setItem "file_references" fileReferences
  else .ok constraints

/-- Lines 206-217: read the arguments and the context, and forward the file references
into the constraints. Nothing here is guarded: a missing `goal`, an `int()` that
overflows, or file references added to constraints that are not a `dict` raise out of
`execute`. -/
def prepare (settings : Settings) (args : CreateTaskArgs) (context : CreateTaskContext) :
    Except PyExc Prepared := do
  let goal ← match args.goal with
    | some goal => pure goal
    | none => throw ⟨.keyError, "goal"⟩
  let constraints := (args.constraints.getD .none).orElse (.dict [])
  let waitForCompletion := (args.waitForCompletion.getD (.bool true)).truthy
  let waitTimeoutSeconds ← resolveWaitTimeout settings args.waitTimeoutSeconds
  let userId := context.userId.getD .none
  let organizationId := context.organizationId.getD (.str "")
  let conversationId := context.conversationId.getD .none
  let constraints ← forwardFileReferences constraints (context.fileReferences.getD .none)
  return { goal, constraints, waitForCompletion, waitTimeoutSeconds, userId, organizationId,
           conversationId }

/-- The keyword arguments of the `create_task` call. -/
def Prepared.request (p : Prepared) : CreateTaskRequest :=
  { userId := p.userId
    organizationId := p.organizationId
    goal := p.goal
    constraints := p.constraints.orElse .none
    metadata := [("source", .str "inbox_chat"), ("conversation_id", p.conversationId)]
    autoStart := true }

/-! ## Inside the `try` -/

/-- Lines 226-242: resolve the use cases, create the task, link the conversation. -/
def createAndLink (world : CreateTaskWorld) (p : Prepared) :
    Except PyExc (TaskUseCases × CreatedTask) := do
  let taskUseCases ← world.taskUseCases
  let task ← taskUseCases.createTask p.request
  taskUseCases.linkConversation task.id p.conversationId
  return (taskUseCases, task)

/-- `_get_pending_checkpoint`: the first pending checkpoint of the task, serialized. -/
def getPendingCheckpoint (world : CreateTaskWorld) (taskId : String) :
    Except PyExc (Option SerializedCheckpoint) := do
  let checkpointUseCases ← world.checkpointUseCases
  let pending ← checkpointUseCases.listPendingForTask taskId
  match pending with
  | [] => return none
  | checkpoint :: _ => return some (← serializeCheckpoint checkpoint)

/-- `{**base_data, "status": status}` once the summary is merged into `base_data`. -/
def withStatus (task : CreatedTask) (goal : String) (summary : Option StepSummary)
    (status : String) : CreateTaskData :=
  ⟨task.id, goal, false, summary, status, none, none, none⟩

/-- Lines 266-321: the answer once the wait has returned. -/
def respond (world : CreateTaskWorld) (p : Prepared) (task : CreatedTask) (w : WaitResult) :
    Except PyExc (ToolResult CreateTaskData) :=
  let base := withStatus task p.goal (w.task.map summarizeTask)
  if w.timedOut then
    .ok ⟨true, some { base "running" with
        currentStatus := some w.status, timedOut := true,
        waitTimeoutSeconds := some p.waitTimeoutSeconds },
      some "Task started and is still running. Use get_task_status for updates.", none⟩
  else if w.status = "checkpoint" then
    (getPendingCheckpoint world task.id).map fun checkpointData =>
      ⟨true, some { base "checkpoint" with checkpoint := some checkpointData },
        some "Task is waiting for your checkpoint approval.", none⟩
  else if w.status ∈ ["completed", "failed", "cancelled"] then
    .ok ⟨true, some (base w.status), some s!"Task reached terminal status: {w.status}.", none⟩
  else
    .ok ⟨true, some (base w.status), some "Task created and started.", none⟩

/-- The `except Exception as e` handler. -/
def failedToCreate (e : PyExc) : ToolResult CreateTaskData :=
  .failure s!"Failed to create task: {e.message}"

/-- The `try` block's outcome once the handler has caught what it raised. -/
def catchFailure : Except PyExc (ToolResult CreateTaskData) → ToolResult CreateTaskData
  | .ok result => result
  | .error e => failedToCreate e

/-- Lines 250-258: the answer when the caller does not wait. -/
def planningResult (p : Prepared) (task : CreatedTask) : ToolResult CreateTaskData :=
  ⟨true, some (withStatus task p.goal none "planning"),
    some s!"Task created and planning started: {p.goal}", none⟩

/-! ## `execute` -/

/-- One run of `execute`: what it returned or raised, and the wait it ran. -/
structure CreateTaskRun where
  result : Except PyExc (ToolResult CreateTaskData)
  wait : Option WaitResult

/-- The number of `get_task` calls of a run. -/
def CreateTaskRun.getTaskCalls (run : CreateTaskRun) : Nat :=
  (run.wait.map (·.trace.length)).getD 0

/-- `InboxCreateTaskTool.execute`, with `fuel` for its wait: `none` only when the wait
runs out of fuel. -/
def InboxCreateTaskTool.execute (settings : Settings) (world : CreateTaskWorld)
    (args : CreateTaskArgs) (context : CreateTaskContext) (fuel : Nat) :
    Option CreateTaskRun :=
  match prepare settings args context with
  | .error e => some ⟨.error e, none⟩
  | .ok p =>
    if !p.userId.truthy || !p.conversationId.truthy then
      some ⟨.ok (.failure "Missing user_id or conversation_id in context"), none⟩
    else
      match createAndLink world p with
      | .error e => some ⟨.ok (failedToCreate e), none⟩
      | .ok (taskUseCases, task) =>
        if !p.waitForCompletion then some ⟨.ok (planningResult p task), none⟩
        else
          (waitForTerminalStatus settings world.clock taskUseCases task.id
              p.waitTimeoutSeconds fuel).map fun w =>
            ⟨.ok (catchFailure (respond world p task w)), some w⟩

/-! ## What a run can do -/

section Inversion

variable {settings : Settings} {world : CreateTaskWorld} {args : CreateTaskArgs}
  {context : CreateTaskContext}

theorem prepare_ok {p : Prepared} (h : prepare settings args context = .ok p) :
    args.goal = some p.goal ∧
      p.waitForCompletion = (args.waitForCompletion.getD (.bool true)).truthy ∧
      resolveWaitTimeout settings args.waitTimeoutSeconds = .ok p.waitTimeoutSeconds ∧
      p.userId = context.userId.getD .none ∧
      p.conversationId = context.conversationId.getD .none := by
  unfold prepare at h
  cases hg : args.goal <;> cases hr : resolveWaitTimeout settings args.waitTimeoutSeconds <;>
    cases hf : forwardFileReferences ((args.constraints.getD .none).orElse (.dict []))
      (context.fileReferences.getD .none) <;>
    simp only [hg, hr, hf, bind, Except.bind, pure, Except.pure, throw, throwThe,
      MonadExceptOf.throw] at h <;> cases h; simp

/-- `prepare` raises only on a missing `goal`, in `_resolve_wait_timeout`, or when
forwarding the file references. -/
theorem prepare_error {e : PyExc} (h : prepare settings args context = .error e) :
    args.goal = none ∨ resolveWaitTimeout settings args.waitTimeoutSeconds = .error e ∨
      forwardFileReferences ((args.constraints.getD .none).orElse (.dict []))
        (context.fileReferences.getD .none) = .error e := by
  unfold prepare at h
  cases hg : args.goal <;> cases hr : resolveWaitTimeout settings args.waitTimeoutSeconds <;>
    cases hf : forwardFileReferences ((args.constraints.getD .none).orElse (.dict []))
      (context.fileReferences.getD .none) <;>
    simp only [hg, hr, hf, bind, Except.bind, pure, Except.pure, throw, throwThe,
      MonadExceptOf.throw] at h <;> cases h <;> simp

/-- The five ways a run ends: raised before the `try`, the missing-context failure, a
failed creation or link, the answer without waiting, and the answer after a wait. -/
theorem execute_cases {fuel : Nat} {run : CreateTaskRun}
    (h : InboxCreateTaskTool.execute settings world args context fuel = some run) :
    (∃ e, prepare settings args context = .error e ∧ run = ⟨.error e, none⟩) ∨
    (∃ p, prepare settings args context = .ok p ∧
      (!p.userId.truthy || !p.conversationId.truthy) = true ∧
      run = ⟨.ok (.failure "Missing user_id or conversation_id in context"), none⟩) ∨
    (∃ p e, prepare settings args context = .ok p ∧
      (!p.userId.truthy || !p.conversationId.truthy) = false ∧
      createAndLink world p = .error e ∧ run = ⟨.ok (failedToCreate e), none⟩) ∨
    (∃ p taskUseCases task, prepare settings args context = .ok p ∧
      (!p.userId.truthy || !p.conversationId.truthy) = false ∧
      createAndLink world p = .ok (taskUseCases, task) ∧ p.waitForCompletion = false ∧
      run = ⟨.ok (planningResult p task), none⟩) ∨
    (∃ p taskUseCases task w, prepare settings args context = .ok p ∧
      (!p.userId.truthy || !p.conversationId.truthy) = false ∧
      createAndLink world p = .ok (taskUseCases, task) ∧ p.waitForCompletion = true ∧
      waitForTerminalStatus settings world.clock taskUseCases task.id p.waitTimeoutSeconds
        fuel = some w ∧
      run = ⟨.ok (catchFailure (respond world p task w)), some w⟩) := by
  unfold InboxCreateTaskTool.execute at h
  split at h
  · rename_i e he
    cases h; exact .inl ⟨e, he, rfl⟩
  · rename_i p hp
    split at h
    · rename_i hctx
      cases h; exact .inr (.inl ⟨p, hp, hctx, rfl⟩)
    · rename_i hctx
      have hctx : (!p.userId.truthy || !p.conversationId.truthy) = false := by simpa using hctx
      split at h
      · rename_i e he
        cases h; exact .inr (.inr (.inl ⟨p, e, hp, hctx, he, rfl⟩))
      · rename_i taskUseCases task hcl
        split at h
        · rename_i hw
          cases h
          exact .inr (.inr (.inr (.inl ⟨p, taskUseCases, task, hp, hctx, hcl, by simpa using hw, rfl⟩)))
        · rename_i hw
          obtain ⟨w, hwait, rfl⟩ := Option.map_eq_some'.mp h
          exact .inr (.inr (.inr (.inr
            ⟨p, taskUseCases, task, w, hp, hctx, hcl, by simpa using hw, hwait, rfl⟩)))

end Inversion

section Respond

variable {world : CreateTaskWorld} {p : Prepared} {task : CreatedTask} {w : WaitResult}

/-- Every answer after a wait that stopped or timed out is a success naming the task
and carrying the summary of the wait's last snapshot: `running` with the observed status
when the wait timed out, else the stopping status itself. In particular the last branch,
which passes an arbitrary observed status through, is never taken. -/
theorem respond_ok (hw : w.Stopped ∨ w.TimedOut) {r : ToolResult CreateTaskData}
    (h : respond world p task w = .ok r) :
    r.success = true ∧ ∃ data, r.data = some data ∧ data.taskId = task.id ∧
      data.summary = w.task.map summarizeTask ∧
      ((w.timedOut = true ∧ data.timedOut = true ∧ data.status = "running" ∧
          data.currentStatus = some w.status) ∨
        (w.timedOut = false ∧ data.timedOut = false ∧ data.status = w.status ∧
          w.status ∈ terminalStatuses)) := by
  unfold respond at h
  split_ifs at h with hto hcp hterm
  · cases h; simp [withStatus, hto]
  · cases hg : getPendingCheckpoint world task.id <;> simp only [hg, Except.map] at h <;>
      cases h
    simp [withStatus, hto, hcp, terminalStatuses]
  · cases h
    have := WaitResult.status_mem_of_not_timedOut hw (by simpa using hto)
    simp [withStatus, hto, this]
  · have := WaitResult.status_mem_of_not_timedOut hw (by simpa using hto)
    simp only [terminalStatuses, List.mem_cons, List.mem_singleton, List.not_mem_nil,
      or_false] at this hterm
    exfalso
    rcases this with h | h | h | h
    exacts [hterm (.inl h), hterm (.inr (.inl h)), hterm (.inr (.inr h)), hcp h]

/-- The answer after a wait raises only in the checkpoint lookup. -/
theorem respond_error {e : PyExc} (h : respond world p task w = .error e) :
    w.timedOut = false ∧ w.status = "checkpoint" ∧ getPendingCheckpoint world task.id = .error e := by
  unfold respond at h
  split_ifs at h with hto hcp hterm
  · cases hg : getPendingCheckpoint world task.id <;> simp only [hg, Except.map] at h <;>
      cases h
    exact ⟨by simpa using hto, hcp, rfl⟩

end Respond

/-! ## A sample run

A chat asks for a task on `Research X` and waits for it. The backend creates `task-1`,
links it, and every poll sees it with one fixed status; the clock is exact. The
sample theorems below run `execute` on it. -/

/-- The sample backend: every poll sees `task-1` with `status`, at once. -/
def sampleTaskUseCases (status : String) : TaskUseCases where
  createTask _ := .ok ⟨"task-1"⟩
  linkConversation _ _ := .ok ()
  getTask _ _ _ :=
    ⟨.ok (some ⟨"task-1", "user-123", "Research X", .plain status, some [], .ok (.finite 0),
      none, none⟩), 0⟩

/-- A checkpoint backend with no pending checkpoints. -/
def sampleCheckpointUseCases : CheckpointUseCases := ⟨fun _ => .ok [], fun _ => .ok []⟩

/-- The sample world, with the given checkpoint provider. -/
def sampleWorld (status : String) (checkpointUseCases : Except PyExc CheckpointUseCases) :
    CreateTaskWorld :=
  ⟨.ok (sampleTaskUseCases status), checkpointUseCases, Clock.exact 0⟩

/-- The sample request: a goal and nothing else, so the tool waits, for 300 s. -/
def sampleArgs : CreateTaskArgs := ⟨some "Research X", none, none, none⟩

/-- The sample chat context. -/
def sampleContext : CreateTaskContext :=
  ⟨some (.str "user-123"), some (.str "org-123"), some (.str "conv-123"), none⟩

/-- Sample settings: 300 s by default, at most 600 s, polling every 2 s. -/
def sampleSettings : Settings := ⟨300, 600, 2⟩

/-! ## Successful results -/

/-- The shape of every successful result. Its status is one of six; it is `planning`
exactly when the caller did not wait; `timed_out` is set exactly when the status is
`running`, and then `current_status` is the status of the last snapshot the wait saw
(`planning` if none), never a stopping one; and the step summary is merged in exactly
when the wait saw a snapshot. Together these make the branch that passes an arbitrary
observed status through unreachable. -/
theorem execute_success_data {settings : Settings} {world : CreateTaskWorld}
    {args : CreateTaskArgs} {context : CreateTaskContext} {fuel : Nat} {run : CreateTaskRun}
    {result : ToolResult CreateTaskData}
    (h : InboxCreateTaskTool.execute settings world args context fuel = some run)
    (hres : run.result = .ok result) (hsuccess : result.success = true) :
    ∃ data, result.data = some data ∧
      data.status ∈ ["planning", "running", "checkpoint", "completed", "failed", "cancelled"] ∧
      (data.status = "planning" ↔ (args.waitForCompletion.getD (.bool true)).truthy = false) ∧
      (data.timedOut = true ↔ data.status = "running") ∧
      (data.timedOut = true → ∃ w, run.wait = some w ∧
        data.currentStatus = some (observedStatus (lastSnapshot w.trace)) ∧
        observedStatus (lastSnapshot w.trace) ∉ terminalStatuses) ∧
      (data.summary.isSome ↔ ∃ w, run.wait = some w ∧ ∃ e ∈ w.trace, e.2.snapshot.isSome) := by
  rcases execute_cases h with ⟨e, -, rfl⟩ | ⟨p, -, -, rfl⟩ | ⟨p, e, -, -, -, rfl⟩ |
    ⟨p, _, task, hp, -, -, hwait, rfl⟩ | ⟨p, _, task, w, hp, -, -, hwait, hw, rfl⟩
  · cases hres
  · cases hres; cases hsuccess
  · cases hres; cases hsuccess
  · -- no wait: `planning`
    cases hres
    have hwf := (prepare_ok hp).2.1
    refine ⟨_, rfl, by simp [withStatus], ?_, by simp [withStatus], by simp [withStatus], ?_⟩
    · simp [withStatus, ← hwf, hwait]
    · exact ⟨fun h => (by cases h), fun ⟨_, h, _⟩ => (by cases h)⟩
  · -- after a wait
    have hwf : (args.waitForCompletion.getD (.bool true)).truthy = true :=
      (prepare_ok hp).2.1 ▸ hwait
    have hwres := waitForTerminalStatus_result hw
    cases hr : respond world p task w with
    | error e =>
      simp only [hr, catchFailure, failedToCreate, Except.ok.injEq] at hres
      subst hres; cases hsuccess
    | ok r =>
      simp only [hr, catchFailure, Except.ok.injEq] at hres
      subst hres
      obtain ⟨-, data, hdata, -, hsum, hbranch⟩ := respond_ok hwres hr
      have hsummary : data.summary.isSome ↔ ∃ w', some w = some w' ∧
          ∃ e ∈ w'.trace, e.2.snapshot.isSome := by
        rw [hsum, Option.isSome_map', WaitResult.task_isSome hwres]
        exact ⟨fun h => ⟨w, rfl, h⟩, fun ⟨_, hw', h⟩ => by cases hw'; exact h⟩
      refine ⟨data, hdata, ?_⟩
      rcases hbranch with ⟨hto, hdto, hds, hdc⟩ | ⟨-, hdto, hds, hmem⟩
      · -- timed out: `running`, with the last observed status
        obtain ⟨hobs, hnt⟩ := WaitResult.status_of_timedOut hwres hto
        exact ⟨by simp [hds], by simp [hds, hwf], by simp [hdto, hds],
          fun _ => ⟨w, rfl, by rw [hdc, hobs], hobs ▸ hnt⟩, hsummary⟩
      · -- stopped: the stopping status itself
        simp only [terminalStatuses, List.mem_cons, List.mem_singleton, List.not_mem_nil,
          or_false] at hmem
        rw [hds]
        refine ⟨by rcases hmem with h | h | h | h <;> simp [h], ?_, ?_, by simp [hdto], hsummary⟩
        · rcases hmem with h | h | h | h <;> simp [h, hwf]
        · rcases hmem with h | h | h | h <;> simp [h, hdto]
/-- The sample run on a completed task succeeds, with the data described above. -/
theorem execute_success_data_sample :
    ∃ run result,
      (InboxCreateTaskTool.execute sampleSettings
          (sampleWorld "completed" (.ok sampleCheckpointUseCases)) sampleArgs sampleContext 1 =
          some run ∧
        run.result = .ok result ∧ result.success = true) ∧
      ∃ data, result.data = some data ∧
        data.status ∈ ["planning", "running", "checkpoint", "completed", "failed", "cancelled"] ∧
        (data.status = "planning" ↔
          (sampleArgs.waitForCompletion.getD (.bool true)).truthy = false) ∧
        (data.timedOut = true ↔ data.status = "running") ∧
        (data.timedOut = true → ∃ w, run.wait = some w ∧
          data.currentStatus = some (observedStatus (lastSnapshot w.trace)) ∧
          observedStatus (lastSnapshot w.trace) ∉ terminalStatuses) ∧
        (data.summary.isSome ↔ ∃ w, run.wait = some w ∧ ∃ e ∈ w.trace, e.2.snapshot.isSome) :=
  ⟨_, _, ⟨rfl, rfl, rfl⟩,
    @execute_success_data sampleSettings (sampleWorld "completed" (.ok sampleCheckpointUseCases))
      sampleArgs sampleContext 1 _ _ rfl rfl rfl⟩

/-! ## How many times a run polls -/

/-- `⌊max 0 MAX / p⌋ + 2`, with `MAX` the configured maximum wait. -/
def maxFetches (settings : Settings) : Nat :=
  ⌊((max 0 settings.waitMaxTimeoutSeconds : Int) : ℚ) / pollInterval settings⌋₊ + 2

/-- A resolved timeout never allows more calls than the configured maximum does. -/
theorem fetchBound_le_maxFetches {settings : Settings} {requested : Option PyVal} {t : Int}
    (h : resolveWaitTimeout settings requested = .ok t) :
    fetchBound settings t ≤ maxFetches settings := by
  obtain ⟨h0, hmax⟩ := resolveWaitTimeout_mem h
  unfold fetchBound maxFetches
  have hle : ((max 0 t : Int) : ℚ) ≤ ((max 0 settings.waitMaxTimeoutSeconds : Int) : ℚ) := by
    exact_mod_cast (by omega)
  have := Nat.floor_le_floor (div_le_div_of_nonneg_right hle (pollInterval_pos settings).le)
  omega

theorem createAndLink_ok {world : CreateTaskWorld} {p : Prepared} {taskUseCases : TaskUseCases}
    {task : CreatedTask} (h : createAndLink world p = .ok (taskUseCases, task)) :
    world.taskUseCases = .ok taskUseCases := by
  obtain ⟨u, hu, h⟩ := bind_eq_ok h
  obtain ⟨t, -, h⟩ := bind_eq_ok h
  obtain ⟨-, -, h⟩ := bind_eq_ok h
  cases h; exact hu

/-- A run makes no `get_task` call when the caller does not wait, and at most
`⌊max 0 MAX / p⌋ + 2` of them otherwise, with `p` the floored poll interval: the
resolved timeout lies in `[0, max 0 MAX]`, and the wait stops within that many passes
under a clock that never goes back, sleeps at least as long as asked, and fetches that
complete. With that much fuel every run returns. -/
theorem execute_getTask_calls (settings : Settings) (world : CreateTaskWorld)
    (args : CreateTaskArgs) (context : CreateTaskContext)
    (hlat : ∀ taskUseCases, world.taskUseCases = .ok taskUseCases →
      ∀ id n c, 0 ≤ (taskUseCases.getTask id n c).latency)
    (hdrift : ∀ n, 0 ≤ world.clock.drift n) (hover : ∀ n, 0 ≤ world.clock.overshoot n) :
    (∃ run, InboxCreateTaskTool.execute settings world args context (maxFetches settings) =
      some run) ∧
    ∀ fuel run, InboxCreateTaskTool.execute settings world args context fuel = some run →
      run.getTaskCalls ≤ maxFetches settings ∧
      ((args.waitForCompletion.getD (.bool true)).truthy = false → run.getTaskCalls = 0) := by
  refine ⟨?_, fun fuel run h => ?_⟩
  · unfold InboxCreateTaskTool.execute
    split
    · exact ⟨_, rfl⟩
    · rename_i p hp
      split
      · exact ⟨_, rfl⟩
      · split
        · exact ⟨_, rfl⟩
        · rename_i taskUseCases task hcl
          split
          · exact ⟨_, rfl⟩
          · obtain ⟨r, hr, -⟩ := @waitForTerminalStatus_terminates settings world.clock
              taskUseCases task.id p.waitTimeoutSeconds (hlat _ (createAndLink_ok hcl) task.id)
              hdrift hover
            unfold waitForTerminalStatus at hr ⊢
            rw [waitLoop_fuel_mono hr (fetchBound_le_maxFetches (prepare_ok hp).2.2.1)]
            exact ⟨_, rfl⟩
  · rcases execute_cases h with ⟨e, -, rfl⟩ | ⟨p, -, -, rfl⟩ | ⟨p, e, -, -, -, rfl⟩ |
      ⟨p, _, task, -, -, -, -, rfl⟩ | ⟨p, taskUseCases, task, w, hp, -, hcl, hwait, hw, rfl⟩
    all_goals try exact ⟨Nat.zero_le _, fun _ => rfl⟩
    refine ⟨?_, fun hf => ?_⟩
    · exact (waitForTerminalStatus_trace_le (hlat _ (createAndLink_ok hcl) task.id) hdrift hover
        hw).trans (fetchBound_le_maxFetches (prepare_ok hp).2.2.1)
    · rw [(prepare_ok hp).2.1, hf] at hwait; cases hwait

/-- The sample world's polls take no time and its clock is exact, so `execute` returns
on it with `maxFetches` fuel, after at most that many polls. -/
theorem execute_getTask_calls_sample :
    ((∀ taskUseCases, (sampleWorld "completed" (.error ⟨.other, "unused"⟩)).taskUseCases =
        .ok taskUseCases → ∀ id n c, 0 ≤ (taskUseCases.getTask id n c).latency) ∧
      (∀ n, 0 ≤ (sampleWorld "completed" (.error ⟨.other, "unused"⟩)).clock.drift n) ∧
      ∀ n, 0 ≤ (sampleWorld "completed" (.error ⟨.other, "unused"⟩)).clock.overshoot n) ∧
    (∃ run, InboxCreateTaskTool.execute sampleSettings
        (sampleWorld "completed" (.error ⟨.other, "unused"⟩)) sampleArgs sampleContext
        (maxFetches sampleSettings) = some run) ∧
    ∀ fuel run, InboxCreateTaskTool.execute sampleSettings
        (sampleWorld "completed" (.error ⟨.other, "unused"⟩)) sampleArgs sampleContext fuel =
        some run →
      run.getTaskCalls ≤ maxFetches sampleSettings ∧
      ((sampleArgs.waitForCompletion.getD (.bool true)).truthy = false →
        run.getTaskCalls = 0) :=
  have hlat : ∀ taskUseCases,
      (sampleWorld "completed" (.error ⟨.other, "unused"⟩)).taskUseCases = .ok taskUseCases →
      ∀ id n c, 0 ≤ (taskUseCases.getTask id n c).latency := by
    rintro _ ⟨⟩ _ _ _
    exact le_refl (0 : ℚ)
  ⟨⟨hlat, fun _ => le_refl (0 : ℚ), fun _ => le_refl (0 : ℚ)⟩,
    execute_getTask_calls _ _ _ _ hlat (fun _ => le_refl (0 : ℚ)) (fun _ => le_refl (0 : ℚ))⟩

/-! ## After the task is linked -/

/-- Once `create_task` has returned a task and `link_conversation` has returned, the
result is a success whose data names the task, whatever the poll fetches returned or
raised, unless the wait saw `checkpoint` and the checkpoint lookup raised (building the
checkpoint provider, listing the task's pending checkpoints, or serializing the first);
that exception is caught by the outer handler and reported as a failed creation. -/
theorem execute_after_link {settings : Settings} {world : CreateTaskWorld}
    {args : CreateTaskArgs} {context : CreateTaskContext} {fuel : Nat} {run : CreateTaskRun}
    {p : Prepared} {taskUseCases : TaskUseCases} {task : CreatedTask}
    (hp : prepare settings args context = .ok p) (huser : p.userId.truthy = true)
    (hconv : p.conversationId.truthy = true) (hucs : world.taskUseCases = .ok taskUseCases)
    (hcreate : taskUseCases.createTask p.request = .ok task)
    (hlink : taskUseCases.linkConversation task.id p.conversationId = .ok ())
    (h : InboxCreateTaskTool.execute settings world args context fuel = some run) :
    (∃ result data, run.result = .ok result ∧ result.success = true ∧
      result.data = some data ∧ data.taskId = task.id) ∨
    (∃ w e, run.wait = some w ∧ w.timedOut = false ∧ w.status = "checkpoint" ∧
      getPendingCheckpoint world task.id = .error e ∧ run.result = .ok (failedToCreate e)) := by
  have hcl : createAndLink world p = .ok (taskUseCases, task) := by
    simp [createAndLink, hucs, hcreate, hlink, bind, Except.bind, pure, Except.pure]
  rcases execute_cases h with ⟨e, he, -⟩ | ⟨p', hp', hctx, -⟩ | ⟨p', e, hp', -, hcl', -⟩ |
    ⟨p', _, task', hp', -, hcl', -, rfl⟩ | ⟨p', _, task', w, hp', -, hcl', -, hw, rfl⟩
  all_goals first | (rw [hp] at he; cases he) | (rw [hp] at hp'; cases hp')
  · simp [huser, hconv] at hctx
  · rw [hcl] at hcl'; cases hcl'
  · rw [hcl] at hcl'; cases hcl'
    exact .inl ⟨_, _, rfl, rfl, rfl, rfl⟩
  · rw [hcl] at hcl'; cases hcl'
    cases hr : respond world p task w with
    | ok r =>
      obtain ⟨hsucc, data, hdata, htask, -⟩ := respond_ok (waitForTerminalStatus_result hw) hr
      exact .inl ⟨r, data, by simp [catchFailure, hr], hsucc, hdata, htask⟩
    | error e =>
      obtain ⟨hto, hst, hg⟩ := respond_error hr
      exact .inr ⟨w, e, rfl, hto, hst, hg, by simp [catchFailure, hr]⟩

/-- In the sample run on a completed task, creation and linking return normally, and the
result is a success for `task-1`. -/
theorem execute_after_link_sample :
    ∃ run,
      (prepare sampleSettings sampleArgs sampleContext =
          .ok ⟨"Research X", .dict [], true, 300, .str "user-123", .str "org-123",
            .str "conv-123"⟩ ∧
        (PyVal.str "user-123").truthy = true ∧ (PyVal.str "conv-123").truthy = true ∧
        (sampleWorld "completed" (.error ⟨.other, "unused"⟩)).taskUseCases =
          .ok (sampleTaskUseCases "completed") ∧
        (sampleTaskUseCases "completed").createTask
            (Prepared.request ⟨"Research X", .dict [], true, 300, .str "user-123",
              .str "org-123", .str "conv-123"⟩) = .ok ⟨"task-1"⟩ ∧
        (sampleTaskUseCases "completed").linkConversation "task-1" (.str "conv-123") =
          .ok () ∧
        InboxCreateTaskTool.execute sampleSettings
            (sampleWorld "completed" (.error ⟨.other, "unused"⟩)) sampleArgs sampleContext 1 =
          some run) ∧
      ((∃ result data, run.result = .ok result ∧ result.success = true ∧
          result.data = some data ∧ data.taskId = "task-1") ∨
        (∃ w e, run.wait = some w ∧ w.timedOut = false ∧ w.status = "checkpoint" ∧
          getPendingCheckpoint (sampleWorld "completed" (.error ⟨.other, "unused"⟩)) "task-1" =
            .error e ∧ run.result = .ok (failedToCreate e))) :=
  ⟨_, ⟨rfl, rfl, rfl, rfl, rfl, rfl, rfl⟩,
    @execute_after_link sampleSettings (sampleWorld "completed" (.error ⟨.other, "unused"⟩))
      sampleArgs sampleContext 1 _ _ _ _ rfl rfl rfl rfl rfl rfl rfl⟩

/-- A task that was created and linked is reported as a failed creation when its wait ends
at a checkpoint and the checkpoint provider cannot be built. -/
theorem execute_checkpoint_unavailable :
    ∃ p run, prepare sampleSettings sampleArgs sampleContext = .ok p ∧
      createAndLink (sampleWorld "checkpoint" (.error ⟨.other, "service unavailable"⟩)) p =
        .ok (sampleTaskUseCases "checkpoint", ⟨"task-1"⟩) ∧
      InboxCreateTaskTool.execute sampleSettings
          (sampleWorld "checkpoint" (.error ⟨.other, "service unavailable"⟩)) sampleArgs
          sampleContext 1 = some run ∧
      run.result = .ok (.failure "Failed to create task: service unavailable") :=
  ⟨_, _, rfl, rfl, rfl, rfl⟩

/-! ## Raising out of `execute` -/

/-- Forwarding file references raises only when there are some and the constraints are
not a `dict`. -/
theorem forwardFileReferences_error {constraints fileReferences : PyVal} {e : PyExc}
    (h : forwardFileReferences constraints fileReferences = .error e) :
    fileReferences.truthy = true ∧ ∀ entries, constraints ≠ .dict entries := by
  unfold forwardFileReferences at h
  split at h
  · refine ⟨‹_›, fun entries he => ?_⟩
    subst he
    obtain ⟨d, hd⟩ := PyVal.setItem_dict entries "file_references" fileReferences
    rw [hd] at h; cases h
  · cases h

/-- `execute` raises only before its `try`, and only three ways: `goal` is missing,
`wait_timeout_seconds` is an infinite float, or there are file references to forward and
the constraints are not a `dict`. Such a run never waits. -/
theorem execute_raises_only_before_try {settings : Settings} {world : CreateTaskWorld}
    {args : CreateTaskArgs} {context : CreateTaskContext} {fuel : Nat} {run : CreateTaskRun}
    {e : PyExc} (h : InboxCreateTaskTool.execute settings world args context fuel = some run)
    (he : run.result = .error e) :
    run.wait = none ∧
    (args.goal = none ∨
      (e.kind = .overflowError ∧ (args.waitTimeoutSeconds = some (PyVal.float .inf) ∨
        args.waitTimeoutSeconds = some (PyVal.float .negInf))) ∨
      ((context.fileReferences.getD .none).truthy = true ∧
        ∀ entries, (args.constraints.getD .none).orElse (.dict []) ≠ .dict entries)) := by
  rcases execute_cases h with ⟨e', hp, rfl⟩ | ⟨_, -, -, rfl⟩ | ⟨_, _, -, -, -, rfl⟩ |
    ⟨_, _, _, -, -, -, -, rfl⟩ | ⟨_, _, _, _, -, -, -, -, -, rfl⟩
  all_goals cases he
  refine ⟨rfl, ?_⟩
  rcases prepare_error hp with hg | hr | hf
  · exact .inl hg
  · exact .inr (.inl (resolveWaitTimeout_raises hr))
  · exact .inr (.inr (forwardFileReferences_error hf))

/-- A request whose `wait_timeout_seconds` is `1e400` raises out of `execute`. -/
theorem execute_raises_only_before_try_sample :
    ∃ run,
      (InboxCreateTaskTool.execute sampleSettings
          (sampleWorld "completed" (.error ⟨.other, "unused"⟩))
          ⟨some "Research X", none, none, some (.float .inf)⟩ sampleContext 0 = some run ∧
        run.result = .error ⟨.overflowError, "cannot convert float infinity to integer"⟩) ∧
      run.wait = none ∧
      ((some "Research X" : Option String) = none ∨
        ((⟨.overflowError, "cannot convert float infinity to integer"⟩ : PyExc).kind =
            .overflowError ∧
          (some (PyVal.float .inf) = some (PyVal.float .inf) ∨
            some (PyVal.float .inf) = some (PyVal.float .negInf))) ∨
        ((sampleContext.fileReferences.getD .none).truthy = true ∧
          ∀ entries, ((none : Option PyVal).getD .none).orElse (.dict []) ≠ .dict entries)) :=
  ⟨_, ⟨rfl, rfl⟩,
    @execute_raises_only_before_try sampleSettings
      (sampleWorld "completed" (.error ⟨.other, "unused"⟩)) ⟨some "Research X", none, none, some (.float .inf)⟩ sampleContext 0 _ _ rfl rfl⟩

/-- `int()` of an infinite `wait_timeout_seconds` (what `json.loads` makes of `1e400`)
raises `OverflowError`, which `_resolve_wait_timeout` does not catch; so do truthy file
references forwarded into constraints that are a list. Both happen before the `try`, so
`execute` raises instead of returning a result. -/
theorem execute_raises_before_try (settings : Settings) (world : CreateTaskWorld)
    (fuel : Nat) :
    InboxCreateTaskTool.execute settings world
        ⟨some "Research X", none, none, some (.float .inf)⟩
        ⟨some (.str "user-123"), some (.str "org-123"), some (.str "conv-123"), none⟩ fuel =
      some ⟨.error ⟨.overflowError, "cannot convert float infinity to integer"⟩, none⟩ ∧
    InboxCreateTaskTool.execute settings world
        ⟨some "Research X", some (.list [.int 1]), none, none⟩
        ⟨some (.str "user-123"), some (.str "org-123"), some (.str "conv-123"),
          some (.list [.str "file-1"])⟩ fuel =
      some ⟨.error ⟨.typeError, "list indices must be integers or slices, not str"⟩, none⟩ :=
  ⟨rfl, rfl⟩

end Tentacle.Inbox
