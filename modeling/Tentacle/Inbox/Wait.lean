import Tentacle.Inbox.Summary
import Mathlib.Data.List.Basic

/-!
# `_wait_for_terminal_status`: the bounded wait

The poll loop of `create_task.py`, run against an explicit clock. A run is determined by
three things outside the code: what each `get_task` call returns or raises and how long
it takes (`TaskUseCases.getTask`, which may depend on the call's index and on the clock
it is issued at), and how the clock moves between the deadline check and the
`remaining` read and during `asyncio.sleep` (`Clock`). All of them are arbitrary
rationals, so every sequence of clock readings is some `Clock`; the facts that need a
sane clock say so as hypotheses.

`while True` is iterated with fuel: `waitLoop` is `none` only when the fuel runs out.
The loop state carries a ghost trace of the calls made, each with the clock it was
issued at; the code never reads it.

* `waitForTerminalStatus_result` — every run that returns either stopped on the first
  fetched snapshot whose status is terminal or `checkpoint`, or timed out carrying the
  last snapshot fetched and its status (`planning` if there was none).
* `waitForTerminalStatus_terminates` — under a clock that never goes back and sleeps at
  least as long as asked, every run returns within `⌊max 0 T / p⌋ + 2` fetches.
* `waitForTerminalStatus_outcome` — the two together: the wait returns, in one of those two
  ways, and every call it made is a `get_task(task_id)` call.
* `waitForTerminalStatus_deadline` — with exact sleeps and instant clock reads, a run
  returns before `deadline + 0.01` plus its last fetch's latency; with instant fetches a
  timed-out run made its last fetch at or after the deadline.
-/

namespace Tentacle.Inbox

/-! ## The backend and the clock -/

/-- The keyword arguments of `task_use_cases.create_task(...)`. -/
structure CreateTaskRequest where
  userId : PyVal
  organizationId : PyVal
  goal : String
  constraints : PyVal
  metadata : List (String × PyVal)
  autoStart : Bool

/-- What `create_task` returns; the tool reads only its `id`. -/
structure CreatedTask where
  id : String

/-- What one `await task_use_cases.get_task(task_id)` did: its outcome, and how far the
clock moved while it ran. -/
structure Fetch where
  outcome : Except PyExc (Option TaskSnapshot)
  latency : ℚ

/-- Modelled from the spec: `TaskUseCases` (§6) as `create_task.py` calls it.
`getTask id n c` is the `n`-th `get_task(id)` call of one wait, issued at clock `c`. -/
structure TaskUseCases where
  createTask : CreateTaskRequest → Except PyExc CreatedTask
  linkConversation : String → PyVal → Except PyExc Unit
  getTask : String → Nat → ℚ → Fetch

/-- The clock of one wait: `monotonic()` when the deadline is set, and for pass `n` the
time between the deadline check and the `remaining` read, and how far
`asyncio.sleep(d)` overshoots `d`. -/
structure Clock where
  start : ℚ
  drift : Nat → ℚ
  overshoot : Nat → ℚ

/-! ## The loop -/

/-- `terminal_statuses`: the statuses that end the wait early. -/
def terminalStatuses : List String := ["completed", "failed", "cancelled", "checkpoint"]

/-- `poll_interval = max(0.2, float(settings.INBOX_CREATE_TASK_WAIT_POLL_INTERVAL_SECONDS))`. -/
def pollInterval (settings : Settings) : ℚ := max (1 / 5) settings.waitPollIntervalSeconds

/-- The task a fetch leaves in `task`: `None` when `get_task` raised. -/
def Fetch.snapshot (f : Fetch) : Option TaskSnapshot :=
  match f.outcome with
  | .ok task => task
  | .error _ => none

/-- The loop's variables between passes, and the ghost trace of its calls. -/
structure WaitState where
  clock : ℚ
  lastTask : Option TaskSnapshot
  lastStatus : String
  trace : List (ℚ × Fetch)

/-- `(task, status, timed_out)` as returned, with the clock at the `return` and the
ghost trace. -/
structure WaitResult where
  task : Option TaskSnapshot
  status : String
  timedOut : Bool
  clock : ℚ
  trace : List (ℚ × Fetch)

/-- The rest of a pass once the fetch did not stop it: the deadline check, then the
sleep of `min(poll_interval, max(0.01, remaining))`. -/
def checkDeadline (pollInterval deadline : ℚ) (clock : Clock) (n : Nat) (now : ℚ)
    (lastTask : Option TaskSnapshot) (lastStatus : String) (trace : List (ℚ × Fetch)) :
    WaitResult ⊕ WaitState :=
  if deadline ≤ now then .inl ⟨lastTask, lastStatus, true, now, trace⟩
  else
    let now := now + clock.drift n
    let remaining := deadline - now
    .inr ⟨now + min pollInterval (max (1 / 100) remaining) + clock.overshoot n,
      lastTask, lastStatus, trace⟩

/-- One pass of the `while True` body: `.inl` is a `return`, `.inr` the state after the
sleep. -/
def waitPass (pollInterval deadline : ℚ) (clock : Clock) (getTask : Nat → ℚ → Fetch)
    (s : WaitState) : WaitResult ⊕ WaitState :=
  let n := s.trace.length
  let f := getTask n s.clock
  let now := s.clock + f.latency
  let trace := s.trace ++ [(s.clock, f)]
  match f.snapshot with
  | some task =>
    let lastStatus := statusValue task.status
    if lastStatus ∈ terminalStatuses then .inl ⟨some task, lastStatus, false, now, trace⟩
    else checkDeadline pollInterval deadline clock n now (some task) lastStatus trace
  | none => checkDeadline pollInterval deadline clock n now s.lastTask s.lastStatus trace

/-- The `while True` loop, for at most `fuel` passes. -/
def waitLoop (pollInterval deadline : ℚ) (clock : Clock) (getTask : Nat → ℚ → Fetch) :
    Nat → WaitState → Option WaitResult
  | 0, _ => none
  | fuel + 1, s =>
    match waitPass pollInterval deadline clock getTask s with
    | .inl r => some r
    | .inr s' => waitLoop pollInterval deadline clock getTask fuel s'

/-- `_wait_for_terminal_status(task_use_cases, task_id, timeout_seconds)`. -/
def waitForTerminalStatus (settings : Settings) (clock : Clock) (taskUseCases : TaskUseCases)
    (taskId : String) (timeoutSeconds : Int) (fuel : Nat) : Option WaitResult :=
  waitLoop (pollInterval settings) (clock.start + (max 0 timeoutSeconds : Int)) clock
    (taskUseCases.getTask taskId) fuel ⟨clock.start, none, "planning", []⟩

/-! ## One pass

What a pass can do, said once: it makes exactly one call, then returns early on a
terminal snapshot, returns timed out past the deadline, or sleeps. -/

/-- A fetch stops the wait when it yields a snapshot with a status in `terminal_statuses`. -/
def Fetch.stops (f : Fetch) : Bool :=
  match f.snapshot with
  | some task => statusValue task.status ∈ terminalStatuses
  | none => false

/-- The `if task is not None` block: the loop variables after a fetch. -/
def WaitState.record (s : WaitState) (f : Fetch) : Option TaskSnapshot × String :=
  match f.snapshot with
  | some task => (some task, statusValue task.status)
  | none => (s.lastTask, s.lastStatus)

/-- The status the wait reports for a last snapshot: its own, or `planning` without one. -/
def observedStatus : Option TaskSnapshot → String
  | some task => statusValue task.status
  | none => "planning"

section Pass

variable {p d : ℚ} {clock : Clock} {getTask : Nat → ℚ → Fetch} {s : WaitState} {f : Fetch}

theorem checkDeadline_inl {n : Nat} {now : ℚ} {t : Option TaskSnapshot} {st : String}
    {tr : List (ℚ × Fetch)} {r : WaitResult}
    (h : checkDeadline p d clock n now t st tr = .inl r) :
    r = ⟨t, st, true, now, tr⟩ ∧ d ≤ now := by
  unfold checkDeadline at h
  split at h
  · cases h; exact ⟨rfl, ‹_›⟩
  · cases h

theorem checkDeadline_inr {n : Nat} {now : ℚ} {t : Option TaskSnapshot} {st : String}
    {tr : List (ℚ × Fetch)} {s' : WaitState}
    (h : checkDeadline p d clock n now t st tr = .inr s') :
    now < d ∧ s' = ⟨now + clock.drift n +
      min p (max (1 / 100) (d - (now + clock.drift n))) + clock.overshoot n, t, st, tr⟩ := by
  unfold checkDeadline at h
  split at h
  · cases h
  · cases h; exact ⟨lt_of_not_le ‹_›, rfl⟩

/-- A pass that returns: after one more call, either early on a stopping fetch, or timed
out at or past the deadline with the loop variables of `record`. -/
theorem waitPass_inl (hf : getTask s.trace.length s.clock = f) {r : WaitResult}
    (h : waitPass p d clock getTask s = .inl r) :
    r.trace = s.trace ++ [(s.clock, f)] ∧ r.clock = s.clock + f.latency ∧
      ((f.stops = true ∧ r.task = f.snapshot ∧ r.status = observedStatus f.snapshot ∧
          r.timedOut = false) ∨
        (f.stops = false ∧ d ≤ r.clock ∧ r.timedOut = true ∧
          (r.task, r.status) = s.record f)) := by
  unfold waitPass at h
  simp only [hf] at h
  unfold Fetch.stops WaitState.record
  split at h
  · rename_i task htask
    simp only [htask]
    split at h
    · cases h; simp_all [observedStatus]
    · obtain ⟨rfl, hd⟩ := checkDeadline_inl h
      simp_all
  · rename_i htask
    obtain ⟨rfl, hd⟩ := checkDeadline_inl h
    simp_all

/-- A pass that sleeps: after one more call that did not stop it, before the deadline. -/
theorem waitPass_inr (hf : getTask s.trace.length s.clock = f) {s' : WaitState}
    (h : waitPass p d clock getTask s = .inr s') :
    f.stops = false ∧ s.clock + f.latency < d ∧ s'.trace = s.trace ++ [(s.clock, f)] ∧
      (s'.lastTask, s'.lastStatus) = s.record f ∧
      s'.clock = s.clock + f.latency + clock.drift s.trace.length +
        min p (max (1 / 100) (d - (s.clock + f.latency + clock.drift s.trace.length))) +
        clock.overshoot s.trace.length := by
  unfold waitPass at h
  simp only [hf] at h
  unfold Fetch.stops WaitState.record
  split at h
  · split at h
    · cases h
    · obtain ⟨hd, rfl⟩ := checkDeadline_inr h
      exact ⟨decide_eq_false ‹_›, hd, rfl, rfl, rfl⟩
  · obtain ⟨hd, rfl⟩ := checkDeadline_inr h
    exact ⟨rfl, hd, rfl, rfl, rfl⟩

end Pass

/-! ## Runs

A run that returns passes through states each reached from the previous by a pass that
slept, and ends with a pass that returned. Every run lemma below is an invariant of the
sleeping passes plus a fact about the returning one. -/

/-- `s'` is reached from `s` by passes that sleep. -/
inductive WaitReach (p d : ℚ) (clock : Clock) (getTask : Nat → ℚ → Fetch) :
    WaitState → WaitState → Prop
  | refl (s : WaitState) : WaitReach p d clock getTask s s
  | pass {s s' s'' : WaitState} : waitPass p d clock getTask s = .inr s' →
      WaitReach p d clock getTask s' s'' → WaitReach p d clock getTask s s''

section Runs

variable {p d : ℚ} {clock : Clock} {getTask : Nat → ℚ → Fetch}

/-- A run that returns ends with a returning pass from a reachable state. -/
theorem waitLoop_some {fuel : Nat} {s : WaitState} {r : WaitResult}
    (h : waitLoop p d clock getTask fuel s = some r) :
    ∃ s₀, WaitReach p d clock getTask s s₀ ∧ waitPass p d clock getTask s₀ = .inl r := by
  induction fuel generalizing s with
  | zero => cases h
  | succ fuel ih =>
    unfold waitLoop at h
    split at h
    · rename_i r' hpass
      cases h
      exact ⟨s, .refl s, hpass⟩
    · rename_i s' hpass
      obtain ⟨s₀, hreach, hret⟩ := ih h
      exact ⟨s₀, .pass hpass hreach, hret⟩

/-- An invariant of sleeping passes holds of every reachable state. -/
theorem WaitReach.preserve (P : WaitState → Prop)
    (step : ∀ s s', P s → waitPass p d clock getTask s = .inr s' → P s')
    {s s₀ : WaitState} (h : WaitReach p d clock getTask s s₀) (hs : P s) : P s₀ := by
  induction h with
  | refl => exact hs
  | pass hpass _ ih => exact ih (step _ _ hs hpass)

/-- More fuel gives the same result. -/
theorem waitLoop_fuel_mono {n m : Nat} {s : WaitState} {r : WaitResult}
    (h : waitLoop p d clock getTask n s = some r) (hnm : n ≤ m) :
    waitLoop p d clock getTask m s = some r := by
  induction n generalizing m s with
  | zero => cases h
  | succ n ih =>
    obtain ⟨m, rfl⟩ : ∃ k, m = k + 1 := ⟨m - 1, by omega⟩
    unfold waitLoop at h ⊢
    split at h
    · exact h
    · exact ih h (by omega)

end Runs

/-! ## What a returned wait reports -/

/-- The snapshot of the last call that returned one. -/
def lastSnapshot (trace : List (ℚ × Fetch)) : Option TaskSnapshot :=
  trace.foldl (fun last e => e.2.snapshot <|> last) none

theorem lastSnapshot_append (trace : List (ℚ × Fetch)) (e : ℚ × Fetch) :
    lastSnapshot (trace ++ [e]) = (e.2.snapshot <|> lastSnapshot trace) := by
  simp [lastSnapshot, List.foldl_append]

/-- There is a last snapshot exactly when some call returned one. -/
theorem lastSnapshot_isSome (trace : List (ℚ × Fetch)) :
    (lastSnapshot trace).isSome ↔ ∃ e ∈ trace, e.2.snapshot.isSome := by
  induction trace using List.reverseRecOn with
  | nil => simp [lastSnapshot]
  | append_singleton trace e ih =>
    rw [lastSnapshot_append]
    cases h : e.2.snapshot with
    | some t => exact iff_of_true rfl ⟨e, by simp, by simp [h]⟩
    | none =>
      simp only [Option.none_orElse, ih, List.mem_append, List.mem_singleton, or_and_right,
        exists_or, exists_eq_left, h, Option.isSome_none, Bool.false_eq_true, and_false,
        or_false]

/-- Between passes: no call so far stopped the wait, the loop variables hold the last
snapshot fetched and its status (which is therefore not a stopping one), and each traced
call is a call of `getTask` at the clock it was issued at. -/
structure WaitState.Consistent (getTask : Nat → ℚ → Fetch) (s : WaitState) : Prop where
  no_stop : ∀ e ∈ s.trace, e.2.stops = false
  last_task : s.lastTask = lastSnapshot s.trace
  last_status : s.lastStatus = observedStatus s.lastTask
  status_not_terminal : s.lastStatus ∉ terminalStatuses
  recorded : ∀ e ∈ s.trace, ∃ i, e.2 = getTask i e.1

/-- The wait returned on the first call whose snapshot has a stopping status: that
snapshot, its status, not timed out. -/
def WaitResult.Stopped (r : WaitResult) : Prop :=
  ∃ pre c f t, r.trace = pre ++ [(c, f)] ∧ (∀ e ∈ pre, e.2.stops = false) ∧
    f.snapshot = some t ∧ statusValue t.status ∈ terminalStatuses ∧
    r.task = some t ∧ r.status = statusValue t.status ∧ r.timedOut = false

/-- The wait timed out with no stopping call, carrying the last snapshot fetched and its
status (`planning` without one), which is not a stopping status. -/
def WaitResult.TimedOut (r : WaitResult) : Prop :=
  (∀ e ∈ r.trace, e.2.stops = false) ∧ r.timedOut = true ∧
    r.task = lastSnapshot r.trace ∧ r.status = observedStatus r.task ∧
    r.status ∉ terminalStatuses

theorem WaitState.record_of_consistent {getTask : Nat → ℚ → Fetch} {s : WaitState}
    (hc : s.Consistent getTask) (f : Fetch) :
    s.record f = ((f.snapshot <|> s.lastTask), observedStatus (f.snapshot <|> s.lastTask)) := by
  unfold WaitState.record
  split <;> simp_all [observedStatus, hc.last_status]

/-- A stopping status never survives into the loop variables. -/
theorem WaitState.record_not_terminal {getTask : Nat → ℚ → Fetch} {s : WaitState}
    (hc : s.Consistent getTask) {f : Fetch} (hf : f.stops = false) :
    (s.record f).2 ∉ terminalStatuses := by
  unfold WaitState.record
  unfold Fetch.stops at hf
  split <;> simp_all [hc.status_not_terminal]

section Consistent

variable {p d : ℚ} {clock : Clock} {getTask : Nat → ℚ → Fetch}

theorem WaitState.consistent_init (c : ℚ) :
    WaitState.Consistent getTask ⟨c, none, "planning", []⟩ :=
  ⟨by simp, rfl, rfl, show "planning" ∉ terminalStatuses by decide, by simp⟩

theorem WaitState.Consistent.pass {s s' : WaitState} (hc : s.Consistent getTask)
    (h : waitPass p d clock getTask s = .inr s') : s'.Consistent getTask := by
  obtain ⟨hstop, -, htrace, hrec, -⟩ := waitPass_inr rfl h
  have hrec' := WaitState.record_of_consistent hc (getTask s.trace.length s.clock)
  have hnt := WaitState.record_not_terminal hc hstop
  rw [hrec'] at hrec hnt
  simp only [Prod.mk.injEq] at hrec
  refine ⟨?_, ?_, ?_, ?_, ?_⟩
  · simp only [htrace, List.mem_append, List.mem_singleton]
    rintro e (he | rfl)
    · exact hc.no_stop e he
    · exact hstop
  · rw [hrec.1, htrace, lastSnapshot_append, hc.last_task]
  · rw [hrec.1, hrec.2]
  · rwa [hrec.2]
  · simp only [htrace, List.mem_append, List.mem_singleton]
    rintro e (he | rfl)
    · exact hc.recorded e he
    · exact ⟨_, rfl⟩

/-- The returning pass from a consistent state stops on its call or times out. -/
theorem WaitState.Consistent.result {s : WaitState} {r : WaitResult}
    (hc : s.Consistent getTask) (h : waitPass p d clock getTask s = .inl r) :
    r.Stopped ∨ r.TimedOut := by
  obtain ⟨htrace, -, ⟨hstop, htask, hstatus, hto⟩ | ⟨hstop, -, hto, hrec⟩⟩ :=
    waitPass_inl rfl h
  · left
    unfold Fetch.stops at hstop
    split at hstop
    · rename_i t ht
      exact ⟨_, _, _, t, htrace, hc.no_stop, ht, by simpa using hstop, by rw [htask, ht],
        by rw [hstatus, ht, observedStatus], hto⟩
    · cases hstop
  · right
    have hnt := WaitState.record_not_terminal hc hstop
    rw [← hrec] at hnt
    rw [WaitState.record_of_consistent hc, Prod.mk.injEq] at hrec
    refine ⟨?_, hto, ?_, ?_, hnt⟩
    · simp only [htrace, List.mem_append, List.mem_singleton]
      rintro e (he | rfl)
      · exact hc.no_stop e he
      · exact hstop
    · rw [hrec.1, htrace, lastSnapshot_append, hc.last_task]
    · rw [hrec.1, hrec.2]

end Consistent

/-- Every wait that returns either stopped on the first call whose snapshot has a status
in `terminal_statuses` (making no call after it), or timed out with the last snapshot
fetched and its status, which is then never a stopping status. There is no third way
out: the loop catches every exception of `get_task`. -/
theorem waitForTerminalStatus_result {settings : Settings} {clock : Clock}
    {taskUseCases : TaskUseCases} {taskId : String} {timeoutSeconds : Int} {fuel : Nat}
    {r : WaitResult}
    (h : waitForTerminalStatus settings clock taskUseCases taskId timeoutSeconds fuel = some r) :
    r.Stopped ∨ r.TimedOut := by
  obtain ⟨s₀, hreach, hret⟩ := waitLoop_some h
  exact (hreach.preserve _ (fun _ _ hc hp => hc.pass hp) (WaitState.consistent_init _)).result
    hret

/-- Each call in a returned wait's trace is a call of `get_task(task_id)`. -/
theorem waitForTerminalStatus_recorded {settings : Settings} {clock : Clock}
    {taskUseCases : TaskUseCases} {taskId : String} {timeoutSeconds : Int} {fuel : Nat}
    {r : WaitResult}
    (h : waitForTerminalStatus settings clock taskUseCases taskId timeoutSeconds fuel = some r) :
    ∀ e ∈ r.trace, ∃ i, e.2 = taskUseCases.getTask taskId i e.1 := by
  obtain ⟨s₀, hreach, hret⟩ := waitLoop_some h
  have hc := hreach.preserve _ (fun _ _ hc hp => hc.pass hp)
    (@WaitState.consistent_init (taskUseCases.getTask taskId) clock.start)
  obtain ⟨htrace, -⟩ := waitPass_inl rfl hret
  simp only [htrace, List.mem_append, List.mem_singleton]
  rintro e (he | rfl)
  · exact hc.recorded e he
  · exact ⟨_, rfl⟩

/-! ## Reading a returned wait -/

section Outcome

variable {r : WaitResult}

theorem WaitResult.Stopped.timedOut_false (h : r.Stopped) : r.timedOut = false := by
  obtain ⟨_, _, _, _, -, -, -, -, -, -, hto⟩ := h; exact hto

/-- A wait that did not time out reports a stopping status. -/
theorem WaitResult.status_mem_of_not_timedOut (hw : r.Stopped ∨ r.TimedOut)
    (hto : r.timedOut = false) : r.status ∈ terminalStatuses := by
  rcases hw with ⟨_, _, _, t, -, -, -, hst, -, hs, -⟩ | ⟨-, hto', -⟩
  · rw [hs]; exact hst
  · simp [hto] at hto'

/-- A wait that timed out reports the last snapshot's status, never a stopping one. -/
theorem WaitResult.status_of_timedOut (hw : r.Stopped ∨ r.TimedOut) (hto : r.timedOut = true) :
    r.status = observedStatus (lastSnapshot r.trace) ∧ r.status ∉ terminalStatuses := by
  rcases hw with hs | ⟨-, -, htask, hst, hnt⟩
  · simp [hs.timedOut_false] at hto
  · exact ⟨by rw [hst, htask], hnt⟩

/-- A returned wait carries a task exactly when some call returned a snapshot. -/
theorem WaitResult.task_isSome (hw : r.Stopped ∨ r.TimedOut) :
    r.task.isSome ↔ ∃ e ∈ r.trace, e.2.snapshot.isSome := by
  rcases hw with ⟨pre, c, f, t, htrace, -, hf, -, htask, -⟩ | ⟨-, -, htask, -⟩
  · simp only [htask, Option.isSome_some, true_iff]
    exact ⟨(c, f), by simp [htrace], by simp [hf]⟩
  · rw [htask, lastSnapshot_isSome]

end Outcome

/-! ## Termination

The measure is the number of whole poll intervals left before the deadline. Under a
clock that never goes back and sleeps at least as long as asked, a pass that sleeps
either sleeps a full interval or sleeps past the deadline (the sleep is clamped below by
the time remaining), so the measure drops by one at every sleep. -/

/-- Whole poll intervals of length `p` left before deadline `d` at clock `c`. -/
def intervalsLeft (p d c : ℚ) : Nat := ⌈(d - c) / p⌉₊

/-- The bound on the number of calls: `⌊max 0 T / p⌋ + 2`. -/
def fetchBound (settings : Settings) (timeoutSeconds : Int) : Nat :=
  ⌊((max 0 timeoutSeconds : Int) : ℚ) / pollInterval settings⌋₊ + 2

theorem pollInterval_pos (settings : Settings) : 0 < pollInterval settings :=
  lt_of_lt_of_le (by norm_num) (le_max_left _ _)

theorem ceil_add_one_le {x y : ℚ} (hx : 0 < x) (h : y ≤ x - 1 ∨ y ≤ 0) :
    ⌈y⌉₊ + 1 ≤ ⌈x⌉₊ := by
  rw [Nat.add_one_le_iff, Nat.lt_ceil]
  by_cases hy : y ≤ 0
  · simp [Nat.ceil_eq_zero.mpr hy, hx]
  · have := Nat.ceil_lt_add_one (le_of_lt (not_le.mp hy))
    rcases h with h | h <;> linarith

section Termination

variable {p d : ℚ} {clock : Clock} {getTask : Nat → ℚ → Fetch}
  (hp : 0 < p) (hlat : ∀ n c, 0 ≤ (getTask n c).latency) (hdrift : ∀ n, 0 ≤ clock.drift n)
  (hover : ∀ n, 0 ≤ clock.overshoot n)
include hp hlat hdrift hover

/-- A sleeping pass uses up at least one interval. -/
theorem intervalsLeft_pass {s s' : WaitState} (h : waitPass p d clock getTask s = .inr s') :
    intervalsLeft p d s'.clock + 1 ≤ intervalsLeft p d s.clock := by
  obtain ⟨-, hlt, -, -, hclock⟩ := waitPass_inr rfl h
  have hl := hlat s.trace.length s.clock
  have hd := hdrift s.trace.length
  have ho := hover s.trace.length
  apply ceil_add_one_le (div_pos (by linarith only [hlt, hl]) hp)
  rcases le_total p (max (1 / 100) (d - (s.clock + (getTask s.trace.length s.clock).latency +
      clock.drift s.trace.length))) with hm | hm
  · -- a full interval
    left
    rw [min_eq_left hm] at hclock
    rw [div_sub_one hp.ne', div_le_div_iff_of_pos_right hp]
    linarith only [hclock, hl, hd, ho]
  · -- past the deadline
    right
    rw [min_eq_right hm] at hclock
    have := le_max_right (1 / 100 : ℚ)
      (d - (s.clock + (getTask s.trace.length s.clock).latency + clock.drift s.trace.length))
    exact div_nonpos_of_nonpos_of_nonneg (by linarith only [hclock, this, ho]) hp.le

/-- With more fuel than intervals left, the loop returns, after at most one call per
interval left plus one. -/
theorem waitLoop_terminates : ∀ (fuel : Nat) (s : WaitState), intervalsLeft p d s.clock < fuel →
    ∃ r, waitLoop p d clock getTask fuel s = some r ∧
      r.trace.length ≤ s.trace.length + intervalsLeft p d s.clock + 1
  | 0, _, h => absurd h (Nat.not_lt_zero _)
  | fuel + 1, s, h => by
    unfold waitLoop
    split
    · rename_i r hpass
      obtain ⟨htrace, -⟩ := waitPass_inl rfl hpass
      exact ⟨r, rfl, by simp [htrace]⟩
    · rename_i s' hpass
      have hm := intervalsLeft_pass hp hlat hdrift hover hpass
      obtain ⟨-, -, htrace, -⟩ := waitPass_inr rfl hpass
      obtain ⟨r, hr, hlen⟩ := waitLoop_terminates fuel s' (by omega)
      rw [htrace, List.length_append, List.length_singleton] at hlen
      exact ⟨r, hr, by omega⟩

end Termination

section WaitTermination

variable {settings : Settings} {clock : Clock} {taskUseCases : TaskUseCases} {taskId : String}
  {timeoutSeconds : Int}
  (hlat : ∀ n c, 0 ≤ (taskUseCases.getTask taskId n c).latency)
  (hdrift : ∀ n, 0 ≤ clock.drift n) (hover : ∀ n, 0 ≤ clock.overshoot n)
include hlat hdrift hover

/-- Under a clock that never goes back and sleeps at least as long as asked, the wait
returns within `⌊max 0 T / p⌋ + 2` passes, so after at most that many calls. -/
theorem waitForTerminalStatus_terminates :
    ∃ r, waitForTerminalStatus settings clock taskUseCases taskId timeoutSeconds
        (fetchBound settings timeoutSeconds) = some r ∧
      r.trace.length ≤ fetchBound settings timeoutSeconds := by
  have hm : intervalsLeft (pollInterval settings)
      (clock.start + ((max 0 timeoutSeconds : Int) : ℚ)) clock.start ≤
      ⌊((max 0 timeoutSeconds : Int) : ℚ) / pollInterval settings⌋₊ + 1 := by
    unfold intervalsLeft
    rw [add_sub_cancel_left]
    exact Nat.ceil_le_floor_add_one _
  obtain ⟨r, hr, hlen⟩ := @waitLoop_terminates (pollInterval settings)
    (clock.start + ((max 0 timeoutSeconds : Int) : ℚ)) clock (taskUseCases.getTask taskId)
    (pollInterval_pos settings) hlat hdrift hover (fetchBound settings timeoutSeconds)
    ⟨clock.start, none, "planning", []⟩
    (by show intervalsLeft _ _ clock.start < _; unfold fetchBound; omega)
  exact ⟨r, hr, by unfold fetchBound; simp only [List.length_nil] at hlen; omega⟩

/-- Whatever the fuel, a wait that returns made at most `⌊max 0 T / p⌋ + 2` calls. -/
theorem waitForTerminalStatus_trace_le {fuel : Nat} {r : WaitResult}
    (h : waitForTerminalStatus settings clock taskUseCases taskId timeoutSeconds fuel = some r) :
    r.trace.length ≤ fetchBound settings timeoutSeconds := by
  obtain ⟨r', hr', hlen⟩ := waitForTerminalStatus_terminates hlat hdrift hover
  have h₁ := waitLoop_fuel_mono h (le_max_left fuel (fetchBound settings timeoutSeconds))
  have h₂ := waitLoop_fuel_mono hr' (le_max_right fuel (fetchBound settings timeoutSeconds))
  unfold waitForTerminalStatus at h hr'
  rw [h₁] at h₂
  cases h₂
  exact hlen

end WaitTermination

/-- The wait never raises, and returns one of two ways: it stops on the first call whose
snapshot has a status in `terminal_statuses`, making no call after it, or it times out
carrying the last snapshot fetched and its status, never a stopping status. Every call it
made is a call of `get_task(task_id)`. Under a clock that never goes back and sleeps at least
as long as asked, it does return. -/
theorem waitForTerminalStatus_outcome (settings : Settings) (clock : Clock)
    (taskUseCases : TaskUseCases) (taskId : String) (timeoutSeconds : Int) :
    (∀ fuel r, waitForTerminalStatus settings clock taskUseCases taskId timeoutSeconds fuel =
        some r → (r.Stopped ∨ r.TimedOut) ∧
          ∀ e ∈ r.trace, ∃ i, e.2 = taskUseCases.getTask taskId i e.1) ∧
    ((∀ n c, 0 ≤ (taskUseCases.getTask taskId n c).latency) → (∀ n, 0 ≤ clock.drift n) →
      (∀ n, 0 ≤ clock.overshoot n) →
      ∃ r, waitForTerminalStatus settings clock taskUseCases taskId timeoutSeconds
          (fetchBound settings timeoutSeconds) = some r ∧ (r.Stopped ∨ r.TimedOut)) :=
  ⟨fun _ _ h => ⟨waitForTerminalStatus_result h, waitForTerminalStatus_recorded h⟩,
    fun hlat hdrift hover =>
      let ⟨r, hr, _⟩ := waitForTerminalStatus_terminates hlat hdrift hover
      ⟨r, hr, waitForTerminalStatus_result hr⟩⟩

/-! ## The deadline under an exact clock -/

/-- The clock of the deadline bound: clock reads take no time and `asyncio.sleep(d)`
advances the clock by exactly `d`. -/
def Clock.exact (start : ℚ) : Clock := ⟨start, fun _ => 0, fun _ => 0⟩

/-- Under the exact clock a sleeping pass wakes before `deadline + 0.01`: it sleeps at
most `max(0.01, remaining)`, from a clock before the deadline. -/
theorem exact_pass_clock_lt {p d start : ℚ} {getTask : Nat → ℚ → Fetch} {s s' : WaitState}
    (h : waitPass p d (Clock.exact start) getTask s = .inr s') : s'.clock < d + 1 / 100 := by
  obtain ⟨-, hlt, -, -, hclock⟩ := waitPass_inr rfl h
  simp only [Clock.exact, add_zero] at hclock
  generalize s.clock + (getTask s.trace.length s.clock).latency = now at hlt hclock
  have := min_le_right p (max (1 / 100) (d - now))
  rcases max_cases (1 / 100 : ℚ) (d - now) with ⟨hm, hm'⟩ | ⟨hm, hm'⟩ <;> linarith

/-- Under the exact clock every returned wait's last call was issued before
`deadline + 0.01`, and the wait returns when that call does; a timed-out wait returns at
or past the deadline. -/
theorem waitForTerminalStatus_exact_last {settings : Settings} {start : ℚ}
    {taskUseCases : TaskUseCases} {taskId : String} {timeoutSeconds : Int} {fuel : Nat}
    {r : WaitResult}
    (h : waitForTerminalStatus settings (Clock.exact start) taskUseCases taskId timeoutSeconds
      fuel = some r) :
    ∃ pre c f, r.trace = pre ++ [(c, f)] ∧ r.clock = c + f.latency ∧
      c < start + (max 0 timeoutSeconds : Int) + 1 / 100 ∧
      (r.timedOut = true → start + (max 0 timeoutSeconds : Int) ≤ r.clock) := by
  obtain ⟨s₀, hreach, hret⟩ := waitLoop_some h
  have hT : (0 : ℚ) ≤ ((max 0 timeoutSeconds : Int) : ℚ) := by exact_mod_cast le_max_left 0 _
  have hs₀ := hreach.preserve (fun s => s.clock < start + (max 0 timeoutSeconds : Int) + 1 / 100)
    (fun _ _ _ hp => exact_pass_clock_lt hp) (show start < _ by linarith)
  obtain ⟨htrace, hclock, ⟨-, -, -, hto⟩ | ⟨-, hd, -, -⟩⟩ := waitPass_inl rfl hret
  · exact ⟨_, _, _, htrace, hclock, hs₀, by simp [hto]⟩
  · exact ⟨_, _, _, htrace, hclock, hs₀, fun _ => hd⟩

/-- The overshoot bound, in the explicit-clock model (instant clock reads, exact
sleeps, each call taking its own latency). Every run returns before
`deadline + 0.01` plus the latency of its last call, so within `max 0 T`, one poll
interval and that latency of its start; a timed-out run whose last call took no time
made it at or after the deadline. Hence, with instant calls, a task whose status
becomes terminal (or `checkpoint`) before the deadline and stays so is reported
without a timeout. -/
theorem waitForTerminalStatus_deadline (settings : Settings) (start : ℚ)
    (taskUseCases : TaskUseCases) (taskId : String) (timeoutSeconds : Int) :
    (∀ fuel r, waitForTerminalStatus settings (Clock.exact start) taskUseCases taskId
        timeoutSeconds fuel = some r →
      ∃ pre c f, r.trace = pre ++ [(c, f)] ∧
        r.clock < start + (max 0 timeoutSeconds : Int) + 1 / 100 + f.latency ∧
        r.clock - start < (max 0 timeoutSeconds : Int) + pollInterval settings + f.latency ∧
        (f.latency = 0 → r.timedOut = true → start + (max 0 timeoutSeconds : Int) ≤ c)) ∧
    ((∀ n c, (taskUseCases.getTask taskId n c).latency = 0) →
      ∀ t₀ : ℚ, t₀ < start + (max 0 timeoutSeconds : Int) →
      (∀ n c, t₀ ≤ c → ∃ t, (taskUseCases.getTask taskId n c).outcome = .ok (some t) ∧
        statusValue t.status ∈ terminalStatuses) →
      ∃ r, waitForTerminalStatus settings (Clock.exact start) taskUseCases taskId
          timeoutSeconds (fetchBound settings timeoutSeconds) = some r ∧
        r.timedOut = false) := by
  have hp : (1 / 100 : ℚ) < pollInterval settings :=
    lt_of_lt_of_le (by norm_num) (le_max_left _ _)
  refine ⟨fun fuel r h => ?_, fun hlat t₀ ht₀ hterm => ?_⟩
  · obtain ⟨pre, c, f, htrace, hclock, hc, hto⟩ := waitForTerminalStatus_exact_last h
    refine ⟨pre, c, f, htrace, by linarith, by linarith, fun hl ht => ?_⟩
    have := hto ht
    rw [hclock, hl, add_zero] at this
    exact this
  · obtain ⟨r, hr, -⟩ := @waitForTerminalStatus_terminates settings (Clock.exact start)
      taskUseCases taskId timeoutSeconds (fun n c => (hlat n c).ge) (fun _ => le_refl (0 : ℚ))
      (fun _ => le_refl (0 : ℚ))
    refine ⟨r, hr, ?_⟩
    rcases waitForTerminalStatus_result hr with ⟨_, _, _, _, -, -, -, -, -, -, hto⟩ |
      ⟨hnostop, hto, -⟩
    · exact hto
    · -- a timed-out run's last call came at or past the deadline, when the status was stopping
      obtain ⟨pre, c, f, htrace, hclock, -, hd⟩ := waitForTerminalStatus_exact_last hr
      have hmem : (c, f) ∈ r.trace := by simp [htrace]
      obtain ⟨i, hf⟩ := waitForTerminalStatus_recorded hr (c, f) hmem
      have hf : f = taskUseCases.getTask taskId i c := hf
      have hl : f.latency = 0 := by rw [hf]; exact hlat i c
      obtain ⟨t, ht, hst⟩ := hterm i c (by have := hd hto; rw [hclock, hl] at this; linarith)
      have hstop := hnostop (c, f) hmem
      rw [hf] at hstop
      simp [Fetch.stops, Fetch.snapshot, ht, hst] at hstop

/-- A backend on which `task-1` is `running` until clock `1` and `completed` from then on,
each call answered at once. -/
def completesAtOne : TaskUseCases where
  createTask _ := .ok ⟨"task-1"⟩
  linkConversation _ _ := .ok ()
  getTask _ _ c :=
    ⟨.ok (some ⟨"task-1", "user-123", "Research X",
      .plain (if c < 1 then "running" else "completed"), some [], .ok (.finite 0), none, none⟩), 0⟩

theorem waitForTerminalStatus_deadline_completes :
    let settings : Settings := ⟨300, 600, 2⟩
    (∀ n c, (completesAtOne.getTask "task-1" n c).latency = 0) ∧
    (1 : ℚ) < 0 + ((max 0 (5 : Int) : Int) : ℚ) ∧
    (∀ n c, (1 : ℚ) ≤ c → ∃ t, (completesAtOne.getTask "task-1" n c).outcome = .ok (some t) ∧
      statusValue t.status ∈ terminalStatuses) ∧
    ∃ r, waitForTerminalStatus settings (Clock.exact 0) completesAtOne "task-1" 5
        (fetchBound settings 5) = some r ∧ r.timedOut = false :=
  have hlat : ∀ n c, (completesAtOne.getTask "task-1" n c).latency = 0 := fun _ _ => rfl
  have ht₀ : (1 : ℚ) < 0 + ((max 0 (5 : Int) : Int) : ℚ) := by norm_num
  have hterm : ∀ n c, (1 : ℚ) ≤ c → ∃ t, (completesAtOne.getTask "task-1" n c).outcome =
      .ok (some t) ∧ statusValue t.status ∈ terminalStatuses := fun _ c hc =>
    ⟨_, rfl, by rw [if_neg (not_lt.mpr hc)]; decide⟩
  ⟨hlat, ht₀, hterm,
    (waitForTerminalStatus_deadline ⟨300, 600, 2⟩ 0 completesAtOne "task-1" 5).2 hlat 1 ht₀ hterm⟩

end Tentacle.Inbox
