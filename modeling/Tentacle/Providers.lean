import Tentacle.Inbox.Wait
import Tentacle.FluxRuntime.GetTaskStatus

/-!
# The cached provider getters

Both tool modules build their backends lazily, through module-level getters of one shape
(`_get_task_use_cases`, `_get_checkpoint_use_cases`, in `create_task.py` and in
`get_task_status.py`):

    if _cache is None:
        _cache = await provider_factory()
    return _cache

The factory's `await` is the only suspension point, so under asyncio a call is atomic
up to it and after it: it reads the cache and, when the cache is set, returns it at
once; otherwise it suspends, and when the factory completes it stores the provider and
returns it (or the factory's exception propagates and the cache is left as it was). A
run is any interleaving of any number of calls: a list of events, each starting a new
call or resuming a suspended one with whatever its factory produced.

* `getter_run` — over every run: once set, the cache is never cleared and no later call
  invokes the factory; every provider the cache holds was built by some call; a
  completed construction overwrites the cache; and once no call is suspended, the cache
  never changes again and every later call returns it without invoking the factory.
* `first_construction_overwritten` — two concurrent first callers both construct, and
  the one that finishes last wins: a provider already returned to one caller is
  replaced in the cache by the other's.
-/

namespace Tentacle.Providers

/-! ## The model -/

/-- Where one call of a cached getter stands. -/
inductive CallState (α : Type) where
  /-- It found the cache set and returned its provider, without invoking the factory. -/
  | cached (provider : α)
  /-- It found the cache empty and is suspended at `await provider_factory()`. -/
  | awaiting
  /-- Its factory returned `provider`, which it stored in the cache and returned. -/
  | built (provider : α)
  /-- Its factory raised; the exception propagated out of the call. -/
  | raised (e : PyExc)
  deriving DecidableEq, Repr

/-- Whether a call invoked the factory. -/
def CallState.usedFactory {α : Type} : CallState α → Bool
  | .cached _ => false
  | _ => true

/-- The process-wide state around one getter: its module-level cache, and every call
made so far, in the order they started. -/
structure GetterState (α : Type) where
  cache : Option α
  calls : List (CallState α)
  deriving DecidableEq, Repr

/-- The state at import: `_task_use_cases: Optional[TaskUseCases] = None`. -/
def GetterState.init {α : Type} : GetterState α := ⟨none, []⟩

/-- How many calls invoked the factory. -/
def GetterState.factoryCalls {α : Type} (s : GetterState α) : Nat :=
  s.calls.countP CallState.usedFactory

/-- The cache holds `provider` and no call is suspended. -/
def GetterState.Settled {α : Type} (s : GetterState α) (provider : α) : Prop :=
  s.cache = some provider ∧ CallState.awaiting ∉ s.calls

/-- What the event loop can do next. -/
inductive GetterEvent (α : Type) where
  /-- A new call runs to its return, or to the factory's `await`. -/
  | start
  /-- The factory awaited by call `i` completes with `outcome`, and call `i` runs to
  its end. -/
  | resume (i : Nat) (outcome : Except PyExc α)
  deriving Repr

/-- Whether an event starts a call. -/
def GetterEvent.isStart {α : Type} : GetterEvent α → Bool
  | .start => true
  | .resume _ _ => false

/-- One step of the event loop over a cached getter. The loop never resumes a call that
is not suspended; the model lets such an event change nothing. -/
def getterStep {α : Type} (s : GetterState α) : GetterEvent α → GetterState α
  | .start =>
    match s.cache with
    | some provider => { s with calls := s.calls ++ [.cached provider] }
    | none => { s with calls := s.calls ++ [.awaiting] }
  | .resume i outcome =>
    match s.calls[i]? with
    | some .awaiting =>
      match outcome with
      | .ok provider => { cache := some provider, calls := s.calls.set i (.built provider) }
      | .error e => { s with calls := s.calls.set i (.raised e) }
    | _ => s

/-- A run: the events in the order the loop performs them. -/
def getterRun {α : Type} (s : GetterState α) (events : List (GetterEvent α)) :
    GetterState α :=
  events.foldl getterStep s

/-! ## One step -/

section Step

variable {α : Type} {s : GetterState α}

/-- A start with the cache set returns the cached provider and invokes no factory. -/
theorem getterStep_start_cached {provider : α} (h : s.cache = some provider) :
    getterStep s .start = { s with calls := s.calls ++ [.cached provider] } := by
  simp [getterStep, h]

/-- Resuming a suspended call stores what its factory built, or records the exception. -/
theorem getterStep_resume_awaiting {i : Nat} (outcome : Except PyExc α)
    (h : s.calls[i]? = some .awaiting) :
    getterStep s (.resume i outcome) =
      match outcome with
      | .ok provider => ⟨some provider, s.calls.set i (.built provider)⟩
      | .error e => ⟨s.cache, s.calls.set i (.raised e)⟩ := by
  cases outcome <;> simp [getterStep, h]

theorem getterStep_resume_other {i : Nat} (outcome : Except PyExc α)
    (h : s.calls[i]? ≠ some .awaiting) : getterStep s (.resume i outcome) = s := by
  simp [getterStep, h]

/-- A completed construction overwrites the cache, whatever it held. -/
theorem getterStep_resume_built {i : Nat} {provider : α}
    (h : s.calls[i]? = some .awaiting) :
    (getterStep s (.resume i (.ok provider))).cache = some provider := by
  rw [getterStep_resume_awaiting _ h]

/-- Overwriting a suspended call keeps every call that is not suspended. -/
theorem mem_set_of_awaiting {i : Nat} (c' : CallState α) (h : s.calls[i]? = some .awaiting)
    {c : CallState α} (hc : c ∈ s.calls) (hne : c ≠ .awaiting) : c ∈ s.calls.set i c' := by
  obtain ⟨k, hk⟩ := List.mem_iff_getElem?.mp hc
  have hik : i ≠ k := by rintro rfl; exact hne (Option.some.inj (hk.symm.trans h))
  exact List.mem_iff_getElem?.mpr ⟨k, by rw [List.getElem?_set_ne hik, hk]⟩

/-- Overwriting a suspended call by a finished one leaves the factory count alone. -/
theorem factoryCalls_set_of_awaiting {i : Nat} (c' : CallState α)
    (h : s.calls[i]? = some .awaiting) (hc' : c'.usedFactory = true) :
    (s.calls.set i c').countP CallState.usedFactory = s.factoryCalls := by
  obtain ⟨hi, hget⟩ := List.getElem?_eq_some_iff.mp h
  rw [List.countP_set _ _ _ _ hi, hget, hc']
  have : 0 < s.factoryCalls :=
    List.countP_pos_iff.mpr ⟨_, List.mem_iff_getElem?.mpr ⟨i, h⟩, rfl⟩
  simp only [CallState.usedFactory, if_true, GetterState.factoryCalls] at this ⊢
  omega

/-- What a step does to the cache and to the calls: the cache is left alone or set to a
provider that the step records as built, and no call other than a suspended one
changes. -/
theorem getterStep_cases (s : GetterState α) (e : GetterEvent α) :
    ((getterStep s e).cache = s.cache ∨
      ∃ provider, (getterStep s e).cache = some provider ∧
        CallState.built provider ∈ (getterStep s e).calls) ∧
    ∀ c ∈ s.calls, c ≠ .awaiting → c ∈ (getterStep s e).calls := by
  cases e with
  | start => cases h : s.cache <;> simp_all [getterStep]
  | resume i outcome =>
    by_cases hi : s.calls[i]? = some .awaiting
    · have hlen := (List.getElem?_eq_some_iff.mp hi).1
      rw [getterStep_resume_awaiting _ hi]
      cases outcome with
      | ok p =>
        exact ⟨.inr ⟨p, rfl, List.mem_set _ _ hlen _⟩,
          fun c hc hne => mem_set_of_awaiting _ hi hc hne⟩
      | error e => exact ⟨.inl rfl, fun c hc hne => mem_set_of_awaiting _ hi hc hne⟩
    · rw [getterStep_resume_other _ hi]
      exact ⟨.inl rfl, fun c hc _ => hc⟩

/-- A set cache stays set, and a step taken with the cache set invokes no factory. -/
theorem getterStep_of_cache_isSome (s : GetterState α) (e : GetterEvent α)
    (h : s.cache.isSome) :
    (getterStep s e).cache.isSome ∧ (getterStep s e).factoryCalls = s.factoryCalls := by
  obtain ⟨provider, hp⟩ := Option.isSome_iff_exists.mp h
  cases e with
  | start =>
    simp [getterStep_start_cached hp, GetterState.factoryCalls, CallState.usedFactory, hp]
  | resume i outcome =>
    by_cases hi : s.calls[i]? = some .awaiting
    · rw [getterStep_resume_awaiting _ hi]
      cases outcome with
      | ok p => exact ⟨rfl, factoryCalls_set_of_awaiting _ hi rfl⟩
      | error e => exact ⟨h, factoryCalls_set_of_awaiting _ hi rfl⟩
    · rw [getterStep_resume_other _ hi]
      exact ⟨h, rfl⟩

/-- From a settled state, a start returns the cached provider and a resume does
nothing: there is no suspended call to resume. -/
theorem getterStep_settled {provider : α} (h : s.Settled provider) (e : GetterEvent α) :
    getterStep s e =
      { s with calls := s.calls ++ if e.isStart then [.cached provider] else [] } := by
  cases e with
  | start => simp [getterStep_start_cached h.1, GetterEvent.isStart]
  | resume i outcome =>
    rw [getterStep_resume_other _ fun hi => h.2 (List.mem_iff_getElem?.mpr ⟨i, hi⟩)]
    simp [GetterEvent.isStart]

theorem settled_getterStep {provider : α} (h : s.Settled provider) (e : GetterEvent α) :
    (getterStep s e).Settled provider := by
  rw [getterStep_settled h]
  exact ⟨h.1, by split <;> simp [h.2]⟩

end Step

/-! ## Runs -/

section Run

variable {α : Type}

theorem getterRun_cons (s : GetterState α) (e : GetterEvent α) (events : List (GetterEvent α)) :
    getterRun s (e :: events) = getterRun (getterStep s e) events := rfl

/-- A call that is not suspended is still there after any run. -/
theorem getterRun_calls_keep (s : GetterState α) (events : List (GetterEvent α))
    (c : CallState α) (hc : c ∈ s.calls) (hne : c ≠ .awaiting) :
    c ∈ (getterRun s events).calls := by
  induction events generalizing s with
  | nil => exact hc
  | cons e rest ih => exact ih _ ((getterStep_cases s e).2 c hc hne)

/-- Every provider the cache holds after a run was there at the start or was built by
one of the run's calls. -/
theorem getterRun_cache_built (s : GetterState α) (events : List (GetterEvent α))
    (provider : α) (h : (getterRun s events).cache = some provider) :
    s.cache = some provider ∨ CallState.built provider ∈ (getterRun s events).calls := by
  induction events generalizing s with
  | nil => exact .inl h
  | cons e rest ih =>
    rcases ih (getterStep s e) h with h' | h'
    · obtain ⟨hc, -⟩ := getterStep_cases s e
      rcases hc with hc | ⟨p, hp, hb⟩
      · exact .inl (hc ▸ h')
      · obtain rfl : p = provider := Option.some.inj (hp.symm.trans h')
        exact .inr (getterRun_calls_keep _ rest _ hb (by simp))
    · exact .inr h'

theorem getterRun_of_cache_isSome (s : GetterState α) (events : List (GetterEvent α))
    (h : s.cache.isSome) :
    (getterRun s events).cache.isSome ∧ (getterRun s events).factoryCalls = s.factoryCalls := by
  induction events generalizing s with
  | nil => exact ⟨h, rfl⟩
  | cons e rest ih =>
    obtain ⟨hs, hf⟩ := getterStep_of_cache_isSome s e h
    obtain ⟨hs', hf'⟩ := ih _ hs
    exact ⟨hs', hf'.trans hf⟩

/-- From a settled state every run only appends calls that return the cached provider. -/
theorem getterRun_settled (s : GetterState α) (events : List (GetterEvent α)) (provider : α)
    (h : s.Settled provider) :
    getterRun s events =
      ⟨s.cache, s.calls ++
        List.replicate (events.countP GetterEvent.isStart) (.cached provider)⟩ := by
  induction events generalizing s with
  | nil => simp [getterRun]
  | cons e rest ih =>
    rw [getterRun_cons, ih _ (settled_getterStep h e), getterStep_settled h]
    cases e <;> simp [GetterEvent.isStart, List.replicate_succ]

/-- The cached getters over every interleaving of their calls. Once set, the cache is
never cleared and no later call invokes the factory; every provider it holds was built
by some call; a construction that completes overwrites it, so the last one to finish
wins; and once no call is suspended, the cache holds its provider for ever and every
later call returns that provider without invoking the factory. -/
theorem getter_run (s : GetterState α) (events : List (GetterEvent α)) :
    (s.cache.isSome →
      (getterRun s events).cache.isSome ∧
        (getterRun s events).factoryCalls = s.factoryCalls) ∧
    (∀ provider, (getterRun s events).cache = some provider →
      s.cache = some provider ∨ CallState.built provider ∈ (getterRun s events).calls) ∧
    (∀ i provider, s.calls[i]? = some .awaiting →
      (getterStep s (.resume i (.ok provider))).cache = some provider) ∧
    (∀ provider, s.Settled provider →
      getterRun s events =
        ⟨s.cache, s.calls ++
          List.replicate (events.countP GetterEvent.isStart) (.cached provider)⟩) :=
  ⟨getterRun_of_cache_isSome s events, getterRun_cache_built s events,
    fun _ _ h => getterStep_resume_built h, getterRun_settled s events⟩

/-- Two concurrent first callers: both find the cache empty and invoke the factory; the
first returns provider `1`, the second then stores `2`, and a fifth event, a later call,
is handed `2`. -/
theorem first_construction_overwritten :
    getterRun GetterState.init
        [.start, .start, .resume 0 (.ok (1 : Nat)), .resume 1 (.ok 2), .start] =
      ⟨some 2, [.built 1, .built 2, .cached 2]⟩ := by
  decide

end Run

end Tentacle.Providers

/-! ## The four getters -/

namespace Tentacle.Inbox

open Tentacle.Providers

/-- `_get_task_use_cases` of `create_task.py`, over its `_task_use_cases`. -/
def getTaskUseCases : GetterState TaskUseCases → GetterEvent TaskUseCases →
    GetterState TaskUseCases :=
  getterStep

/-- `_get_checkpoint_use_cases` of `create_task.py`, over its `_checkpoint_use_cases`. -/
def getCheckpointUseCases : GetterState CheckpointUseCases →
    GetterEvent CheckpointUseCases → GetterState CheckpointUseCases :=
  getterStep

end Tentacle.Inbox

namespace Tentacle.FluxRuntime

open Tentacle.Providers

/-- `_get_task_use_cases` of `get_task_status.py`, over its `_task_use_cases`. -/
def getTaskUseCases : GetterState TaskUseCases → GetterEvent TaskUseCases →
    GetterState TaskUseCases :=
  getterStep

/-- `_get_checkpoint_use_cases` of `get_task_status.py`, over its
`_checkpoint_use_cases`. -/
def getCheckpointUseCases : GetterState CheckpointUseCases →
    GetterEvent CheckpointUseCases → GetterState CheckpointUseCases :=
  getterStep

end Tentacle.FluxRuntime
