import Mathlib.Data.List.Dedup
import Mathlib.Data.List.Infix
import Mathlib.Data.List.Sort
import Mathlib.Data.String.Basic
import Tentacle.Release.BumpVersions

/-!
# Computing the bump plan

Two scripts turn pending changes into a plan: `compute_bumps_from_changes.py` reads
`.changes` notes (each names a component or a scope and a bump), and `compute_bumps.py`
reads conventional commits (`type(scope)!: subject`) between two revisions. Both run the
same loop: each input names the component and the bump it asks for, or is skipped, and a
dict keeps, per component, a bump that is replaced only by one of higher rank. Then, for
each component in sorted order, the plan reads the current version and bumps it.

The loop is `aggregate`, written once with the per-input step as a parameter (`noteEntry`,
`commitEntry`). What it is for is stated independently of its order of updates: the dict
`ChoosesMax`, holding for each component the largest bump asked for it.

* `aggregate_choosesMax` — the loop computes the largest bump per component.
* `planComponents_congr` — the plan depends only on the dict as a map.
* `computeBumps_takes_max` — for notes and for commits, each component gets the largest
  bump asked for it (a changed component that no commit maps to gets the fallback), and the
  plan is the same for every order of the inputs.
-/

namespace Tentacle.Release

/-! ## Dicts of component names -/

/-- Python's `sorted` on a list of strings: by code point, lexicographically. -/
def sortedNames (names : List String) : List String :=
  names.insertionSort (· ≤ ·)

/-! ## Bumps -/

/-- `ensure_valid_bump`, returning the bump it accepted. -/
def ensureValidBump (bump : String) : Except PyExc Bump :=
  if bump = "patch" then .ok .patch
  else if bump = "minor" then .ok .minor
  else if bump = "major" then .ok .major
  else .error ⟨.valueError, s!"Unsupported bump type: {bump}"⟩

/-- The update both loops share: `if prev is None or bump_rank(bump) > bump_rank(prev)`,
then `bumps[name] = bump`. -/
def raiseBump (bumps : List (String × String)) (name bump : String) :
    Except PyExc (List (String × String)) :=
  match bumps.lookup name with
  | none => pure (dictSet bumps name bump)
  | some prev => do
    let rank ← bumpRank bump
    let prevRank ← bumpRank prev
    pure (if rank > prevRank then dictSet bumps name bump else bumps)

/-- The loop both scripts run over their inputs: `entry` gives the component and bump an
input asks for, `none` for an input the loop skips, or raises. -/
def aggregate {ι : Type} (entry : ι → Except PyExc (Option (String × String))) :
    List (String × String) → List ι → Except PyExc (List (String × String))
  | bumps, [] => pure bumps
  | bumps, x :: xs => do
    match ← entry x with
    | none => aggregate entry bumps xs
    | some (name, bump) => aggregate entry (← raiseBump bumps name bump) xs

/-! ## Components and scopes -/

/-- `scope_map(config)[scope]`: the last component with that scope; components whose scope
is missing or empty are left out of the map. -/
def scopeMap (components : List Component) (scope : String) : Option String :=
  (components.reverse.find? fun c => c.scope == some scope && !scope.isEmpty).map (·.name)

/-- `resolve_component_name`: a component's own name, else the component of that scope. -/
def resolveComponentName (components : List Component) (value : String) :
    Except PyExc String :=
  if (componentMap components value).isSome then pure value
  else match scopeMap components value with
    | some name => pure name
    | none => throw ⟨.valueError, s!"Unknown component or scope: {value}"⟩

/-! ## The plan -/

/-- A component of the plan: `name`, `scope` and `kind` (its component's), `bump`,
`current_version` and `next_version`. The `reasons` key comes from a second dict, which
`PlanEntry.toJson` reads. -/
structure PlanEntry where
  name : String
  scope : Option String
  kind : Option String
  bump : String
  currentVersion : PyVal
  nextVersion : String

/-- `bump_semver(current, bump)` on the value `read_component_version` returned:
`ensure_semver` calls `version.strip()`, which only a string has. -/
def bumpSemverOf (current : PyVal) (bump : String) : Except PyExc String :=
  match current with
  | .str version => bumpSemver version bump
  | _ => .error (PyExc.attributeError "strip")

/-- One turn of the plan loop: the entry of the component `name`. -/
def planEntry (libs : Libraries) (components : List Component) (bumps : List (String × String))
    (name : String) : ScriptM PlanEntry := do
  let some component := componentMap components name
    | throw ⟨.keyError, s!"'{name}'"⟩
  let current ← readComponentVersion libs component
  let some bump := bumps.lookup name
    | throw ⟨.keyError, s!"'{name}'"⟩
  let nextVersion ← liftExc (bumpSemverOf current bump)
  pure ⟨name, component.scope, component.kind, bump, current, nextVersion⟩

/-- The plan loop of both scripts, over the sorted component names. -/
def planComponents (libs : Libraries) (components : List Component)
    (bumps : List (String × String)) : ScriptM (List PlanEntry) :=
  (sortedNames (bumps.map Prod.fst)).mapM (planEntry libs components bumps)

/-- `reasons.setdefault(name, []).append(reason)`. -/
def addReason (reasons : List (String × List String)) (name reason : String) :
    List (String × List String) :=
  dictSet reasons name (((reasons.lookup name).getD []) ++ [reason])

/-- An entry of the plan's `components` as both scripts write it, with `reasons.get(name, [])`
from the reasons they collected. -/
def PlanEntry.toJson (reasons : List (String × List String)) (e : PlanEntry) : PyVal :=
  .dict [("name", .str e.name), ("scope", optStr e.scope), ("kind", optStr e.kind),
    ("bump", .str e.bump), ("current_version", e.currentVersion),
    ("next_version", .str e.nextVersion),
    ("reasons", .list (((reasons.lookup e.name).getD []).map .str))]

/-! ## `.changes` notes -/

/-- A note as `parse_note` returns it: its bump has passed `ensure_valid_bump`. -/
structure ChangeNote where
  component : String
  bump : Bump
  summary : String
  file : String

/-- One pass of the notes loop: resolve the note's component, skip it when a `--changed`
filter leaves it out, and ask for its bump. -/
def noteEntry (components : List Component) (changedFilter : Option (List String))
    (note : ChangeNote) : Except PyExc (Option (String × String)) := do
  let name ← resolveComponentName components note.component
  if changedFilter.any fun changed => !changed.contains name then return none
  if (componentMap components name).isNone then
    throw ⟨.other, s!"Unknown component in note {note.file}: {note.component}"⟩
  return some (name, note.bump.name)

/-- `Path.name`: the text after the last `/`. -/
def fileName (path : String) : String :=
  ⟨((path.data.splitOn '/').getLast?).getD []⟩

/-- The reasons the notes loop collects: `"<file name>: <summary>"` under the component of each
note it keeps. The loop collects them beside the bumps; here they are gathered in a second pass
over the same notes, whose result is read only after the first pass returned. -/
def noteReasons (components : List Component) (changedFilter : Option (List String))
    (notes : List ChangeNote) : List (String × List String) :=
  notes.foldl (fun reasons note => match noteEntry components changedFilter note with
    | .ok (some (name, _)) => addReason reasons name s!"{fileName note.file}: {note.summary}"
    | _ => reasons) []

/-- An entry of the output's `notes`: the note's file name, its component resolved again, its
bump and its summary. -/
def noteJson (components : List Component) (note : ChangeNote) : Except PyExc PyVal := do
  let component ← resolveComponentName components note.component
  pure (.dict [("file", .str (fileName note.file)), ("component", .str component),
    ("bump", .str note.bump.name), ("summary", .str note.summary)])

/-- The JSON `compute_bumps_from_changes.py` writes to `--output`. Without notes it writes the
same keys, with no components and no notes. -/
def changesPlanJson (generatedAt changesDir : String) (components notes : List PyVal) : PyVal :=
  .dict [("generated_at", .str generatedAt), ("source", .str "changes"),
    ("changes_dir", .str changesDir), ("components", .list components), ("notes", .list notes)]

/-- `compute_bumps_from_changes.py` from the loaded notes on: no plan without notes, else
the aggregation and the plan. -/
def computeBumpsFromChanges (libs : Libraries) (components : List Component)
    (changedFilter : Option (List String)) (notes : List ChangeNote) :
    ScriptM (List PlanEntry) :=
  if notes.isEmpty then pure [] else do
    let bumps ← liftExc (aggregate (noteEntry components changedFilter) [] notes)
    planComponents libs components bumps

/-! ## Conventional commits -/

/-- A commit as `get_commits` returns it. -/
structure Commit where
  hash : String
  subject : String
  body : String

/-- The groups of a `HEADER_RE` match. -/
structure Header where
  commitType : String
  scope : Option String
  bang : Bool
  deriving DecidableEq

/-- `[a-z]`. -/
def isLowerAlpha (c : Char) : Bool := 'a' ≤ c && c ≤ 'z'

/-- `[a-z0-9]`, the first character of a scope. -/
def isScopeStart (c : Char) : Bool := isLowerAlpha c || c.isDigit

/-- The other characters of a scope: lowercase letters, digits, `-` and `/`. -/
def isScopeChar (c : Char) : Bool := isScopeStart c || c == '-' || c == '/'

/-- `.+$`: at least one character other than a newline, then the end or a final newline. -/
def restOfLine (cs : List Char) : Bool :=
  !(cs.takeWhile (· != '\n')).isEmpty &&
    (cs.dropWhile (· != '\n') == [] || cs.dropWhile (· != '\n') == ['\n'])

/-- The optional scope group of `HEADER_RE`, a bracketed scope: the scope and what follows
the closing bracket, or `none` when the group does not match here. -/
def scopeGroup : List Char → Option (List Char × List Char)
  | '(' :: c :: more =>
    if isScopeStart c then
      match more.dropWhile isScopeChar with
      | ')' :: after => some (c :: more.takeWhile isScopeChar, after)
      | _ => none
    else none
  | _ => none

/-- `HEADER_RE.match(subject)`, for
`^(?P<type>[a-z]+)(\((?P<scope>...)\))?(?P<bang>!)?:\s.+$`. Each quantifier is followed by a
character it cannot take, so the greedy reading is the only one. -/
def parseHeader (subject : String) : Option Header :=
  let commitType := subject.data.takeWhile isLowerAlpha
  let afterType := subject.data.dropWhile isLowerAlpha
  let (scope, afterScope) := match scopeGroup afterType with
    | some (scope, after) => (some scope, after)
    | none => (none, afterType)
  let (bang, afterBang) := match afterScope with
    | '!' :: after => (true, after)
    | _ => (false, afterScope)
  match afterBang with
  | ':' :: s :: rest =>
    if !commitType.isEmpty && isPySpace s && restOfLine rest then
      some ⟨⟨commitType⟩, scope.map String.mk, bang⟩
    else none
  | _ => none

example : parseHeader "feat(web/ui)!: add a page" = some ⟨"feat", some "web/ui", true⟩ := by
  decide

example : parseHeader "Feat: add a page" = none ∧ parseHeader "fix(): typo" = none := by
  decide

/-- `config["commit"]` as `compute_bumps.py` reads it. -/
structure CommitConfig where
  typeBumps : List (String × String)
  requireScope : Bool
  fallbackBump : String

/-- `config["commit"]` with its defaults: `require_scope` is `True` and
`default_bump_for_changed_component` is `"patch"` when absent. -/
def CommitConfig.read (typeBumps : List (String × String)) (requireScope : Option Bool)
    (fallbackBump : Option String) : CommitConfig :=
  ⟨typeBumps, requireScope.getD true, fallbackBump.getD "patch"⟩

/-- The bump a commit asks for: its type's bump (`patch` for a type the config does not
list), raised to `major` by a `!` or a `BREAKING CHANGE` in the body. -/
def commitBump (cfg : CommitConfig) (header : Header) (body : String) : String :=
  if header.bang || decide ("BREAKING CHANGE".data <:+: body.data) ||
      decide ("BREAKING-CHANGE".data <:+: body.data) then "major"
  else (cfg.typeBumps.lookup header.commitType).getD "patch"

/-- One pass of the commits loop: the component and bump a commit asks for, `none` where the
loop `continue`s (no header match, a scope required and missing, a scope of no changed
component). -/
def commitEntry (components : List Component) (cfg : CommitConfig) (changed : List String)
    (commit : Commit) : Option (String × String) :=
  (parseHeader commit.subject).bind fun header =>
    if cfg.requireScope && (header.scope.getD "").isEmpty then none
    else (scopeMap components (header.scope.getD "")).bind fun name =>
      if name.isEmpty || !changed.contains name then none
      else some (name, commitBump cfg header commit.body)

/-- The fallback loop: each changed component (sorted, once) that no commit mapped to
gets `default_bump_for_changed_component`. -/
def addFallbacks (fallbackBump : String) (changed : List String)
    (bumps : List (String × String)) : List (String × String) :=
  (sortedNames changed.dedup).foldl
    (fun bumps name => if (bumps.lookup name).isSome then bumps else dictSet bumps name fallbackBump)
    bumps

/-- The reasons the commits loop collects: `"<hash[:8]> <subject>"` under the component of
each commit it keeps, then the fallback's reason under each changed component that no commit
maps to. A commit sets a key of `computed_bumps` exactly when it adds a reason, so
`component_name not in computed_bumps` is read here as the component having no reason yet. -/
def commitReasons (components : List Component) (cfg : CommitConfig) (changed : List String)
    (commits : List Commit) : List (String × List String) :=
  (sortedNames changed.dedup).foldl (fun reasons name =>
      if (reasons.lookup name).isSome then reasons
      else addReason reasons name
        s!"fallback:{cfg.fallbackBump} (changed files without mapped conventional scope)")
    (commits.foldl (fun reasons commit => match commitEntry components cfg changed commit with
      | some (name, _) =>
        addReason reasons name s!"{String.mk (commit.hash.data.take 8)} {commit.subject}"
      | none => reasons) [])

/-- `compute_bumps.py` from the commits on: the aggregation, the fallbacks, the plan. -/
def computeBumps (libs : Libraries) (components : List Component) (cfg : CommitConfig)
    (changed : List String) (commits : List Commit) : ScriptM (List PlanEntry) := do
  let bumps ← liftExc (aggregate (fun commit => pure (commitEntry components cfg changed commit))
    [] commits)
  planComponents libs components (addFallbacks cfg.fallbackBump changed bumps)

/-! ## The dict as a map -/

section Dict

variable {α : Type}

@[simp] theorem lookup_cons_eq (a k : String) (b : α) (es : List (String × α)) :
    ((k, b) :: es).lookup a = if a = k then some b else es.lookup a := by
  rw [List.lookup_cons]
  by_cases h : a = k
  · simp [h]
  · rw [if_neg h, show (a == k) = false from beq_eq_false_iff_ne.mpr h]

theorem lookup_dictSet (d : List (String × α)) (k : String) (v : α) (n : String) :
    (dictSet d k v).lookup n = if n = k then some v else d.lookup n := by
  induction d with
  | nil => simp [dictSet]
  | cons e d ih =>
    obtain ⟨k', v'⟩ := e
    by_cases hk : k' = k
    · subst hk
      by_cases hn : n = k' <;> simp [dictSet, hn]
    · by_cases hn : n = k' <;> simp [dictSet, hk, hn, ih]

theorem mem_keys_iff (d : List (String × α)) (n : String) :
    n ∈ d.map Prod.fst ↔ d.lookup n ≠ none := by
  induction d with
  | nil => simp
  | cons e d ih =>
    obtain ⟨k, v⟩ := e
    by_cases hn : n = k <;> simp [hn, ih]

theorem nodup_keys_dictSet {d : List (String × α)} (h : (d.map Prod.fst).Nodup) (k : String)
    (v : α) : ((dictSet d k v).map Prod.fst).Nodup := by
  induction d with
  | nil => simp [dictSet]
  | cons e d ih =>
    rw [List.map_cons, List.nodup_cons] at h
    by_cases hk : e.1 = k
    · simpa [dictSet, hk] using h
    · simp only [dictSet, hk, if_false, List.map_cons, List.nodup_cons]
      refine ⟨fun hm => ?_, ih h.2⟩
      rw [mem_keys_iff, lookup_dictSet, if_neg hk, ← mem_keys_iff] at hm
      exact h.1 hm

end Dict

/-! ## The largest bump -/

/-- `b` is the largest of `bumps`: one of them, and of rank at least each one's. -/
def IsTopBump (bumps : List Bump) (b : Bump) : Prop :=
  b ∈ bumps ∧ ∀ b' ∈ bumps, b'.rank ≤ b.rank

section TopBump

variable {bumps bumps' : List Bump} {a b : Bump}

theorem IsTopBump.unique (ha : IsTopBump bumps a) (hb : IsTopBump bumps b) : a = b :=
  Bump.rank_injective (le_antisymm (hb.2 a ha.1) (ha.2 b hb.1))

theorem IsTopBump.perm (h : bumps.Perm bumps') : IsTopBump bumps b ↔ IsTopBump bumps' b := by
  simp only [IsTopBump, h.mem_iff]

theorem isTopBump_singleton (b : Bump) : IsTopBump [b] b :=
  ⟨List.mem_singleton_self b, fun _ h => by rw [List.mem_singleton.mp h]⟩

/-- One more bump: the larger of the two is the largest. -/
theorem IsTopBump.append (ha : IsTopBump bumps a) (b : Bump) :
    IsTopBump (bumps ++ [b]) (if a.rank < b.rank then b else a) := by
  refine ⟨?_, fun b' hb' => ?_⟩
  · split_ifs <;> simp [ha.1]
  · rcases List.mem_append.mp hb' with hb' | hb'
    · have := ha.2 b' hb'
      split_ifs <;> omega
    · rw [List.mem_singleton.mp hb']
      split_ifs <;> omega

end TopBump

/-! ## The loop computes the largest bump

`ChoosesMax bumps asked` says what the dict is for: each component maps to the largest bump
asked for it, and a component asked nothing has no entry. One update keeps it, with the new
bump added to what was asked (`ChoosesMax.raise`); so the whole loop computes it
(`aggregate_choosesMax`). -/

/-- The dict holds, for each component, the largest of the bumps `asked` gives it, and no
entry for a component asked nothing. -/
def ChoosesMax (bumps : List (String × String)) (asked : String → List Bump) : Prop :=
  ∀ name, (bumps.lookup name = none ∧ asked name = []) ∨
    ∃ b, bumps.lookup name = some b.name ∧ IsTopBump (asked name) b

/-- What the loop asks for a component: the bumps of the inputs that name it, in order. -/
def askedBy {ι : Type} (target : ι → Option (String × Bump)) (xs : List ι) (name : String) :
    List Bump :=
  (xs.filterMap target).filterMap fun p => if p.1 = name then some p.2 else none

theorem choosesMax_nil : ChoosesMax [] fun _ => [] := fun _ => .inl ⟨rfl, rfl⟩

theorem ChoosesMax.congr {bumps : List (String × String)} {asked asked' : String → List Bump}
    (h : ChoosesMax bumps asked) (heq : ∀ name, asked name = asked' name) :
    ChoosesMax bumps asked' := by
  rwa [show asked' = asked from funext fun n => (heq n).symm]

theorem raiseBump_of_none {bumps : List (String × String)} {name : String} (bump : String)
    (h : bumps.lookup name = none) : raiseBump bumps name bump = .ok (dictSet bumps name bump) := by
  simp only [raiseBump, h]
  rfl

theorem raiseBump_of_some {bumps : List (String × String)} {name : String} {a : Bump}
    (b : Bump) (h : bumps.lookup name = some a.name) :
    raiseBump bumps name b.name =
      .ok (if a.rank < b.rank then dictSet bumps name b.name else bumps) := by
  simp only [raiseBump, h, bumpRank_name]
  rfl

/-- **One update keeps the largest bump**, with the new bump added to those asked. -/
theorem ChoosesMax.raise {bumps : List (String × String)} {asked : String → List Bump}
    (h : ChoosesMax bumps asked) (hkeys : (bumps.map Prod.fst).Nodup) (name : String) (b : Bump) :
    ∃ bumps', raiseBump bumps name b.name = .ok bumps' ∧
      ChoosesMax bumps' (fun n => if n = name then asked n ++ [b] else asked n) ∧
      (bumps'.map Prod.fst).Nodup := by
  rcases h name with ⟨hnone, hasked⟩ | ⟨a, hsome, htop⟩
  · refine ⟨_, raiseBump_of_none _ hnone, fun n => ?_, nodup_keys_dictSet hkeys _ _⟩
    by_cases hn : n = name
    · subst hn
      simp only [eq_self_iff_true, if_true, hasked, List.nil_append]
      exact .inr ⟨b, by rw [lookup_dictSet, if_pos rfl], isTopBump_singleton b⟩
    · simpa only [lookup_dictSet, hn, if_false] using h n
  · refine ⟨_, raiseBump_of_some b hsome, fun n => ?_, ?_⟩
    · by_cases hn : n = name
      · subst hn
        have := htop.append b
        simp only [eq_self_iff_true, if_true]
        split_ifs at this ⊢ with hlt
        · exact .inr ⟨b, by rw [lookup_dictSet, if_pos rfl], this⟩
        · exact .inr ⟨a, hsome, this⟩
      · simp only [hn, if_false]
        split_ifs
        · simpa only [lookup_dictSet, hn, if_false] using h n
        · exact h n
    · split_ifs
      exacts [nodup_keys_dictSet hkeys _ _, hkeys]

theorem askedBy_cons {ι : Type} (target : ι → Option (String × Bump)) (x : ι) (xs : List ι)
    (name : String) :
    askedBy target (x :: xs) name =
      (match target x with
        | some p => if p.1 = name then [p.2] else []
        | none => []) ++ askedBy target xs name := by
  unfold askedBy
  rw [List.filterMap_cons]
  cases target x with
  | none => rfl
  | some p => by_cases h : p.1 = name <;> simp [h]

/-- **The loop computes the largest bump per component**, from any dict that already does,
when each input's step returns what `target` says it asks for. -/
theorem aggregate_choosesMax {ι : Type} {entry : ι → Except PyExc (Option (String × String))}
    (target : ι → Option (String × Bump)) :
    ∀ {xs : List ι} {bumps : List (String × String)} {asked : String → List Bump},
      (∀ x ∈ xs, entry x = .ok ((target x).map fun p => (p.1, p.2.name))) →
      ChoosesMax bumps asked → (bumps.map Prod.fst).Nodup →
      ∃ bumps', aggregate entry bumps xs = .ok bumps' ∧
        ChoosesMax bumps' (fun name => asked name ++ askedBy target xs name) ∧
        (bumps'.map Prod.fst).Nodup
  | [], bumps, asked, _, h, hkeys => ⟨bumps, rfl, h.congr fun _ => by simp [askedBy], hkeys⟩
  | x :: xs, bumps, asked, hentry, h, hkeys => by
    have hx := hentry x (List.mem_cons_self _ _)
    have hxs := fun y hy => hentry y (List.mem_cons_of_mem x hy)
    cases ht : target x with
    | none =>
      rw [ht] at hx
      obtain ⟨bumps', hrun, hmax, hkeys'⟩ := aggregate_choosesMax target hxs h hkeys
      refine ⟨bumps', ?_, hmax.congr fun n => by rw [askedBy_cons, ht, List.nil_append], hkeys'⟩
      simpa only [aggregate, hx, Option.map_none', except_ok_bind] using hrun
    | some p =>
      obtain ⟨name, b⟩ := p
      rw [ht] at hx
      obtain ⟨bumps₁, hraise, hmax₁, hkeys₁⟩ := h.raise hkeys name b
      obtain ⟨bumps', hrun, hmax, hkeys'⟩ := aggregate_choosesMax target hxs hmax₁ hkeys₁
      refine ⟨bumps', by simpa only [aggregate, hx, Option.map_some', hraise, except_ok_bind],
        hmax.congr fun n => ?_, hkeys'⟩
      rw [askedBy_cons, ht]
      by_cases hn : n = name
      · subst hn
        simp
      · simp [hn, Ne.symm hn]

/-- The loop run from an empty dict computes the largest bump of the inputs. -/
theorem aggregate_choosesMax_nil {ι : Type} {entry : ι → Except PyExc (Option (String × String))}
    (target : ι → Option (String × Bump)) {xs : List ι}
    (hentry : ∀ x ∈ xs, entry x = .ok ((target x).map fun p => (p.1, p.2.name))) :
    ∃ bumps, aggregate entry [] xs = .ok bumps ∧ ChoosesMax bumps (askedBy target xs) ∧
      (bumps.map Prod.fst).Nodup :=
  let ⟨bumps, hrun, hmax, hkeys⟩ := aggregate_choosesMax target hentry choosesMax_nil List.nodup_nil
  ⟨bumps, hrun, hmax.congr fun _ => List.nil_append _, hkeys⟩

/-- A loop that returned ran every input's step without an exception. -/
theorem aggregate_entries_ok {ι : Type} {entry : ι → Except PyExc (Option (String × String))} :
    ∀ {xs : List ι} {bumps result : List (String × String)},
      aggregate entry bumps xs = .ok result → ∀ x ∈ xs, ∃ o, entry x = .ok o
  | [], _, _, _, _, hx => absurd hx (List.not_mem_nil _)
  | x :: xs, bumps, result, h, y, hy => by
    obtain ⟨o, hx, h⟩ := bind_eq_ok h
    rcases List.mem_cons.mp hy with rfl | hy
    · exact ⟨o, hx⟩
    rcases o with _ | ⟨name, bump⟩
    · exact aggregate_entries_ok h y hy
    · obtain ⟨bumps₁, -, h⟩ := bind_eq_ok h
      exact aggregate_entries_ok h y hy

theorem askedBy_perm {ι : Type} (target : ι → Option (String × Bump)) {xs xs' : List ι}
    (h : xs.Perm xs') (name : String) : (askedBy target xs name).Perm (askedBy target xs' name) :=
  (h.filterMap target).filterMap _

/-- Two dicts that choose the largest bump from the same bumps, in any order, agree. -/
theorem ChoosesMax.lookup_eq {d d' : List (String × String)} {asked asked' : String → List Bump}
    (h : ChoosesMax d asked) (h' : ChoosesMax d' asked')
    (hperm : ∀ name, (asked name).Perm (asked' name)) (name : String) :
    d.lookup name = d'.lookup name := by
  rcases h name with ⟨h1, h2⟩ | ⟨a, h1, h2⟩ <;> rcases h' name with ⟨h1', h2'⟩ | ⟨a', h1', h2'⟩
  · rw [h1, h1']
  · have := (hperm name).mem_iff.mpr h2'.1
    simp [h2] at this
  · have := (hperm name).mem_iff.mp h2.1
    simp [h2'] at this
  · rw [h1, h1', ((IsTopBump.perm (hperm name)).mp h2).unique h2']

/-! ## The plan depends only on the map -/

theorem sortedNames_keys_eq {d d' : List (String × String)} (hn : (d.map Prod.fst).Nodup)
    (hn' : (d'.map Prod.fst).Nodup) (h : ∀ name, d.lookup name = d'.lookup name) :
    sortedNames (d.map Prod.fst) = sortedNames (d'.map Prod.fst) := by
  have hperm : (d.map Prod.fst).Perm (d'.map Prod.fst) :=
    (List.perm_ext_iff_of_nodup hn hn').2 fun a => by rw [mem_keys_iff, mem_keys_iff, h]
  exact List.eq_of_perm_of_sorted
    ((List.perm_insertionSort _ _).trans (hperm.trans (List.perm_insertionSort _ _).symm))
    (List.sorted_insertionSort _ _) (List.sorted_insertionSort _ _)

/-- **The plan depends only on the dict as a map**, not on the order its entries were made
in. -/
theorem planComponents_congr (libs : Libraries) (components : List Component)
    {d d' : List (String × String)} (hn : (d.map Prod.fst).Nodup) (hn' : (d'.map Prod.fst).Nodup)
    (h : ∀ name, d.lookup name = d'.lookup name) :
    planComponents libs components d = planComponents libs components d' := by
  have hturn : planEntry libs components d = planEntry libs components d' := by
    funext name
    simp only [planEntry, h]
  rw [planComponents, planComponents, sortedNames_keys_eq hn hn' h, hturn]

section Plan

variable {libs : Libraries} {components : List Component} {bumps : List (String × String)}

theorem planEntry_readOnly (name : String) : ReadOnly (planEntry libs components bumps name) := by
  unfold planEntry
  split
  · refine readComponentVersion_readOnly.bind fun _ => ?_
    split
    exacts [(readOnly_liftExc _).bind fun _ => readOnly_pure _, readOnly_throw _]
  · exact readOnly_throw _

theorem planComponents_readOnly : ReadOnly (planComponents libs components bumps) :=
  readOnly_mapM planEntry_readOnly _

/-- A turn that returned found the component and its bump: the entry holds the component's
scope and kind, the version it reads, and the version `bump_semver` makes of it. -/
theorem planEntry_ok {name : String} {repo repo' : Repo} {e : PlanEntry}
    (h : runScript (planEntry libs components bumps name) repo = (.ok e, repo')) :
    e.name = name ∧ bumps.lookup name = some e.bump ∧ ∃ c, componentMap components name = some c ∧
      e.scope = c.scope ∧ e.kind = c.kind ∧
      (runScript (readComponentVersion libs c) repo).1 = .ok e.currentVersion ∧
      bumpSemverOf e.currentVersion e.bump = .ok e.nextVersion := by
  unfold planEntry at h
  split at h
  · next c hc =>
    obtain ⟨current, r₁, hread, h⟩ := runScript_bind_ok h
    split at h
    · next bump hb =>
      obtain ⟨next, r₂, hnext, h⟩ := runScript_bind_ok h
      obtain ⟨hbump, rfl⟩ := runScript_liftExc_ok hnext
      rw [runScript_pure, Prod.mk.injEq, Except.ok.injEq] at h
      obtain ⟨rfl, -⟩ := h
      exact ⟨rfl, hb, c, hc, rfl, rfl, by rw [hread], hbump⟩
    · cases h
  · cases h

/-- **Each entry of the plan records what its component reads**: the plan loop writes
nothing, its entries are named by the sorted names of the bumps, in order, and each holds its
bump, its component's scope, kind and version, and the version `bump_semver` makes of it. -/
theorem planComponents_fresh {repo repo' : Repo} {entries : List PlanEntry}
    (h : runScript (planComponents libs components bumps) repo = (.ok entries, repo')) :
    repo' = repo ∧ entries.map (·.name) = sortedNames (bumps.map Prod.fst) ∧
      ∀ e ∈ entries, bumps.lookup e.name = some e.bump ∧ ∃ c,
        componentMap components e.name = some c ∧ e.scope = c.scope ∧ e.kind = c.kind ∧
        (runScript (readComponentVersion libs c) repo).1 = .ok e.currentVersion ∧
        bumpSemverOf e.currentVersion e.bump = .ok e.nextVersion := by
  obtain ⟨hrepo, hall⟩ := runScript_mapM_forall₂ planEntry_readOnly h
  refine ⟨hrepo, ?_, fun e he => ?_⟩
  · have hmap : List.Forall₂ (· = ·) (sortedNames (bumps.map Prod.fst)) (entries.map (·.name)) :=
      List.forall₂_map_right_iff.2 (hall.imp fun _ _ h => (planEntry_ok h).1.symm)
    rw [List.forall₂_eq_eq_eq] at hmap
    exact hmap.symm
  · obtain ⟨name, -, hturn⟩ := (forall₂_partners hall).2 e he
    obtain ⟨rfl, hfacts⟩ := planEntry_ok hturn
    exact hfacts

end Plan

/-! ## Notes -/

/-- The component and bump a note asks for: its resolved component, when the `--changed`
filter keeps it; nothing for a note that does not resolve. -/
def noteTarget (components : List Component) (changedFilter : Option (List String))
    (note : ChangeNote) : Option (String × Bump) :=
  match resolveComponentName components note.component with
  | .ok name =>
    if changedFilter.any fun changed => !changed.contains name then none else some (name, note.bump)
  | .error _ => none

section Notes

variable {components : List Component} {changedFilter : Option (List String)}

theorem componentMap_isSome_of_scopeMap {scope name : String}
    (h : scopeMap components scope = some name) : (componentMap components name).isSome := by
  obtain ⟨c, hc, rfl⟩ := Option.map_eq_some'.mp h
  exact List.find?_isSome.mpr ⟨c, List.mem_of_find?_eq_some hc, beq_self_eq_true _⟩

/-- A resolved name is a component's: the `SystemExit` of an unknown component in a note
cannot happen. -/
theorem resolveComponentName_known {value name : String}
    (h : resolveComponentName components value = .ok name) :
    (componentMap components name).isSome := by
  unfold resolveComponentName at h
  split_ifs at h with hv
  · cases h
    exact hv
  · split at h
    · cases h
      exact componentMap_isSome_of_scopeMap ‹_›
    · cases h

theorem noteEntry_of_resolved {note : ChangeNote} {name : String}
    (h : resolveComponentName components note.component = .ok name) :
    noteEntry components changedFilter note =
      .ok ((noteTarget components changedFilter note).map fun p => (p.1, p.2.name)) := by
  have hknown := resolveComponentName_known h
  simp only [noteEntry, noteTarget, h, except_ok_bind]
  split_ifs <;> simp_all <;> rfl

theorem noteEntry_of_unresolved {note : ChangeNote} {e : PyExc}
    (h : resolveComponentName components note.component = .error e) :
    noteEntry components changedFilter note = .error e := by
  simp only [noteEntry, h]
  rfl

/-- When every note resolves, the notes loop returns the dict of the largest bumps. -/
theorem aggregate_notes {notes : List ChangeNote}
    (h : ∀ note ∈ notes, ∃ name, resolveComponentName components note.component = .ok name) :
    ∃ bumps, aggregate (noteEntry components changedFilter) [] notes = .ok bumps ∧
      ChoosesMax bumps (askedBy (noteTarget components changedFilter) notes) ∧
      (bumps.map Prod.fst).Nodup :=
  aggregate_choosesMax_nil _ fun note hn =>
    let ⟨_, hname⟩ := h note hn
    noteEntry_of_resolved hname

/-- The notes loop returns exactly when every note resolves. -/
theorem aggregate_notes_ok_iff {notes : List ChangeNote} :
    (∃ bumps, aggregate (noteEntry components changedFilter) [] notes = .ok bumps) ↔
      ∀ note ∈ notes, ∃ name, resolveComponentName components note.component = .ok name := by
  refine ⟨fun ⟨bumps, hrun⟩ note hn => ?_, fun h => (aggregate_notes h).imp fun _ h => h.1⟩
  obtain ⟨o, ho⟩ := aggregate_entries_ok hrun note hn
  cases hr : resolveComponentName components note.component with
  | ok name => exact ⟨name, rfl⟩
  | error e => rw [noteEntry_of_unresolved hr] at ho; cases ho

end Notes

/-! ## Commits -/

/-- `VALID_BUMPS`. -/
def validBumps : List String := ["patch", "minor", "major"]

theorem ensureValidBump_name (b : Bump) : ensureValidBump b.name = .ok b := by
  cases b <;> rfl

theorem exists_name_of_valid {s : String} (h : s ∈ validBumps) : ∃ b : Bump, s = b.name := by
  simp only [validBumps, List.mem_cons, List.mem_singleton, List.not_mem_nil, or_false] at h
  rcases h with rfl | rfl | rfl
  exacts [⟨.patch, rfl⟩, ⟨.minor, rfl⟩, ⟨.major, rfl⟩]

/-- The component and bump a commit asks for, its bump read as a `Bump`. -/
def commitTarget (components : List Component) (cfg : CommitConfig) (changed : List String)
    (commit : Commit) : Option (String × Bump) :=
  (commitEntry components cfg changed commit).bind fun p =>
    (ensureValidBump p.2).toOption.map (p.1, ·)

theorem lookup_mem {α : Type} {d : List (String × α)} {k : String} {v : α}
    (h : d.lookup k = some v) : (k, v) ∈ d := by
  induction d with
  | nil => cases h
  | cons e d ih =>
    obtain ⟨k', v'⟩ := e
    by_cases hk : k = k'
    · subst hk
      simp only [lookup_cons_eq, eq_self_iff_true, if_true, Option.some.injEq] at h
      rw [h]
      exact List.mem_cons_self _ _
    · simp only [lookup_cons_eq, hk, if_false] at h
      exact List.mem_cons_of_mem _ (ih h)

section Commits

variable {components : List Component} {cfg : CommitConfig} {changed : List String}

theorem commitEntry_bump {commit : Commit} {name bump : String}
    (h : commitEntry components cfg changed commit = some (name, bump)) :
    ∃ header, bump = commitBump cfg header commit.body := by
  obtain ⟨header, -, h⟩ := Option.bind_eq_some.mp h
  split_ifs at h
  obtain ⟨name', -, h⟩ := Option.bind_eq_some.mp h
  split_ifs at h
  cases h
  exact ⟨header, rfl⟩

/-- With the config's bump names valid, every bump a commit asks for is valid. -/
theorem commitBump_valid (htypes : ∀ e ∈ cfg.typeBumps, e.2 ∈ validBumps) (header : Header)
    (body : String) : commitBump cfg header body ∈ validBumps := by
  unfold commitBump
  split_ifs
  · decide
  · cases hl : cfg.typeBumps.lookup header.commitType with
    | none => decide
    | some v => exact htypes _ (lookup_mem hl)

theorem commitEntry_eq_target (htypes : ∀ e ∈ cfg.typeBumps, e.2 ∈ validBumps)
    (commit : Commit) :
    commitEntry components cfg changed commit =
      (commitTarget components cfg changed commit).map fun p => (p.1, p.2.name) := by
  unfold commitTarget
  cases h : commitEntry components cfg changed commit with
  | none => rfl
  | some p =>
    obtain ⟨name, bump⟩ := p
    obtain ⟨header, rfl⟩ := commitEntry_bump h
    obtain ⟨b, hb⟩ := exists_name_of_valid (commitBump_valid htypes header commit.body)
    simp [hb, ensureValidBump_name, Except.toOption]

/-- With valid bump names the commits loop always returns, with the dict of the largest
bumps. -/
theorem aggregate_commits (htypes : ∀ e ∈ cfg.typeBumps, e.2 ∈ validBumps)
    (commits : List Commit) :
    ∃ bumps, aggregate (fun commit => pure (commitEntry components cfg changed commit)) []
        commits = .ok bumps ∧
      ChoosesMax bumps (askedBy (commitTarget components cfg changed) commits) ∧
      (bumps.map Prod.fst).Nodup :=
  aggregate_choosesMax_nil _ fun commit _ => congrArg pure (commitEntry_eq_target htypes commit)

end Commits

/-! ## Fallbacks -/

theorem lookup_foldl_fallback (fallbackBump : String) :
    ∀ (names : List String) (d : List (String × String)) (n : String),
      (names.foldl (fun d name =>
        if (d.lookup name).isSome then d else dictSet d name fallbackBump) d).lookup n =
        (d.lookup n).or (if n ∈ names then some fallbackBump else none)
  | [], d, n => by simp
  | m :: names, d, n => by
    rw [List.foldl_cons, lookup_foldl_fallback fallbackBump names]
    by_cases hm : (d.lookup m).isSome
    · rw [if_pos hm]
      by_cases hn : n = m
      · subst hn
        obtain ⟨v, hv⟩ := Option.isSome_iff_exists.mp hm
        simp [hv]
      · simp [hn]
    · rw [if_neg hm, lookup_dictSet]
      by_cases hn : n = m
      · subst hn
        simp only [Option.not_isSome_iff_eq_none] at hm
        simp [hm]
      · simp [hn]

/-- A component keeps the bump the commits gave it; a changed one without gets the
fallback. -/
theorem lookup_addFallbacks (fallbackBump : String) (changed : List String)
    (d : List (String × String)) (n : String) :
    (addFallbacks fallbackBump changed d).lookup n =
      (d.lookup n).or (if n ∈ changed then some fallbackBump else none) := by
  rw [addFallbacks, lookup_foldl_fallback]
  simp only [sortedNames, List.mem_insertionSort, List.mem_dedup]

theorem nodup_keys_addFallbacks (fallbackBump : String) (changed : List String)
    {d : List (String × String)} (h : (d.map Prod.fst).Nodup) :
    ((addFallbacks fallbackBump changed d).map Prod.fst).Nodup := by
  unfold addFallbacks
  generalize sortedNames changed.dedup = names
  induction names generalizing d with
  | nil => exact h
  | cons m names ih =>
    rw [List.foldl_cons]
    apply ih
    split_ifs
    exacts [h, nodup_keys_dictSet h _ _]

/-- The fallbacks keep the largest bumps, with the fallback asked for every changed
component that nothing else asked a bump for. -/
theorem ChoosesMax.withFallbacks {d : List (String × String)} {asked : String → List Bump}
    (h : ChoosesMax d asked) (fallback : Bump) (changed : List String) :
    ChoosesMax (addFallbacks fallback.name changed d)
      fun n => if asked n = [] ∧ n ∈ changed then [fallback] else asked n := by
  intro n
  rw [lookup_addFallbacks]
  rcases h n with ⟨h1, h2⟩ | ⟨b, h1, h2⟩
  · by_cases hc : n ∈ changed
    · simp only [h1, h2, hc, and_self, if_true, Option.none_or]
      exact .inr ⟨fallback, rfl, isTopBump_singleton _⟩
    · simp [h1, h2, hc]
  · have hne : asked n ≠ [] := List.ne_nil_of_mem h2.1
    simp only [h1, hne, false_and, if_false]
    exact .inr ⟨b, rfl, h2⟩

/-! ## The plan is the same for every order of the inputs -/

theorem runScript_liftExc_ok_bind {α β : Type} (a : α) (f : α → ScriptM β) (repo : Repo) :
    runScript (liftExc (.ok a) >>= f) repo = runScript (f a) repo := by
  rw [runScript_bind, runScript_liftExc]

/-- Reordering the notes changes nothing, except which exception a run raises when a note
does not resolve. -/
theorem computeBumpsFromChanges_perm (libs : Libraries) (components : List Component)
    (changedFilter : Option (List String)) {notes notes' : List ChangeNote}
    (hperm : notes.Perm notes') (repo : Repo) :
    (∃ e e', runScript (computeBumpsFromChanges libs components changedFilter notes) repo =
        (.error e, repo) ∧
      runScript (computeBumpsFromChanges libs components changedFilter notes') repo =
        (.error e', repo)) ∨
    runScript (computeBumpsFromChanges libs components changedFilter notes) repo =
      runScript (computeBumpsFromChanges libs components changedFilter notes') repo := by
  have hempty : notes.isEmpty = notes'.isEmpty := by
    rw [Bool.eq_iff_iff, List.isEmpty_iff, List.isEmpty_iff]
    exact ⟨fun h => (h ▸ hperm).symm.eq_nil, fun h => (h ▸ hperm.symm).symm.eq_nil⟩
  unfold computeBumpsFromChanges
  rw [hempty]
  split_ifs
  · exact .inr rfl
  by_cases hall : ∀ note ∈ notes, ∃ name, resolveComponentName components note.component = .ok name
  · obtain ⟨d, hd, hmax, hkeys⟩ := @aggregate_notes components changedFilter notes hall
    obtain ⟨d', hd', hmax', hkeys'⟩ := @aggregate_notes components changedFilter notes'
      fun note hn => hall note (hperm.mem_iff.mpr hn)
    refine .inr ?_
    rw [hd, hd', runScript_liftExc_ok_bind, runScript_liftExc_ok_bind,
      planComponents_congr libs components hkeys hkeys' (hmax.lookup_eq hmax' (askedBy_perm _ hperm))]
  · have hfail : ∀ xs, xs.Perm notes →
        ∃ e, aggregate (noteEntry components changedFilter) [] xs = .error e := fun xs hxs => by
      cases h : aggregate (noteEntry components changedFilter) [] xs with
      | ok d => exact absurd (fun note hn => aggregate_notes_ok_iff.mp ⟨d, h⟩ note
          (hxs.mem_iff.mpr hn)) hall
      | error e => exact ⟨e, rfl⟩
    obtain ⟨e, he⟩ := hfail notes (List.Perm.refl _)
    obtain ⟨e', he'⟩ := hfail notes' hperm.symm
    exact .inl ⟨e, e', by rw [he]; rfl, by rw [he']; rfl⟩

/-- With valid bump names, reordering the commits changes nothing. -/
theorem computeBumps_perm (libs : Libraries) (components : List Component) (cfg : CommitConfig)
    (changed : List String) (htypes : ∀ e ∈ cfg.typeBumps, e.2 ∈ validBumps)
    {commits commits' : List Commit} (hperm : commits.Perm commits') (repo : Repo) :
    runScript (computeBumps libs components cfg changed commits) repo =
      runScript (computeBumps libs components cfg changed commits') repo := by
  obtain ⟨d, hd, hmax, hkeys⟩ := @aggregate_commits components cfg changed htypes commits
  obtain ⟨d', hd', hmax', hkeys'⟩ := @aggregate_commits components cfg changed htypes commits'
  have hl := hmax.lookup_eq hmax' (askedBy_perm _ hperm)
  unfold computeBumps
  rw [hd, hd', runScript_liftExc_ok_bind, runScript_liftExc_ok_bind,
    planComponents_congr libs components (nodup_keys_addFallbacks _ _ hkeys)
      (nodup_keys_addFallbacks _ _ hkeys') fun n => by
        rw [lookup_addFallbacks, lookup_addFallbacks, hl]]

/-- **Each component gets the largest bump asked for it, and the plan does not depend on the
order of the inputs.** For notes, the dict maps each component to the largest bump of the
notes that resolve to it and pass the filter; for commits, to the largest bump of the commits
mapped to it, or the fallback for a changed component no commit maps to. Reordering the notes
or the commits gives the same plan (current and next versions included), except that when a
note does not resolve both orders raise, possibly naming different notes. -/
theorem computeBumps_takes_max (libs : Libraries) (components : List Component)
    (changedFilter : Option (List String)) (notes notes' : List ChangeNote) (cfg : CommitConfig)
    (changed : List String) (commits commits' : List Commit) (fallback : Bump) (repo : Repo)
    (htypes : ∀ e ∈ cfg.typeBumps, e.2 ∈ validBumps) (hfallback : cfg.fallbackBump = fallback.name)
    (hnotes : notes.Perm notes') (hcommits : commits.Perm commits') :
    (∀ bumps, aggregate (noteEntry components changedFilter) [] notes = .ok bumps →
      ChoosesMax bumps (askedBy (noteTarget components changedFilter) notes)) ∧
    (∃ bumps, aggregate (fun commit => pure (commitEntry components cfg changed commit)) []
        commits = .ok bumps ∧
      ChoosesMax (addFallbacks cfg.fallbackBump changed bumps) fun name =>
        if askedBy (commitTarget components cfg changed) commits name = [] ∧ name ∈ changed then
          [fallback]
        else askedBy (commitTarget components cfg changed) commits name) ∧
    ((∃ e e', runScript (computeBumpsFromChanges libs components changedFilter notes) repo =
        (.error e, repo) ∧
      runScript (computeBumpsFromChanges libs components changedFilter notes') repo =
        (.error e', repo)) ∨
      runScript (computeBumpsFromChanges libs components changedFilter notes) repo =
        runScript (computeBumpsFromChanges libs components changedFilter notes') repo) ∧
    runScript (computeBumps libs components cfg changed commits) repo =
      runScript (computeBumps libs components cfg changed commits') repo := by
  refine ⟨fun bumps h => ?_, ?_, computeBumpsFromChanges_perm libs components changedFilter hnotes repo,
    computeBumps_perm libs components cfg changed htypes hcommits repo⟩
  · obtain ⟨d, hd, hmax, -⟩ := @aggregate_notes components changedFilter notes
      (aggregate_notes_ok_iff.mp ⟨bumps, h⟩)
    rw [h] at hd
    cases hd
    exact hmax
  · obtain ⟨d, hd, hmax, -⟩ := @aggregate_commits components cfg changed htypes commits
    exact ⟨d, hd, by rw [hfallback]; exact hmax.withFallbacks fallback changed⟩

/-- Two components, each with a scope of its own name. -/
def scopedComponents : List Component :=
  [⟨"api", some "api", none, "api/VERSION", "plain", []⟩,
    ⟨"web", some "web", none, "web/VERSION", "plain", []⟩]

def sampleNotes : List ChangeNote :=
  [⟨"api", .minor, "Add an endpoint", "add-endpoint.yaml"⟩,
    ⟨"api", .patch, "Fix a typo", "fix-typo.yaml"⟩]

def sampleCommits : List Commit :=
  [⟨"a1b2c3d4", "feat(web): add a page", ""⟩, ⟨"e5f6a7b8", "fix(web): fix a link", ""⟩]

def sampleCommitConfig : CommitConfig :=
  CommitConfig.read [("feat", "minor"), ("fix", "patch")] none none

theorem computeBumps_takes_max_reversed :
    (∀ e ∈ sampleCommitConfig.typeBumps, e.2 ∈ validBumps) ∧
    sampleCommitConfig.fallbackBump = Bump.patch.name ∧
    sampleNotes.Perm sampleNotes.reverse ∧ sampleCommits.Perm sampleCommits.reverse ∧
    ((∀ bumps, aggregate (noteEntry scopedComponents none) [] sampleNotes = .ok bumps →
      ChoosesMax bumps (askedBy (noteTarget scopedComponents none) sampleNotes)) ∧
    (∃ bumps, aggregate (fun commit => pure (commitEntry scopedComponents sampleCommitConfig
        ["web"] commit)) [] sampleCommits = .ok bumps ∧
      ChoosesMax (addFallbacks sampleCommitConfig.fallbackBump ["web"] bumps) fun name =>
        if askedBy (commitTarget scopedComponents sampleCommitConfig ["web"]) sampleCommits name = []
          ∧ name ∈ ["web"] then [Bump.patch]
        else askedBy (commitTarget scopedComponents sampleCommitConfig ["web"]) sampleCommits name) ∧
    ((∃ e e', runScript (computeBumpsFromChanges noLibraries scopedComponents none sampleNotes)
        releaseRepo = (.error e, releaseRepo) ∧
      runScript (computeBumpsFromChanges noLibraries scopedComponents none sampleNotes.reverse)
        releaseRepo = (.error e', releaseRepo)) ∨
      runScript (computeBumpsFromChanges noLibraries scopedComponents none sampleNotes) releaseRepo =
        runScript (computeBumpsFromChanges noLibraries scopedComponents none sampleNotes.reverse)
          releaseRepo) ∧
    runScript (computeBumps noLibraries scopedComponents sampleCommitConfig ["web"] sampleCommits)
        releaseRepo =
      runScript (computeBumps noLibraries scopedComponents sampleCommitConfig ["web"]
        sampleCommits.reverse) releaseRepo) :=
  have htypes : ∀ e ∈ sampleCommitConfig.typeBumps, e.2 ∈ validBumps := by decide
  have hnotes : sampleNotes.Perm sampleNotes.reverse := (List.reverse_perm _).symm
  have hcommits : sampleCommits.Perm sampleCommits.reverse := (List.reverse_perm _).symm
  ⟨htypes, rfl, hnotes, hcommits, computeBumps_takes_max noLibraries scopedComponents none
    sampleNotes sampleNotes.reverse sampleCommitConfig ["web"] sampleCommits sampleCommits.reverse
    .patch releaseRepo htypes rfl hnotes hcommits⟩

end Tentacle.Release
