import Tentacle.Release.ComputeBumps

/-!
# Checking that versions are in sync

`check_version_sync.py` goes through the components of `component_map(config)` by name and
collects an error for each component whose source version cannot be read or is not a
semver, and for each of its runtime version files that is missing, cannot be parsed, or
holds another version. The checker only reads, so it is modelled as a function of the
repository, running the readers of `_common.py` on it.

* `validateComponentVersions_eq_nil_iff` — the checker reports nothing exactly when every
  component is in sync (`Synced`).
* `componentErrors_without_file_check` — its check that the primary version file exists never
  fires: a source version that was read came from that file.
* `synced_writeComponentVersion` — writing a version that reads back keeps the repository in
  sync: the written component reads the new version everywhere, and the other components'
  files are untouched when no two components share a version source file.
* `bumpVersions_keeps_sync` — **a `bump_versions.py` run that returns leaves a repository the
  checker accepts accepted**, when every planned component reads back what is written, every
  planned version is a semver `ensure_semver` reads, and `--output` is no version source. A
  run that raises gives no such guarantee: it can stop between a primary file and its runtime
  files (`bumpVersions_not_all_or_nothing`).
-/

namespace Tentacle.Release

/-! ## The checker -/

/-- `ensure_semver(version)` on the value `read_component_version` returned: `strip` needs a
string. -/
def ensureSemverOf : PyVal → Except PyExc (Nat × Nat × Nat)
  | .str version => ensureSemver version
  | _ => .error (PyExc.attributeError "strip")

/-- The `try` block of `validate_component_versions`: the source version, which must pass
`ensure_semver`. -/
def sourceVersion (libs : Libraries) (component : Component) : ScriptM PyVal := do
  let version ← readComponentVersion libs component
  let _ ← liftExc (ensureSemverOf version)
  pure version

/-- The checks of one runtime version file against the source version. -/
def runtimeFileErrors (repo : Repo) (name : String) (version : PyVal) (runtimeFile : String) :
    List String :=
  if (repo runtimeFile).isNone then [s!"{name}: missing runtime version file {runtimeFile}"]
  else match (runScript (readRuntimeFileVersion runtimeFile) repo).1 with
    | .error exc => [s!"{name}: could not parse {runtimeFile} ({exc.message})"]
    | .ok runtimeVersion =>
      if !version.eqStr runtimeVersion then
        [s!"{name}: runtime version drift in {runtimeFile} (expected {pyStr version}, found {runtimeVersion})"]
      else []

/-- The body of the loop of `validate_component_versions` for one component. -/
def componentErrors (libs : Libraries) (repo : Repo) (name : String) (component : Component) :
    List String :=
  match (runScript (sourceVersion libs component) repo).1 with
  | .error exc => [s!"{name}: invalid source version ({exc.message})"]
  | .ok version =>
    (if (repo component.versionFile).isNone then
      [s!"{name}: missing version file {component.versionFile}"] else []) ++
    component.runtimeVersionFiles.flatMap (runtimeFileErrors repo name version)

/-- `validate_component_versions`, over `sorted(component_map(config).items())`: the map's
keys are the distinct component names. -/
def validateComponentVersions (libs : Libraries) (components : List Component) (repo : Repo) :
    List String :=
  (sortedNames (components.map (·.name)).dedup).flatMap fun name =>
    match componentMap components name with
    | some component => componentErrors libs repo name component
    | none => []

/-! ## In sync -/

/-- A component is in sync: its source version is a string that passes `ensure_semver`, and
every runtime version file reads that string. -/
def ComponentSynced (libs : Libraries) (repo : Repo) (component : Component) : Prop :=
  ∃ v, (runScript (readComponentVersion libs component) repo).1 = .ok (.str v) ∧
    (∃ t, ensureSemver v = .ok t) ∧
    ∀ f ∈ component.runtimeVersionFiles, (runScript (readRuntimeFileVersion f) repo).1 = .ok v

/-- Every component of `component_map(config)` is in sync. -/
def Synced (libs : Libraries) (components : List Component) (repo : Repo) : Prop :=
  ∀ name component, componentMap components name = some component →
    ComponentSynced libs repo component

section Checker

variable {libs : Libraries} {repo : Repo} {name : String} {component : Component}

theorem sourceVersion_ok_iff {version : PyVal} :
    (runScript (sourceVersion libs component) repo).1 = .ok version ↔
      (runScript (readComponentVersion libs component) repo).1 = .ok version ∧
        ∃ t, ensureSemverOf version = .ok t := by
  have hro : ReadOnly (readComponentVersion libs component) := readComponentVersion_readOnly
  have h := hro repo
  simp only [sourceVersion, runScript_bind]
  generalize runScript (readComponentVersion libs component) repo = r at h ⊢
  obtain ⟨_ | v, r⟩ := r
  · simp
  · dsimp only at h ⊢
    rw [runScript_liftExc]
    cases hv : ensureSemverOf v with
    | error e =>
      constructor
      · intro h
        cases h
      rintro ⟨⟨⟩, t, ht⟩
      rw [hv] at ht
      cases ht
    | ok t => exact ⟨fun h => by cases h; exact ⟨rfl, t, hv⟩, fun h => h.1⟩

theorem runtimeFileErrors_eq_nil_iff {v f : String} :
    runtimeFileErrors repo name (.str v) f = [] ↔
      (runScript (readRuntimeFileVersion f) repo).1 = .ok v := by
  unfold runtimeFileErrors
  cases hf : repo f with
  | none =>
    obtain ⟨e, he⟩ := readRuntimeFileVersion_missing hf
    simp [he]
  | some _ =>
    simp only [Option.isNone_some, Bool.false_eq_true, if_false]
    cases (runScript (readRuntimeFileVersion f) repo).1 with
    | error e => simp
    | ok rv =>
      by_cases hrv : v = rv
      · subst hrv
        simp
      · simp [hrv, Ne.symm hrv]

/-- **The check that the primary version file exists never fires**: a source version that was
read came from that file, so the only errors left are those of the runtime files. -/
theorem componentErrors_of_sourceVersion {version : PyVal}
    (h : (runScript (sourceVersion libs component) repo).1 = .ok version) :
    componentErrors libs repo name component =
      component.runtimeVersionFiles.flatMap (runtimeFileErrors repo name version) := by
  have hfile : (repo component.versionFile).isNone = false := by
    cases hf : repo component.versionFile with
    | none =>
      obtain ⟨e, he⟩ : ∃ e, (runScript (readComponentVersion libs component) repo).1 = .error e :=
        readComponentVersion_missing hf
      simp [(sourceVersion_ok_iff.mp h).1] at he
    | some _ => rfl
  simp only [componentErrors, h, hfile, Bool.false_eq_true, if_false, List.nil_append]

theorem componentErrors_eq_nil_iff :
    componentErrors libs repo name component = [] ↔ ComponentSynced libs repo component := by
  constructor
  · intro h
    cases hsrc : (runScript (sourceVersion libs component) repo).1 with
    | error e => simp [componentErrors, hsrc] at h
    | ok version =>
      obtain ⟨hread, t, ht⟩ := sourceVersion_ok_iff.mp hsrc
      obtain ⟨v, rfl⟩ : ∃ v, version = .str v := by
        cases version <;> first | exact ⟨_, rfl⟩ | cases ht
      rw [componentErrors_of_sourceVersion hsrc, List.flatMap_eq_nil_iff] at h
      exact ⟨v, hread, ⟨t, ht⟩, fun f hf => runtimeFileErrors_eq_nil_iff.mp (h f hf)⟩
  · rintro ⟨v, hread, hsemver, hruntime⟩
    rw [componentErrors_of_sourceVersion (sourceVersion_ok_iff.mpr ⟨hread, hsemver⟩),
      List.flatMap_eq_nil_iff]
    exact fun f hf => runtimeFileErrors_eq_nil_iff.mpr (hruntime f hf)

end Checker

section Validate

variable {libs : Libraries} {components : List Component} {repo : Repo}

theorem mem_validatedNames {name : String} :
    name ∈ sortedNames (components.map (·.name)).dedup ↔ (componentMap components name).isSome := by
  rw [sortedNames, List.mem_insertionSort, List.mem_dedup, componentMap_isSome]

theorem synced_of_validateComponentVersions (h : validateComponentVersions libs components repo = []) :
    Synced libs components repo := by
  intro name c hc
  have hc' := List.flatMap_eq_nil_iff.1 h name (mem_validatedNames.2 (by rw [hc]; rfl))
  rw [hc] at hc'
  exact componentErrors_eq_nil_iff.mp hc'

theorem validateComponentVersions_of_synced (h : Synced libs components repo) :
    validateComponentVersions libs components repo = [] := by
  refine List.flatMap_eq_nil_iff.2 fun name hn => ?_
  obtain ⟨c, hc⟩ := Option.isSome_iff_exists.mp (mem_validatedNames.1 hn)
  rw [hc]
  exact componentErrors_eq_nil_iff.mpr (h name c hc)

end Validate

/-- **The checker reports nothing exactly when every component is in sync.** -/
theorem validateComponentVersions_eq_nil_iff (libs : Libraries) (components : List Component)
    (repo : Repo) :
    validateComponentVersions libs components repo = [] ↔ Synced libs components repo :=
  ⟨synced_of_validateComponentVersions, validateComponentVersions_of_synced⟩

/-- **The check that the primary version file exists is dead**: the errors of every component
are those of the loop body without it. -/
theorem componentErrors_without_file_check (libs : Libraries) (repo : Repo) (name : String)
    (component : Component) :
    componentErrors libs repo name component =
      match (runScript (sourceVersion libs component) repo).1 with
      | .error exc => [s!"{name}: invalid source version ({exc.message})"]
      | .ok version => component.runtimeVersionFiles.flatMap (runtimeFileErrors repo name version) := by
  cases h : (runScript (sourceVersion libs component) repo).1 with
  | error exc => simp only [componentErrors, h]
  | ok version => rw [componentErrors_of_sourceVersion h]

/-! ## Writing a version keeps the repository in sync -/

/-- A component `write_component_version` can bump in place: its primary file reads back and
is not also one of its runtime files. -/
def RoundTrips (libs : Libraries) (component : Component) : Prop :=
  component.versionFile ∉ component.runtimeVersionFiles ∧ ReadsBack libs component

/-- Distinct components of the config share no version source file. -/
def SourcesDisjoint (components : List Component) : Prop :=
  ∀ c ∈ components, ∀ d ∈ components, c.name ≠ d.name →
    ∀ p ∈ versionSourceFiles c, p ∉ versionSourceFiles d

instance (components : List Component) : Decidable (SourcesDisjoint components) :=
  inferInstanceAs (Decidable (∀ c ∈ components, ∀ d ∈ components, c.name ≠ d.name →
    ∀ p ∈ versionSourceFiles c, p ∉ versionSourceFiles d))

section Writes

variable {libs : Libraries} {components : List Component} {component : Component}
  {v : String} {repo repo' : Repo}

/-- A component whose version source files are unchanged is as much in sync as it was. -/
theorem ComponentSynced.congr (h : ComponentSynced libs repo component)
    (hfiles : ∀ p ∈ versionSourceFiles component, repo p = repo' p) :
    ComponentSynced libs repo' component := by
  obtain ⟨v, hread, hsemver, hruntime⟩ := h
  refine ⟨v, ?_, hsemver, fun f hf => ?_⟩
  · rw [← readComponentVersion_readsFrom repo repo' fun p hp => hfiles p (by
      rw [List.mem_singleton.mp hp]; exact List.mem_cons_self _ _), hread]
  · rw [← readRuntimeFileVersion_readsFrom repo repo' fun p hp => hfiles p (by
      rw [List.mem_singleton.mp hp]; exact List.mem_cons_of_mem _ hf), hruntime f hf]

/-- A component that round-trips reads back the version just written to it. -/
theorem readComponentVersion_after_write {changed : List String}
    (hround : RoundTrips libs component) (hv : IsSemverText v)
    (h : runScript (writeComponentVersion libs component v) repo = (.ok changed, repo')) :
    (runScript (readComponentVersion libs component) repo').1 = .ok (.str v) := by
  obtain ⟨repo₁, hprim, out, hrt⟩ := writeComponentVersion_ok h
  rw [readComponentVersion_after_writePrimary hround.2 hv hprim
    ((updateRuntimeFiles_reads hv.isValue hv.cr_not_mem hrt).2 _ hround.1)]

/-- The component just written is in sync. -/
theorem componentSynced_writeComponentVersion {changed : List String}
    (hround : RoundTrips libs component) (hv : IsSemverText v) (hfit : FitsIntLimit v)
    (h : runScript (writeComponentVersion libs component v) repo = (.ok changed, repo')) :
    ComponentSynced libs repo' component := by
  obtain ⟨repo₁, hprim, out, hrt⟩ := writeComponentVersion_ok h
  exact ⟨v, readComponentVersion_after_write hround hv h, hv.ensureSemver_ok hfit, fun f hf =>
    congrArg Prod.fst (runScript_readRuntimeFileVersion
      ((updateRuntimeFiles_reads hv.isValue hv.cr_not_mem hrt).1 f hf))⟩

/-- Writing a version that reads back keeps a synced repository synced, when no two
components share a version source file. -/
theorem synced_writeComponentVersion {name : String} {changed : List String}
    (hsync : Synced libs components repo) (hdisj : SourcesDisjoint components)
    (hc : componentMap components name = some component) (hround : RoundTrips libs component)
    (hv : IsSemverText v) (hfit : FitsIntLimit v)
    (h : runScript (writeComponentVersion libs component v) repo = (.ok changed, repo')) :
    Synced libs components repo' := by
  intro m d hd
  obtain ⟨hcmem, rfl⟩ := componentMap_eq_some hc
  obtain ⟨hdmem, rfl⟩ := componentMap_eq_some hd
  by_cases hname : component.name = d.name
  · rw [← hname, hc] at hd
    cases hd
    exact componentSynced_writeComponentVersion hround hv hfit h
  · have hw : WritesWithin _ (writeComponentVersion libs component v) :=
      writeComponentVersion_writesWithin
    refine (hsync _ d hd).congr fun p hp => ?_
    have hframe := hw repo p (hdisj d hdmem component hcmem (Ne.symm hname) p hp)
    rw [h] at hframe
    exact hframe.symm

/-- Writing a file that is no component's version source keeps every component in sync. -/
theorem Synced.update {path : String} {text : Option String} (h : Synced libs components repo)
    (hpath : ∀ c ∈ components, path ∉ versionSourceFiles c) :
    Synced libs components (Function.update repo path text) := fun name c hc =>
  (h name c hc).congr fun p hp => (Function.update_noteq
    (fun hpp : p = path => hpath c (componentMap_eq_some hc).1 (hpp ▸ hp)) _ _).symm

end Writes

/-! ## Whole `bump_versions.py` runs -/

/-- The loop of `bump_versions.py` keeps every component in sync, item by item. -/
theorem synced_bumpVersionsLoop {libs : Libraries} {components : List Component}
    (hdisj : SourcesDisjoint components) :
    ∀ {items : List PlanItem} {changedFiles result : List (String × PyVal)} {repo repo' : Repo},
      (∀ item ∈ items, IsSemverText item.nextVersion ∧ FitsIntLimit item.nextVersion ∧
        ∀ c, componentMap components item.name = some c → RoundTrips libs c) →
      Synced libs components repo →
      runScript (bumpVersionsLoop libs components changedFiles items) repo = (.ok result, repo') →
      Synced libs components repo'
  | [], _, _, _, _, _, hsync, hrun => by
    cases hrun
    exact hsync
  | item :: items, _, _, _, _, hitems, hsync, hrun => by
    rw [bumpVersionsLoop_cons] at hrun
    obtain ⟨changed, mid, hitem, hrest⟩ := runScript_bind_ok hrun
    obtain ⟨c, hc, hwrite⟩ := bumpItem_ok hitem
    obtain ⟨hv, hfit, hround⟩ := hitems item (List.mem_cons_self _ _)
    exact synced_bumpVersionsLoop hdisj (fun i hi => hitems i (List.mem_cons_of_mem _ hi))
      (synced_writeComponentVersion hsync hdisj hc (hround c hc) hv hfit hwrite) hrest

/-- **A `bump_versions.py` run that returns keeps `check_version_sync.py` passing**, when no
two components share a version source file, every planned version is a semver whose numbers
`ensure_semver` reads, every planned component reads back what is written to it, and the
`--output` file is no component's version source. -/
theorem bumpVersions_keeps_sync (libs : Libraries) (components : List Component)
    (items : List PlanItem) (output : Option String) (repo repo' : Repo)
    (hdisj : SourcesDisjoint components)
    (hitems : ∀ item ∈ items, IsSemverText item.nextVersion ∧ FitsIntLimit item.nextVersion ∧
      ∀ c, componentMap components item.name = some c → RoundTrips libs c)
    (houtput : ∀ path, givenArg output = some path → ∀ c ∈ components, path ∉ versionSourceFiles c)
    (hsync : validateComponentVersions libs components repo = [])
    (hrun : runScript (bumpVersions libs components items output) repo = (.ok (), repo')) :
    validateComponentVersions libs components repo' = [] := by
  refine validateComponentVersions_of_synced ?_
  obtain ⟨changedFiles, mid, hloop, hout⟩ := runScript_bind_ok hrun
  have hmid := synced_bumpVersionsLoop hdisj hitems (synced_of_validateComponentVersions hsync)
    hloop
  rw [runScript_writeChangedFiles, Prod.mk.injEq] at hout
  rw [← hout.2]
  split
  · next path hpath => exact hmid.update (houtput path hpath)
  · exact hmid

/-- A `plain` component mirrored in a module, in sync at `2.0.1`. -/
def syncedComponents : List Component :=
  [⟨"web", none, none, "web/VERSION", "plain", ["web/version.py"]⟩]

def syncedRepo : Repo
  | "web/VERSION" => some "2.0.1\n"
  | "web/version.py" => some "__version__ = \"2.0.1\"\n"
  | _ => none

def syncedPlan : List PlanItem := [⟨"web", "2.0.1", "2.1.0"⟩]

/-- The `--output` of the sample runs, outside every component's version sources. -/
theorem changedJson_not_source :
    ∀ path, givenArg (some "changed.json") = some path →
      ∀ c ∈ syncedComponents, path ∉ versionSourceFiles c := by
  intro path hpath
  obtain rfl : "changed.json" = path := Option.some.inj hpath
  decide

theorem bumpVersions_keeps_sync_web :
    let run := runScript (bumpVersions noLibraries syncedComponents syncedPlan
      (some "changed.json")) syncedRepo
    SourcesDisjoint syncedComponents ∧
    (∀ item ∈ syncedPlan, IsSemverText item.nextVersion ∧ FitsIntLimit item.nextVersion ∧
      ∀ c, componentMap syncedComponents item.name = some c → RoundTrips noLibraries c) ∧
    (∀ path, givenArg (some "changed.json") = some path →
      ∀ c ∈ syncedComponents, path ∉ versionSourceFiles c) ∧
    validateComponentVersions noLibraries syncedComponents syncedRepo = [] ∧
    run = (.ok (), run.2) ∧ validateComponentVersions noLibraries syncedComponents run.2 = [] :=
  have hdisj : SourcesDisjoint syncedComponents := by decide
  have hitems : ∀ item ∈ syncedPlan, IsSemverText item.nextVersion ∧
      FitsIntLimit item.nextVersion ∧
      ∀ c, componentMap syncedComponents item.name = some c → RoundTrips noLibraries c := by
    intro item hi
    rw [List.mem_singleton.mp hi]
    refine ⟨⟨['2'], ['1'], ['0'], by simp, by simp, by simp, by decide, rfl⟩, by decide,
      fun c hc => ?_⟩
    cases hc
    exact ⟨by decide, .inr (.inl rfl)⟩
  have hsync : validateComponentVersions noLibraries syncedComponents syncedRepo = [] := by decide
  have hrun : runScript (bumpVersions noLibraries syncedComponents syncedPlan
      (some "changed.json")) syncedRepo = (.ok (), _) := Prod.ext rfl rfl
  ⟨hdisj, hitems, changedJson_not_source, hsync, hrun,
    bumpVersions_keeps_sync _ _ _ _ _ _ hdisj hitems changedJson_not_source hsync hrun⟩

/-! ## `bump_component.py`

One component, named or found by its scope, is bumped by one step and written back;
`bumpComponent` is the script up to that write. Its manifest update and its `--output` JSON
come after, in `bumpComponentMain`. -/

/-- The `result` dict of `bump_component.py`. -/
structure BumpResult where
  name : String
  scope : Option String
  kind : Option String
  bump : String
  currentVersion : PyVal
  nextVersion : String
  changedFiles : List String

/-- `result` as `dump_json` writes it to `--output`. -/
def BumpResult.toJson (r : BumpResult) : PyVal :=
  .dict [("name", .str r.name), ("scope", optStr r.scope), ("kind", optStr r.kind),
    ("bump", .str r.bump), ("current_version", r.currentVersion),
    ("next_version", .str r.nextVersion), ("changed_files", .list (r.changedFiles.map .str))]

/-- `bump_component.py` up to its manifest update. `ensure_valid_bump` returns the bump it
accepted, whose name is the argument. -/
def bumpComponent (libs : Libraries) (components : List Component) (value bump : String)
    (dryRun : Bool) : ScriptM BumpResult := do
  let componentName ← liftExc (resolveComponentName components value)
  let some component := componentMap components componentName
    | throw ⟨.keyError, s!"'{componentName}'"⟩
  let bump ← liftExc (ensureValidBump bump)
  let current ← readComponentVersion libs component
  let nextVersion ← liftExc (bumpSemverOf current bump.name)
  if dryRun then
    return ⟨componentName, component.scope, component.kind, bump.name, current, nextVersion, []⟩
  else
    let changedFiles ← writeComponentVersion libs component nextVersion
    return ⟨componentName, component.scope, component.kind, bump.name, current, nextVersion,
      changedFiles⟩

theorem bumpSemverOf_versionText {current : PyVal} {bump next : String}
    (h : bumpSemverOf current bump = .ok next) : IsSemverText next ∧ FitsIntLimit next := by
  cases current <;> first | cases h | exact bumpSemver_versionText h

/-- What a `bump_component.py` run that returns has done: it found the component and a bumped
semver for it, and either it was a dry run and wrote nothing, or it wrote that version. -/
theorem bumpComponent_ok {libs : Libraries} {components : List Component} {value bump : String}
    {dryRun : Bool} {repo repo' : Repo} {result : BumpResult}
    (h : runScript (bumpComponent libs components value bump dryRun) repo = (.ok result, repo')) :
    ∃ c, componentMap components result.name = some c ∧ IsSemverText result.nextVersion ∧
      FitsIntLimit result.nextVersion ∧
      ((dryRun = true ∧ repo' = repo) ∨ (dryRun = false ∧
        runScript (writeComponentVersion libs c result.nextVersion) repo =
          (.ok result.changedFiles, repo'))) := by
  unfold bumpComponent at h
  obtain ⟨name, r₁, hname, h⟩ := runScript_bind_ok h
  obtain ⟨-, rfl⟩ := runScript_liftExc_ok hname
  split at h
  · next c hc =>
    obtain ⟨b, r₂, hb, h₂⟩ := runScript_bind_ok h
    obtain ⟨-, rfl⟩ := runScript_liftExc_ok hb
    obtain ⟨current, r₃, hread, h₃⟩ := runScript_bind_ok h₂
    obtain rfl := readComponentVersion_readOnly.eq_of_ok hread
    obtain ⟨next, r₄, hnext, h₄⟩ := runScript_bind_ok h₃
    obtain ⟨hbump, rfl⟩ := runScript_liftExc_ok hnext
    obtain ⟨hv, hfit⟩ := bumpSemverOf_versionText hbump
    cases dryRun
    · obtain ⟨changed, r₅, hw, h₅⟩ := runScript_bind_ok h₄
      simp only [runScript_pure, Prod.mk.injEq, Except.ok.injEq] at h₅
      obtain ⟨rfl, rfl⟩ := h₅
      exact ⟨c, hc, hv, hfit, .inr ⟨rfl, hw⟩⟩
    · simp only [if_true, runScript_pure, Prod.mk.injEq, Except.ok.injEq] at h₄
      obtain ⟨rfl, rfl⟩ := h₄
      exact ⟨c, hc, hv, hfit, .inl ⟨rfl, rfl⟩⟩
  · cases h

end Tentacle.Release
