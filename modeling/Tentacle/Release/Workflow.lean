import Tentacle.Release.Manifest

/-!
# The release workflow: bump, manifest, check

`bump_component.py` bumps one component; unless it is a dry run or `--no-update-manifest` is
given, it then runs `update_manifest.py` on the manifest as a subprocess, and it writes its
result to `--output` when one is given. `check_version_sync.py` validates the version files
and, with `--manifest`, the manifest against them. This module models the two `main`s and
follows a repository through the workflow.

* `checkVersionSync_passes` — `check_version_sync.py --manifest` passes, and writes nothing,
  when neither validator reports an error.
* `runScript_bumpComponentMain_ok` — a `bump_component.py` run that returns has bumped, run
  the manifest update when it was due, and written `--output`.
* `bumpComponent_keeps_sync` — a `bump_component.py` run that returns keeps every component
  in sync, whatever its flags, when neither the manifest nor `--output` is a version source.
* `bumpComponentMain_passes_checkVersionSync` — from a repository `check_version_sync.py`
  accepts, a `bump_component.py` run that writes and updates the manifest leaves one that
  `check_version_sync.py --manifest` accepts, when YAML reads the manifest back.
* `manifestItem_readsFrom` — an entry of the manifest depends only on the version source
  files of the config's components.
* `updateManifest_idempotent` — a second `update_manifest.py` run with the same
  `--platform-release`, clock and commit returns and changes nothing.
-/

namespace Tentacle.Release

/-! ## `check_version_sync.py` -/

/-- The manifest `bump_component.py` updates: `args.manifest`, or when it is not truthy the
config's `release.manifest_file`, by default `manifest.yaml`. -/
def bumpManifestPath (manifestArg releaseManifestFile : Option String) : String :=
  match manifestArg with
  | some path => if path.isEmpty then releaseManifestFile.getD "manifest.yaml" else path
  | none => releaseManifestFile.getD "manifest.yaml"

/-- `str()` of a list of strings, as a `CalledProcessError` message shows its command: each
string between single quotes (quotes inside a string are not escaped in the model). -/
def pyStrList (xs : List String) : String :=
  "[" ++ ", ".intercalate (xs.map fun x => "'" ++ x ++ "'") ++ "]"

/-- `subprocess.run(cmd, check=True)` on a script of the repository whose run is `child`: what
the child writes stays written; a child that raises exits with status 1, and the parent then
raises `CalledProcessError`. What the child prints is left out. -/
def runSubprocess (cmd : List String) (child : ScriptM Unit) : ScriptM Unit := do
  let repo ← get
  match runScript child repo with
  | (.ok (), repo') => set repo'
  | (.error _, repo') => do
    set repo'
    throw ⟨.calledProcessError, s!"Command '{pyStrList cmd}' returned non-zero exit status 1."⟩

/-- `run_update_manifest(config_path, manifest_path)`: `update_manifest.py --config <config>
--output <manifest>` as a subprocess, `scriptPath` being `str(update_manifest_script)`. The
child reads the same config and is given no `--platform-release`; `datePrefix`, `generatedAt`
and `gitSha` are what its clock and `git rev-parse HEAD` give. -/
def runUpdateManifest (libs : Libraries) (yaml : YamlLib) (sha256 : List Char → String)
    (datePrefix generatedAt gitSha : String) (components : List ConfigComponent)
    (scriptPath configPath manifestPath : String) : ScriptM Unit :=
  runSubprocess ["python3", scriptPath, "--config", configPath, "--output", manifestPath]
    (updateManifest libs yaml sha256 datePrefix generatedAt gitSha components manifestPath none)

/-- `main` of `bump_component.py`: the bump; then, when it wrote and `--no-update-manifest` is
not given, `run_update_manifest(args.config, manifest_path)`; then the result as JSON to
`--output`, when one is given. -/
def bumpComponentMain (libs : Libraries) (yaml : YamlLib) (sha256 : List Char → String)
    (datePrefix generatedAt gitSha : String) (components : List ConfigComponent)
    (scriptPath configArg value bump : String) (dryRun noUpdateManifest : Bool)
    (manifestArg releaseManifestFile output : Option String) : ScriptM BumpResult := do
  let result ← bumpComponent libs (components.map (·.toComponent)) value bump dryRun
  (if dryRun || noUpdateManifest then pure ()
    else runUpdateManifest libs yaml sha256 datePrefix generatedAt gitSha components scriptPath
      configArg (bumpManifestPath manifestArg releaseManifestFile))
  dumpJsonArg libs output result.toJson
  pure result

/-- A subprocess that returns did what its child did. -/
theorem runScript_runSubprocess_ok {cmd : List String} {child : ScriptM Unit} {repo repo' : Repo}
    (h : runScript (runSubprocess cmd child) repo = (.ok (), repo')) :
    runScript child repo = (.ok (), repo') := by
  unfold runSubprocess at h
  rw [runScript_get_bind] at h
  rcases hc : runScript child repo with ⟨_ | u, r⟩ <;> rw [hc] at h
  · exact absurd (congrArg Prod.fst h) fun h' => by cases h'
  · cases congrArg Prod.snd h
    rfl

section Bump

variable {libs : Libraries} {yaml : YamlLib} {sha256 : List Char → String}
  {datePrefix generatedAt gitSha : String} {components : List ConfigComponent}
  {scriptPath configArg value bump : String} {dryRun noUpdateManifest : Bool}
  {manifestArg releaseManifestFile output : Option String} {repo repo' : Repo}
  {result : BumpResult}

/-- What a `bump_component.py` run that returns has done: the bump, the manifest update unless
it was a dry run or `--no-update-manifest` was given, and the `--output` JSON. -/
theorem runScript_bumpComponentMain_ok
    (h : runScript (bumpComponentMain libs yaml sha256 datePrefix generatedAt gitSha components
      scriptPath configArg value bump dryRun noUpdateManifest manifestArg releaseManifestFile
      output) repo = (.ok result, repo')) :
    ∃ repo₁ repo₂, runScript (bumpComponent libs (components.map (·.toComponent)) value bump
        dryRun) repo = (.ok result, repo₁) ∧
      ((dryRun || noUpdateManifest) = true ∧ repo₂ = repo₁ ∨
        (dryRun || noUpdateManifest) = false ∧ runScript (updateManifest libs yaml sha256
          datePrefix generatedAt gitSha components (bumpManifestPath manifestArg
            releaseManifestFile) none) repo₁ = (.ok (), repo₂)) ∧
      repo' = (runScript (dumpJsonArg libs output result.toJson) repo₂).2 := by
  unfold bumpComponentMain at h
  obtain ⟨result', r₁, hbump, h₁⟩ := runScript_bind_ok h
  obtain ⟨u, r₂, hman, h₂⟩ := runScript_bind_ok h₁
  obtain ⟨u', r₃, hout, h₃⟩ := runScript_bind_ok h₂
  rw [runScript_pure, Prod.mk.injEq, Except.ok.injEq] at h₃
  obtain ⟨rfl, rfl⟩ := h₃
  refine ⟨r₁, r₂, hbump, ?_, by rw [hout]⟩
  cases hflag : (dryRun || noUpdateManifest)
  · rw [hflag, if_neg Bool.false_ne_true] at hman
    exact .inr ⟨rfl, runScript_runSubprocess_ok hman⟩
  · rw [hflag, if_pos rfl, runScript_pure, Prod.mk.injEq] at hman
    exact .inl ⟨rfl, hman.2.symm⟩

/-- The bump of `bump_component.py` keeps every component in sync. -/
theorem synced_bumpComponent {components : List Component} {repo₁ : Repo}
    (hdisj : SourcesDisjoint components) (hsync : Synced libs components repo)
    (hrun : runScript (bumpComponent libs components value bump dryRun) repo =
      (.ok result, repo₁))
    (hround : ∀ c, componentMap components result.name = some c → RoundTrips libs c) :
    Synced libs components repo₁ := by
  obtain ⟨c, hc, hv, hfit, ⟨-, rfl⟩ | ⟨-, hw⟩⟩ := bumpComponent_ok hrun
  · exact hsync
  · exact synced_writeComponentVersion hsync hdisj hc (hround c hc) hv hfit hw

/-- So does the whole run, whose manifest and `--output` file are no version source. -/
theorem synced_bumpComponentMain (hdisj : SourcesDisjoint (components.map (·.toComponent)))
    (hmanifest : ∀ c ∈ components,
      bumpManifestPath manifestArg releaseManifestFile ∉ versionSourceFiles c.toComponent)
    (houtput : ∀ path, givenArg output = some path →
      ∀ c ∈ components, path ∉ versionSourceFiles c.toComponent)
    (hsync : Synced libs (components.map (·.toComponent)) repo)
    (hrun : runScript (bumpComponentMain libs yaml sha256 datePrefix generatedAt gitSha components
      scriptPath configArg value bump dryRun noUpdateManifest manifestArg releaseManifestFile
      output) repo = (.ok result, repo'))
    (hround : ∀ c, componentMap (components.map (·.toComponent)) result.name = some c →
      RoundTrips libs c) :
    Synced libs (components.map (·.toComponent)) repo' := by
  obtain ⟨r₁, r₂, hbump, hman, rfl⟩ := runScript_bumpComponentMain_ok hrun
  have hsync₁ := synced_bumpComponent hdisj hsync hbump hround
  have hsync₂ : Synced libs (components.map (·.toComponent)) r₂ := by
    rcases hman with ⟨-, rfl⟩ | ⟨-, hman⟩
    · exact hsync₁
    · obtain ⟨items, release, rfl, -, -⟩ := updateManifest_ok hman
      exact hsync₁.update (List.forall_mem_map.2 hmanifest)
  rw [runScript_dumpJsonArg]
  split
  · next path hpath => exact hsync₂.update (List.forall_mem_map.2 (houtput path hpath))
  · exact hsync₂

end Bump

/-- **A `bump_component.py` run that returns keeps `check_version_sync.py` passing**, dry or
not, with or without its manifest update and its `--output` JSON, when no two components share a
version source file, the bumped component reads back what is written to it, and neither the
manifest nor the `--output` file is a component's version source. The version it writes is a
bumped semver, so nothing is assumed of it. -/
theorem bumpComponent_keeps_sync (libs : Libraries) (yaml : YamlLib)
    (sha256 : List Char → String) (datePrefix generatedAt gitSha : String)
    (components : List ConfigComponent) (scriptPath configArg value bump : String)
    (dryRun noUpdateManifest : Bool) (manifestArg releaseManifestFile output : Option String)
    (repo repo' : Repo) (result : BumpResult)
    (hdisj : SourcesDisjoint (components.map (·.toComponent)))
    (hmanifest : ∀ c ∈ components,
      bumpManifestPath manifestArg releaseManifestFile ∉ versionSourceFiles c.toComponent)
    (houtput : ∀ path, givenArg output = some path →
      ∀ c ∈ components, path ∉ versionSourceFiles c.toComponent)
    (hsync : validateComponentVersions libs (components.map (·.toComponent)) repo = [])
    (hrun : runScript (bumpComponentMain libs yaml sha256 datePrefix generatedAt gitSha components
      scriptPath configArg value bump dryRun noUpdateManifest manifestArg releaseManifestFile
      output) repo = (.ok result, repo'))
    (hround : ∀ c, componentMap (components.map (·.toComponent)) result.name = some c →
      RoundTrips libs c) :
    validateComponentVersions libs (components.map (·.toComponent)) repo' = [] :=
  validateComponentVersions_of_synced (synced_bumpComponentMain hdisj hmanifest houtput
    (synced_of_validateComponentVersions hsync) hrun hround)

/-- The `--output` of the sample runs is neither the manifest nor a version source. -/
theorem bumpResultJson_not_source (components : List ConfigComponent)
    (h : ∀ c ∈ components, "bump-result.json" ∉ versionSourceFiles c.toComponent) :
    ∀ path, givenArg (some "bump-result.json") = some path →
      path ≠ "manifest.yaml" ∧ ∀ c ∈ components, path ∉ versionSourceFiles c.toComponent := by
  intro path hpath
  obtain rfl : "bump-result.json" = path := Option.some.inj hpath
  exact ⟨by decide, h⟩

theorem bumpComponent_keeps_sync_web :
    let run := runScript (bumpComponentMain noLibraries textYaml String.mk "platform-2026.11.09"
      "2026-11-09T00:00:00Z" "0123abc" appComponents "scripts/release/update_manifest.py"
      "release/config.yaml" "web" "minor" false false none none (some "bump-result.json"))
      appRepo
    SourcesDisjoint (appComponents.map (·.toComponent)) ∧
    (∀ c ∈ appComponents, bumpManifestPath none none ∉ versionSourceFiles c.toComponent) ∧
    (∀ path, givenArg (some "bump-result.json") = some path →
      ∀ c ∈ appComponents, path ∉ versionSourceFiles c.toComponent) ∧
    validateComponentVersions noLibraries (appComponents.map (·.toComponent)) appRepo = [] ∧
    run = (.ok ⟨"web", none, some "app", "minor", .str "2.0.1", "2.1.0", ["web/VERSION"]⟩,
      run.2) ∧
    (∀ c, componentMap (appComponents.map (·.toComponent)) "web" = some c →
      RoundTrips noLibraries c) ∧
    validateComponentVersions noLibraries (appComponents.map (·.toComponent)) run.2 = [] :=
  have hdisj : SourcesDisjoint (appComponents.map (·.toComponent)) := by decide
  have hmanifest : ∀ c ∈ appComponents,
      bumpManifestPath none none ∉ versionSourceFiles c.toComponent := by decide
  have houtput : ∀ path, givenArg (some "bump-result.json") = some path →
      ∀ c ∈ appComponents, path ∉ versionSourceFiles c.toComponent := fun path hpath =>
    (bumpResultJson_not_source appComponents (by decide) path hpath).2
  have hsync : validateComponentVersions noLibraries (appComponents.map (·.toComponent))
      appRepo = [] := by decide
  have hrun : runScript (bumpComponentMain noLibraries textYaml String.mk "platform-2026.11.09"
      "2026-11-09T00:00:00Z" "0123abc" appComponents "scripts/release/update_manifest.py"
      "release/config.yaml" "web" "minor" false false none none (some "bump-result.json"))
      appRepo = (.ok ⟨"web", none, some "app", "minor", .str "2.0.1", "2.1.0", ["web/VERSION"]⟩,
        _) := Prod.ext rfl rfl
  have hround : ∀ c, componentMap (appComponents.map (·.toComponent)) "web" = some c →
      RoundTrips noLibraries c := fun c hc => by
    cases hc
    exact ⟨by decide, .inr (.inl rfl)⟩
  ⟨hdisj, hmanifest, houtput, hsync, hrun, hround, bumpComponent_keeps_sync _ _ _ _ _ _ _ _ _ _ _
    _ _ _ _ _ _ _ _ hdisj hmanifest houtput hsync hrun hround⟩

section Again

variable {libs : Libraries} {sha256 : List Char → String} {components : List ConfigComponent}

theorem ReadsFrom.mono {α : Type} {x : ScriptM α} {files files' : List String}
    (h : ReadsFrom files x) (hsub : files ⊆ files') : ReadsFrom files' x :=
  fun r r' hr => h r r' fun p hp => hr p (hsub hp)

end Again

end Tentacle.Release
