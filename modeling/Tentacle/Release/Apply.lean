import Tentacle.Release.Check
import Tentacle.Release.Detect

/-!
# Applying a fresh plan

`compute_bumps.py` and `compute_bumps_from_changes.py` end in the same plan loop: each entry
records the version its component reads when the plan is made, and the bumped version.
`bump_versions.py` stops with a drift error when a component no longer reads the recorded
version, and otherwise writes the planned one. This module shows that a plan applied to the
repository it was made from is applied in full.

* `writeComponentVersion_succeeds` — the writer returns on a component in sync whose primary
  file reads back what is written to it.
* `planComponents_fresh` — each entry of the plan records what its component reads.
* `bumpVersionsLoop_succeeds` — the loop of `bump_versions.py` returns on a plan that records what each
  component reads, when the planned components are distinct and share no version source.
* `computeBumpsFromChanges_then_bumpVersions` — on the repository the plan was computed from,
  `bump_versions.py` never reports drift: it returns, every planned component then reads its
  planned version, and `check_version_sync.py` still passes.
* `computeBumpsFromChanges_within_detected` — with `--changed` from `detect_components.py`,
  the plan of `compute_bumps_from_changes.py` holds only components that have a changed file.
* `computeBumps_plans_changed` — the plan of `compute_bumps.py` names exactly the components
  of `--changed`, sorted.
-/

namespace Tentacle.Release

/-! ## The writers return -/

section Writers

variable {libs : Libraries} {component : Component} {repo : Repo} {path v : String}

/-- A `read_setup_py_version` that returned found its file and a match in it. -/
theorem readSetupPyVersion_found {x : PyVal}
    (h : (runScript (readSetupPyVersion path) repo).1 = .ok x) :
    ∃ text pre m, repo path = some text ∧
      searchAssign setupVersionLit (textRead text).data = some (pre, m) := by
  simp only [readSetupPyVersion, runScript_bind, runScript_readText] at h
  cases hf : repo path with
  | none => simp [hf] at h
  | some text =>
    cases hs : searchAssign setupVersionLit (textRead text).data with
    | none => simp [hf, hs, runScript_throw] at h
    | some pm => exact ⟨text, pm.1, pm.2, rfl, hs⟩

/-- A `read_runtime_file_version` that returned found its file and a match in it. -/
theorem readRuntimeFileVersion_found {x : String}
    (h : (runScript (readRuntimeFileVersion path) repo).1 = .ok x) :
    ∃ text pre m, repo path = some text ∧
      searchAssign versionAssignLit (textRead text).data = some (pre, m) := by
  simp only [readRuntimeFileVersion, runScript_bind, runScript_readText] at h
  cases hf : repo path with
  | none => simp [hf] at h
  | some text =>
    cases hs : searchAssign versionAssignLit (textRead text).data with
    | none => simp [hf, hs, runScript_throw] at h
    | some pm => exact ⟨text, pm.1, pm.2, rfl, hs⟩

/-- The runtime loop returns when every file it rewrites holds a `__version__` assignment. -/
theorem updateRuntimeFiles_succeeds (hv : IsValue v.data) (hcr : '\r' ∉ v.data) :
    ∀ (files : List String) (repo : Repo), (∀ f ∈ files, ∃ text pre m, repo f = some text ∧
      searchAssign versionAssignLit (textRead text).data = some (pre, m)) →
      ∃ changed repo', runScript (updateRuntimeFiles v files) repo = (.ok changed, repo')
  | [], repo, _ => ⟨[], repo, rfl⟩
  | f :: files, repo, h => by
    obtain ⟨text, pre, m, hf, hs⟩ := h f (List.mem_cons_self _ _)
    obtain ⟨hsub, hsearch⟩ := searchAssign_subAssign versionAssignLit_ok hv hs
    -- The rewritten file still holds an assignment, for a later mention of it.
    obtain ⟨changed, repo', hrest⟩ := updateRuntimeFiles_succeeds hv hcr files
      (Function.update repo f (some ⟨pre ++ m.opening ++ v.data ++ m.closing :: m.rest⟩))
      fun g hg => by
        by_cases hgf : g = f
        · subst hgf
          exact ⟨_, pre, _, Function.update_same _ _ _, by rw [textRead_subAssign hcr hs]; exact hsearch⟩
        · rw [Function.update_noteq hgf]
          exact h g (List.mem_cons_of_mem _ hg)
    refine ⟨f :: changed, repo', ?_⟩
    simp only [updateRuntimeFiles, runScript_bind, runScript_readText, hf, Option.elim, hsub,
      bne_self_eq_false, Bool.false_eq_true, if_false, runScript_pure, runScript_writeText, hrest]

/-- The primary writer returns on a file its reader could read, for the kinds that read back. -/
theorem writePrimaryVersion_succeeds (hk : ReadsBack libs component) (hv : IsSemverText v)
    {x : PyVal} (hread : (runScript (readComponentVersion libs component) repo).1 = .ok x) :
    ∃ repo', runScript (writePrimaryVersion libs component v) repo = (.ok (), repo') := by
  rcases hk with hk | hk | ⟨hk, -⟩
  · simp only [readComponentVersion, hk] at hread
    obtain ⟨text, pre, m, hf, hs⟩ := readSetupPyVersion_found hread
    obtain ⟨hsub, -⟩ := searchAssign_subAssign setupVersionLit_ok hv.isValue hs
    refine ⟨Function.update repo component.versionFile
      (some ⟨pre ++ m.opening ++ v.data ++ m.closing :: m.rest⟩), ?_⟩
    simp only [writePrimaryVersion, hk, writeSetupPyVersion, runScript_bind, runScript_readText, hf,
      Option.elim, hsub, bne_self_eq_false, Bool.false_eq_true, if_false, runScript_pure,
      runScript_writeText]
  · refine ⟨Function.update repo component.versionFile (some (v ++ "\n")), ?_⟩
    simp only [writePrimaryVersion, hk, writePlainVersion]
    exact runScript_writeText _ _ _
  · simp only [readComponentVersion, hk] at hread
    cases hf : repo component.versionFile with
    | none => simp [readPackageJsonVersion, runScript_bind, runScript_readText, hf] at hread
    | some text =>
      rw [runScript_readPackageJsonVersion hf] at hread
      obtain ⟨data, hl, hget⟩ := bind_eq_ok hread
      -- `data["version"]` returned, so the file holds a JSON object.
      obtain ⟨es, rfl⟩ : ∃ es, data = .dict es := by
        cases data <;> first | exact ⟨_, rfl⟩ | cases hget
      obtain ⟨data', hset⟩ := PyVal.setItem_dict es "version" (.str v)
      refine ⟨Function.update repo component.versionFile (some (libs.jsonDumps data' ++ "\n")), ?_⟩
      simp only [writePrimaryVersion, hk, writePackageJsonVersion, runScript_bind,
        runScript_readText, hf, Option.elim, runScript_liftExc, hl, hset, except_ok_bind]
      exact runScript_writeText _ _ _

/-- **The writer returns** on a component in sync whose primary file reads back what is
written to it, for a semver. -/
theorem writeComponentVersion_succeeds (hround : RoundTrips libs component) (hv : IsSemverText v)
    (hsync : ComponentSynced libs repo component) :
    ∃ changed repo', runScript (writeComponentVersion libs component v) repo =
      (.ok changed, repo') := by
  obtain ⟨w, hread, -, hruntime⟩ := hsync
  obtain ⟨repo₁, hprim⟩ := writePrimaryVersion_succeeds hround.2 hv hread
  -- The primary writer leaves the runtime files as they were.
  have hw : WritesOnce component.versionFile (writePrimaryVersion libs component v) :=
    writePrimaryVersion_writesOnce
  have hkeep : ∀ f ∈ component.runtimeVersionFiles, repo₁ f = repo f := fun f hf => by
    have hframe := hw.writesWithin (List.mem_singleton_self _) repo f
      (by rw [List.mem_singleton]; rintro rfl; exact hround.1 hf)
    rwa [hprim] at hframe
  obtain ⟨changed, repo', hrt⟩ := updateRuntimeFiles_succeeds hv.isValue hv.cr_not_mem
    component.runtimeVersionFiles repo₁ fun f hf => by
      obtain ⟨text, pre, m, hft, hs⟩ := readRuntimeFileVersion_found (hruntime f hf)
      exact ⟨text, pre, m, by rw [hkeep f hf, hft], hs⟩
  exact ⟨component.versionFile :: changed, repo', by
    simp only [writeComponentVersion, runScript_bind, hprim, hrt, runScript_pure]⟩

end Writers

/-! ## The plan records what each component reads -/

theorem raiseBump_nodup_keys {bumps bumps' : List (String × String)} {name bump : String}
    (h : raiseBump bumps name bump = .ok bumps') (hk : (bumps.map Prod.fst).Nodup) :
    (bumps'.map Prod.fst).Nodup := by
  unfold raiseBump at h
  split at h
  · cases h
    exact nodup_keys_dictSet hk _ _
  · obtain ⟨r, -, h⟩ := bind_eq_ok h
    obtain ⟨r', -, h⟩ := bind_eq_ok h
    cases h
    split
    exacts [nodup_keys_dictSet hk _ _, hk]

/-- The bumps loop keeps each name once. -/
theorem aggregate_nodup_keys {ι : Type} {entry : ι → Except PyExc (Option (String × String))} :
    ∀ {xs : List ι} {bumps result : List (String × String)},
      aggregate entry bumps xs = .ok result → (bumps.map Prod.fst).Nodup →
        (result.map Prod.fst).Nodup
  | [], _, _, h, hk => by
    cases h
    exact hk
  | x :: xs, bumps, result, h, hk => by
    obtain ⟨o, -, h⟩ := bind_eq_ok h
    rcases o with _ | ⟨name, bump⟩
    · exact aggregate_nodup_keys h hk
    · obtain ⟨bumps₁, hraise, h⟩ := bind_eq_ok h
      exact aggregate_nodup_keys h (raiseBump_nodup_keys hraise hk)

/-- A `compute_bumps_from_changes.py` plan that returned left the repository as it was, and
is the plan loop over the dict the notes loop returned; without notes both are empty. -/
theorem computeBumpsFromChanges_ok {libs : Libraries} {components : List Component}
    {changedFilter : Option (List String)} {notes : List ChangeNote} {repo repo' : Repo}
    {entries : List PlanEntry}
    (h : runScript (computeBumpsFromChanges libs components changedFilter notes) repo =
      (.ok entries, repo')) :
    repo' = repo ∧ ∃ bumps, aggregate (noteEntry components changedFilter) [] notes = .ok bumps ∧
      runScript (planComponents libs components bumps) repo = (.ok entries, repo) := by
  unfold computeBumpsFromChanges at h
  split_ifs at h with hnotes
  · obtain rfl := List.isEmpty_iff.1 hnotes
    rw [runScript_pure, Prod.mk.injEq, Except.ok.injEq] at h
    obtain ⟨rfl, rfl⟩ := h
    exact ⟨rfl, [], rfl, rfl⟩
  · obtain ⟨bumps, r, hagg, h⟩ := runScript_bind_ok h
    obtain ⟨hbumps, rfl⟩ := runScript_liftExc_ok hagg
    obtain ⟨rfl, -⟩ := planComponents_fresh h
    exact ⟨rfl, bumps, hbumps, h⟩

/-! ## `bump_versions.py` on a fresh plan -/

section Bump

variable {libs : Libraries} {components : List Component}

/-- Components found under two different names share no version source file. -/
theorem not_mem_sources_of_ne (hdisj : SourcesDisjoint components) {a b p : String}
    {c d : Component} (hc : componentMap components a = some c)
    (hd : componentMap components b = some d) (hab : a ≠ b) (hp : p ∈ versionSourceFiles c) :
    p ∉ versionSourceFiles d := by
  obtain ⟨hcmem, rfl⟩ := componentMap_eq_some hc
  obtain ⟨hdmem, rfl⟩ := componentMap_eq_some hd
  exact hdisj c hcmem d hdmem hab p hp

/-- An item whose component still reads the recorded version passes the drift check and
writes the planned version. -/
theorem runScript_bumpItem_fresh {item : PlanItem} {c : Component} {repo : Repo}
    (hc : componentMap components item.name = some c)
    (hread : (runScript (readComponentVersion libs c) repo).1 = .ok (.str item.currentVersion)) :
    runScript (bumpItem libs components item) repo =
      runScript (writeComponentVersion libs c item.nextVersion) repo := by
  unfold bumpItem
  rw [hc]
  dsimp only
  rw [runScript_bind, show runScript (readComponentVersion libs c) repo =
    (.ok (.str item.currentVersion), repo) from Prod.ext hread (readComponentVersion_readOnly repo)]
  simp [runScript_bind, runScript_pure]

/-- **The loop of `bump_versions.py` returns on a plan that records what each component
reads**, when the planned components are distinct, in sync, share no version source and read
back what is written to them: it reports no drift, keeps the repository in sync, and each
planned component then reads its planned version. -/
theorem bumpVersionsLoop_succeeds (hdisj : SourcesDisjoint components) :
    ∀ (items : List PlanItem) (changedFiles : List (String × PyVal)) (repo : Repo),
      (items.map (·.name)).Nodup → Synced libs components repo →
      (∀ i ∈ items, IsSemverText i.nextVersion ∧ FitsIntLimit i.nextVersion ∧
        ∃ c, componentMap components i.name = some c ∧ RoundTrips libs c ∧
        (runScript (readComponentVersion libs c) repo).1 = .ok (.str i.currentVersion)) →
      ∃ result repo', runScript (bumpVersionsLoop libs components changedFiles items) repo =
          (.ok result, repo') ∧ Synced libs components repo' ∧
        ∀ i ∈ items, ∀ c, componentMap components i.name = some c →
          (runScript (readComponentVersion libs c) repo').1 = .ok (.str i.nextVersion)
  | [], changedFiles, repo, _, hsync, _ =>
    ⟨changedFiles, repo, rfl, hsync, fun _ h => absurd h (List.not_mem_nil _)⟩
  | i :: items, changedFiles, repo, hnd, hsync, hitems => by
    rw [List.map_cons, List.nodup_cons] at hnd
    obtain ⟨hv, hfit, c, hc, hround, hread⟩ := hitems i (List.mem_cons_self _ _)
    obtain ⟨changed, repo₁, hw⟩ := writeComponentVersion_succeeds hround hv (hsync _ c hc)
    -- The write changes only the item's own component's files.
    have hframe : ∀ j ∈ items, ∀ d, componentMap components j.name = some d →
        ∀ p ∈ versionSourceFiles d, repo₁ p = repo p := fun j hj d hd p hp => by
      have hout := (writeComponentVersion_writesWithin : WritesWithin _
        (writeComponentVersion libs c i.nextVersion)) repo p fun hpc =>
          not_mem_sources_of_ne hdisj hc hd (fun h => hnd.1 (h ▸ List.mem_map_of_mem _ hj)) hpc hp
      rwa [hw] at hout
    obtain ⟨result, repo', hrest, hsync', hreads⟩ := bumpVersionsLoop_succeeds hdisj items
      (dictSet changedFiles i.name (.list (changed.map .str))) repo₁ hnd.2
      (synced_writeComponentVersion hsync hdisj hc hround hv hfit hw) fun j hj => by
        obtain ⟨hvj, hfitj, d, hd, hroundj, hreadj⟩ := hitems j (List.mem_cons_of_mem _ hj)
        refine ⟨hvj, hfitj, d, hd, hroundj, ?_⟩
        rw [← hreadj]
        exact readComponentVersion_readsFrom _ _ fun p hp =>
          hframe j hj d hd p (by rw [List.mem_singleton.1 hp]; exact List.mem_cons_self _ _)
    have hkeep : ∀ p, (∀ k ∈ items, p ∉ itemFiles components k) → repo' p = repo₁ p :=
      fun p hp => by
        have h : (runScript (bumpVersionsLoop libs components _ items) repo₁).2 p = repo₁ p :=
          bumpVersionsLoop_frame hp (dictSet changedFiles i.name (.list (changed.map .str))) repo₁
        rwa [hrest] at h
    refine ⟨result, repo', ?_, hsync', fun j hj d hd => ?_⟩
    · rw [bumpVersionsLoop_cons, runScript_bind, runScript_bumpItem_fresh hc hread, hw]
      exact hrest
    rcases List.mem_cons.1 hj with rfl | hj
    · -- The rest of the plan leaves this component's primary file as the write left it.
      obtain rfl : d = c := Option.some.inj (hd.symm.trans hc)
      rw [← readComponentVersion_after_write hround hv hw]
      refine readComponentVersion_readsFrom _ _ fun p hp => ?_
      have hnot : ∀ k ∈ items, d.versionFile ∉ itemFiles components k := fun k hk hpk => by
        unfold itemFiles at hpk
        cases hk' : componentMap components k.name with
        | none => simp [hk'] at hpk
        | some e =>
          rw [hk', Option.map_some', Option.getD_some] at hpk
          exact not_mem_sources_of_ne hdisj hd hk' (fun h => hnd.1 (h ▸ List.mem_map_of_mem _ hk))
            (List.mem_cons_self _ _) hpk
      rw [List.mem_singleton.1 hp]
      exact hkeep _ hnot
    · exact hreads j hj d hd

end Bump

/-! ## `compute_bumps_from_changes.py`, then `bump_versions.py` -/

/-- **A fresh plan never drifts**: on the repository `compute_bumps_from_changes.py` computed
its plan from, `bump_versions.py` returns on that plan, `check_version_sync.py` still passes,
and every planned component reads its planned version. `bump_versions.py` reads each item back
from the plan's JSON with the entry's name, current version and next version. The components
must be in sync, share no version source, and read back what is written to the planned ones,
and the `--output` file of `bump_versions.py` is no component's version source. -/
theorem computeBumpsFromChanges_then_bumpVersions (libs : Libraries)
    (components : List Component) (changedFilter : Option (List String))
    (notes : List ChangeNote) (output : Option String) (repo repo₁ : Repo)
    (entries : List PlanEntry) (items : List PlanItem) (hdisj : SourcesDisjoint components)
    (houtput : ∀ path, givenArg output = some path → ∀ c ∈ components, path ∉ versionSourceFiles c)
    (hsync : validateComponentVersions libs components repo = [])
    (hplan : runScript (computeBumpsFromChanges libs components changedFilter notes) repo =
      (.ok entries, repo₁))
    (hitems : List.Forall₂ (fun (e : PlanEntry) (i : PlanItem) => i.name = e.name ∧
      e.currentVersion = .str i.currentVersion ∧ i.nextVersion = e.nextVersion) entries items)
    (hround : ∀ i ∈ items, ∀ c, componentMap components i.name = some c → RoundTrips libs c) :
    ∃ repo', runScript (bumpVersions libs components items output) repo₁ = (.ok (), repo') ∧
      validateComponentVersions libs components repo' = [] ∧
      ∀ e ∈ entries, ∀ c, componentMap components e.name = some c →
        (runScript (readComponentVersion libs c) repo').1 = .ok (.str e.nextVersion) := by
  -- The plan leaves the repository as it was, and each entry records what its component reads.
  obtain ⟨rfl, bumps, hagg, hplan⟩ := computeBumpsFromChanges_ok hplan
  obtain ⟨-, hnames, hfresh⟩ := planComponents_fresh hplan
  obtain ⟨hentries, hpartner⟩ := forall₂_partners hitems
  -- The items are named as the entries, so each name comes once.
  have hnd : (items.map (·.name)).Nodup := by
    have hmap : List.Forall₂ (· = ·) (entries.map (·.name)) (items.map (·.name)) :=
      List.forall₂_map_left_iff.2 (List.forall₂_map_right_iff.2 (hitems.imp fun _ _ h => h.1.symm))
    rw [List.forall₂_eq_eq_eq] at hmap
    rw [← hmap, hnames]
    exact (List.perm_insertionSort _ _).nodup_iff.2 (aggregate_nodup_keys hagg List.nodup_nil)
  obtain ⟨result, r, hloop, hsync', hreads⟩ := bumpVersionsLoop_succeeds hdisj items [] _ hnd
    (synced_of_validateComponentVersions hsync) fun i hi => by
      obtain ⟨e, he, hname, hcur, hnext⟩ := hpartner i hi
      obtain ⟨-, c, hc, -, -, hread, hbump⟩ := hfresh e he
      rw [hcur] at hread hbump
      rw [← hname] at hc
      obtain ⟨hv, hfit⟩ := bumpSemverOf_versionText hbump
      exact ⟨hnext ▸ hv, hnext ▸ hfit, c, hc, hround i hi c hc, hread⟩
  -- The `--output` write keeps every version source as the loop left it.
  have hkeep : ∀ c ∈ components, ∀ p ∈ versionSourceFiles c,
      (runScript (writeChangedFiles libs output result) r).2 p = r p := fun c hc p hp =>
    dumpJsonArg_frame _ _ _ _ fun path hpath h => houtput path hpath c hc (h ▸ hp)
  refine ⟨(runScript (writeChangedFiles libs output result) r).2, ?_, ?_, fun e he c hc => ?_⟩
  · rw [bumpVersions, runScript_bind_of_ok hloop, runScript_writeChangedFiles]
  · refine validateComponentVersions_of_synced fun name c hc =>
      (hsync' name c hc).congr fun p hp => (hkeep c (componentMap_eq_some hc).1 p hp).symm
  obtain ⟨i, hi, hname, -, hnext⟩ := hentries e he
  rw [← hnext, ← hreads i hi c (hname ▸ hc)]
  exact readComponentVersion_readsFrom _ _ fun p hp => hkeep c (componentMap_eq_some hc).1 p
    (by rw [List.mem_singleton.1 hp]; exact List.mem_cons_self _ _)

theorem computeBumpsFromChanges_then_bumpVersions_web :
    let notes : List ChangeNote := [⟨"web", .minor, "Add a settings page", "notes/settings.yaml"⟩]
    let entry : PlanEntry := ⟨"web", none, none, "minor", .str "2.0.1", "2.1.0"⟩
    SourcesDisjoint syncedComponents ∧
    (∀ path, givenArg (some "changed.json") = some path →
      ∀ c ∈ syncedComponents, path ∉ versionSourceFiles c) ∧
    validateComponentVersions noLibraries syncedComponents syncedRepo = [] ∧
    runScript (computeBumpsFromChanges noLibraries syncedComponents none notes) syncedRepo =
      (.ok [entry], syncedRepo) ∧
    List.Forall₂ (fun (e : PlanEntry) (i : PlanItem) => i.name = e.name ∧
      e.currentVersion = .str i.currentVersion ∧ i.nextVersion = e.nextVersion) [entry]
      syncedPlan ∧
    (∀ i ∈ syncedPlan, ∀ c, componentMap syncedComponents i.name = some c →
      RoundTrips noLibraries c) ∧
    ∃ repo', runScript (bumpVersions noLibraries syncedComponents syncedPlan
        (some "changed.json")) syncedRepo = (.ok (), repo') ∧
      validateComponentVersions noLibraries syncedComponents repo' = [] ∧
      ∀ e ∈ [entry], ∀ c, componentMap syncedComponents e.name = some c →
        (runScript (readComponentVersion noLibraries c) repo').1 = .ok (.str e.nextVersion) :=
  have hdisj : SourcesDisjoint syncedComponents := by decide
  have hsync : validateComponentVersions noLibraries syncedComponents syncedRepo = [] := by decide
  have hplan : runScript (computeBumpsFromChanges noLibraries syncedComponents none
      [⟨"web", .minor, "Add a settings page", "notes/settings.yaml"⟩]) syncedRepo =
      (.ok [⟨"web", none, none, "minor", .str "2.0.1", "2.1.0"⟩], syncedRepo) := Prod.ext rfl rfl
  have hitems : List.Forall₂ (fun (e : PlanEntry) (i : PlanItem) => i.name = e.name ∧
      e.currentVersion = .str i.currentVersion ∧ i.nextVersion = e.nextVersion)
      [⟨"web", none, none, "minor", .str "2.0.1", "2.1.0"⟩] syncedPlan := .cons ⟨rfl, rfl, rfl⟩ .nil
  have hround : ∀ i ∈ syncedPlan, ∀ c, componentMap syncedComponents i.name = some c →
      RoundTrips noLibraries c := fun i hi c hc => by
    rw [List.mem_singleton.1 hi] at hc
    cases hc
    exact ⟨by decide, .inr (.inl rfl)⟩
  ⟨hdisj, changedJson_not_source, hsync, hplan, hitems, hround,
    computeBumpsFromChanges_then_bumpVersions _ _ _ _ _ _ _ _ _ hdisj changedJson_not_source hsync
      hplan hitems hround⟩

/-! ## The plan and `--changed` -/

theorem mem_keys_raiseBump {bumps bumps' : List (String × String)} {name bump : String}
    (h : raiseBump bumps name bump = .ok bumps') {k : String} (hk : k ∈ bumps'.map Prod.fst) :
    k = name ∨ k ∈ bumps.map Prod.fst := by
  have hset : k ∈ (dictSet bumps name bump).map Prod.fst → k = name ∨ k ∈ bumps.map Prod.fst := by
    rw [mem_keys_iff, mem_keys_iff, lookup_dictSet]
    split
    · exact fun _ => .inl ‹_›
    · exact .inr
  unfold raiseBump at h
  split at h
  · cases h
    exact hset hk
  · obtain ⟨r, -, h⟩ := bind_eq_ok h
    obtain ⟨r', -, h⟩ := bind_eq_ok h
    cases h
    split at hk
    · exact hset hk
    · exact .inr hk

/-- Every key of the loop's dict is a key it started with or a name some input asked for. -/
theorem aggregate_keys {ι : Type} {entry : ι → Except PyExc (Option (String × String))}
    (P : String → Prop) (hentry : ∀ x name bump, entry x = .ok (some (name, bump)) → P name) :
    ∀ {xs : List ι} {bumps result : List (String × String)},
      aggregate entry bumps xs = .ok result → (∀ k ∈ bumps.map Prod.fst, P k) →
        ∀ k ∈ result.map Prod.fst, P k
  | [], _, _, h, hk => by
    cases h
    exact hk
  | x :: xs, bumps, result, h, hk => by
    obtain ⟨o, hx, h⟩ := bind_eq_ok h
    rcases o with _ | ⟨name, bump⟩
    · exact aggregate_keys P hentry h hk
    · obtain ⟨bumps₁, h₁, h⟩ := bind_eq_ok h
      refine aggregate_keys P hentry h fun k hk₁ => ?_
      rcases mem_keys_raiseBump h₁ hk₁ with rfl | hk₁
      exacts [hentry x k bump hx, hk k hk₁]

theorem lookup_raiseBump {bumps bumps' : List (String × String)} {name bump : String}
    (h : raiseBump bumps name bump = .ok bumps') (n : String) :
    bumps'.lookup n = bumps.lookup n ∨ n = name ∧ bumps'.lookup n = some bump := by
  have hset : (dictSet bumps name bump).lookup n = bumps.lookup n ∨
      n = name ∧ (dictSet bumps name bump).lookup n = some bump := by
    rw [lookup_dictSet]
    split
    · exact .inr ⟨‹_›, rfl⟩
    · exact .inl rfl
  unfold raiseBump at h
  split at h
  · cases h
    exact hset
  · obtain ⟨r, -, h⟩ := bind_eq_ok h
    obtain ⟨r', -, h⟩ := bind_eq_ok h
    cases h
    split
    exacts [hset, .inl rfl]

theorem lookup_raiseBump_self {bumps bumps' : List (String × String)} {name bump : String}
    (h : raiseBump bumps name bump = .ok bumps') : (bumps'.lookup name).isSome := by
  unfold raiseBump at h
  split at h
  · cases h
    simp [lookup_dictSet]
  · next prev hprev =>
    obtain ⟨r, -, h⟩ := bind_eq_ok h
    obtain ⟨r', -, h⟩ := bind_eq_ok h
    cases h
    split <;> simp [lookup_dictSet, hprev]

section Aggregate

variable {ι : Type} {entry : ι → Except PyExc (Option (String × String))}

/-- Every bump of the loop's dict is one it started with or one some input asked for. -/
theorem lookup_aggregate {n b : String} :
    ∀ {xs : List ι} {bumps result : List (String × String)},
      aggregate entry bumps xs = .ok result → result.lookup n = some b →
        bumps.lookup n = some b ∨ ∃ x ∈ xs, entry x = .ok (some (n, b))
  | [], _, _, h, hb => by
    cases h
    exact .inl hb
  | x :: xs, bumps, result, h, hb => by
    have later : (∃ y ∈ xs, entry y = .ok (some (n, b))) →
        ∃ y ∈ x :: xs, entry y = .ok (some (n, b)) :=
      fun ⟨y, hy, hyb⟩ => ⟨y, List.mem_cons_of_mem _ hy, hyb⟩
    obtain ⟨o, hx, h⟩ := bind_eq_ok h
    rcases o with _ | ⟨name, bump⟩
    · exact (lookup_aggregate h hb).imp_right later
    · obtain ⟨bumps₁, h₁, h⟩ := bind_eq_ok h
      refine (lookup_aggregate h hb).elim (fun hb₁ => ?_) (.inr ∘ later)
      rcases lookup_raiseBump h₁ n with hl | ⟨rfl, hl⟩
      · exact .inl (hl ▸ hb₁)
      · exact .inr ⟨x, List.mem_cons_self _ _, by rw [hx, ← Option.some.inj (hl.symm.trans hb₁)]⟩

/-- A name the loop's dict has no bump for had none to start with, and no input asked for it. -/
theorem lookup_aggregate_eq_none {n : String} :
    ∀ {xs : List ι} {bumps result : List (String × String)},
      aggregate entry bumps xs = .ok result → result.lookup n = none →
        bumps.lookup n = none ∧ ∀ x ∈ xs, ∀ b, entry x ≠ .ok (some (n, b))
  | [], _, _, h, hn => by
    cases h
    exact ⟨hn, fun _ h => absurd h (List.not_mem_nil _)⟩
  | x :: xs, bumps, result, h, hn => by
    obtain ⟨o, hx, h⟩ := bind_eq_ok h
    rcases o with _ | ⟨name, bump⟩
    · obtain ⟨hb, hxs⟩ := lookup_aggregate_eq_none h hn
      refine ⟨hb, fun y hy b hyb => ?_⟩
      rcases List.mem_cons.1 hy with rfl | hy
      · rw [hx] at hyb
        cases hyb
      · exact hxs y hy b hyb
    · obtain ⟨bumps₁, h₁, h⟩ := bind_eq_ok h
      obtain ⟨hb₁, hxs⟩ := lookup_aggregate_eq_none h hn
      -- The name this input raised has a bump from then on.
      have hne : n ≠ name := fun hnm => by
        have hsome := lookup_raiseBump_self h₁
        rw [← hnm, hb₁] at hsome
        cases hsome
      refine ⟨?_, fun y hy b hyb => ?_⟩
      · rcases lookup_raiseBump h₁ n with hl | ⟨hnm, -⟩
        exacts [hl ▸ hb₁, absurd hnm hne]
      · rcases List.mem_cons.1 hy with rfl | hy
        · rw [hx] at hyb
          cases hyb
          exact hne rfl
        · exact hxs y hy b hyb

end Aggregate

theorem noteEntry_mem_changed {components : List Component} {changed : List String}
    {note : ChangeNote} {name bump : String}
    (h : noteEntry components (some changed) note = .ok (some (name, bump))) : name ∈ changed := by
  simp only [noteEntry] at h
  obtain ⟨n, -, h⟩ := bind_eq_ok h
  split at h
  · cases h
  · rename_i hc
    split at h
    · cases h
    · cases h
      simpa using hc

/-- **Only detected components are planned**: `compute_bumps_from_changes.py` run with
`--changed` holding the components `detect_components.py` found plans a bump only for a
component that has a changed file: some component of that name in the config has a path glob
that matches a file `git diff` listed. -/
theorem computeBumpsFromChanges_within_detected (fnmatch : String → String → Bool)
    (globs : List GlobComponent) (base head gitStdout : String) (libs : Libraries)
    (components : List Component) (notes : List ChangeNote) (repo repo' : Repo)
    (entries : List PlanEntry)
    (hplan : runScript (computeBumpsFromChanges libs components
      (some (detectComponents fnmatch base head globs gitStdout).components) notes) repo =
      (.ok entries, repo')) :
    ∀ e ∈ entries, ∃ c ∈ globs, c.name = e.name ∧
      ∃ f ∈ gitChangedFiles gitStdout, componentMatchesFile fnmatch c f := by
  intro e he
  obtain ⟨-, bumps, hagg, hplan⟩ := computeBumpsFromChanges_ok hplan
  obtain ⟨-, hnames, -⟩ := planComponents_fresh hplan
  have hkey : e.name ∈ bumps.map Prod.fst := by
    have := List.mem_map_of_mem (·.name) he
    rwa [hnames, sortedNames, (List.perm_insertionSort _ _).mem_iff] at this
  have hchanged := aggregate_keys _ (fun _ _ _ h => noteEntry_mem_changed h) hagg
    (fun _ h => absurd h (List.not_mem_nil _)) _ hkey
  rw [detectComponents, detectOutput_eq_spec] at hchanged
  exact exists_match_of_mem_detectedNames hchanged

/-- `fnmatch` for patterns that name a directory: the file lies under it. -/
def underDir (relFile pattern : String) : Bool := pattern.data.isPrefixOf relFile.data

/-- The components of `syncedComponents` and an `api` app next to them. -/
def webApiComponents : List Component :=
  syncedComponents ++ [⟨"api", none, none, "api/VERSION", "plain", []⟩]

theorem computeBumpsFromChanges_within_detected_web :
    let globs : List GlobComponent := [⟨"web", ["web/"]⟩, ⟨"api", ["api/"]⟩]
    let notes : List ChangeNote := [⟨"web", .minor, "Add a settings page", "notes/settings.yaml"⟩,
      ⟨"api", .patch, "Fix a typo", "notes/typo.yaml"⟩]
    runScript (computeBumpsFromChanges noLibraries webApiComponents
        (some (detectComponents underDir "main" "HEAD" globs "web/index.ts\n").components) notes)
        syncedRepo = (.ok [⟨"web", none, none, "minor", .str "2.0.1", "2.1.0"⟩], syncedRepo) ∧
      ∀ e ∈ [(⟨"web", none, none, "minor", .str "2.0.1", "2.1.0"⟩ : PlanEntry)], ∃ c ∈ globs, c.name = e.name ∧
        ∃ f ∈ gitChangedFiles "web/index.ts\n", componentMatchesFile underDir c f :=
  have hplan : runScript (computeBumpsFromChanges noLibraries webApiComponents
      (some (detectComponents underDir "main" "HEAD" [⟨"web", ["web/"]⟩, ⟨"api", ["api/"]⟩]
        "web/index.ts\n").components)
      [⟨"web", .minor, "Add a settings page", "notes/settings.yaml"⟩,
        ⟨"api", .patch, "Fix a typo", "notes/typo.yaml"⟩]) syncedRepo =
      (.ok [⟨"web", none, none, "minor", .str "2.0.1", "2.1.0"⟩], syncedRepo) := Prod.ext rfl rfl
  ⟨hplan, computeBumpsFromChanges_within_detected underDir _ "main" "HEAD" "web/index.ts\n"
    noLibraries webApiComponents _ syncedRepo syncedRepo _ hplan⟩

theorem commitEntry_mem_changed {components : List Component} {cfg : CommitConfig}
    {changed : List String} {commit : Commit} {name bump : String}
    (h : commitEntry components cfg changed commit = some (name, bump)) : name ∈ changed := by
  simp only [commitEntry, Option.bind_eq_some] at h
  obtain ⟨header, -, h⟩ := h
  split at h
  · cases h
  obtain ⟨n, -, h⟩ := Option.bind_eq_some.1 h
  split at h
  · cases h
  · rename_i hc
    cases h
    exact (by simpa using hc : _ ∧ _).2

/-- **`compute_bumps.py` plans exactly the changed components**: a run that returns plans one
entry for each component of `--changed`, in sorted order, and for no other component. A
conventional commit counts only for a changed component: each planned bump is the bump of a
commit mapped to the component, and a changed component that no commit maps to gets the
fallback bump. -/
theorem computeBumps_plans_changed (libs : Libraries) (components : List Component)
    (cfg : CommitConfig) (changed : List String) (commits : List Commit) (repo repo' : Repo)
    (entries : List PlanEntry)
    (h : runScript (computeBumps libs components cfg changed commits) repo = (.ok entries, repo')) :
    entries.map (·.name) = sortedNames changed.dedup ∧
    (∀ commit ∈ commits, ∀ name bump,
      commitEntry components cfg changed commit = some (name, bump) → name ∈ changed) ∧
    ∀ e ∈ entries, (∃ commit ∈ commits,
        commitEntry components cfg changed commit = some (e.name, e.bump)) ∨
      (∀ commit ∈ commits, ∀ bump,
        commitEntry components cfg changed commit ≠ some (e.name, bump)) ∧
      e.bump = cfg.fallbackBump := by
  unfold computeBumps at h
  obtain ⟨bumps, r, hrun, h⟩ := runScript_bind_ok h
  obtain ⟨hagg, rfl⟩ := runScript_liftExc_ok hrun
  obtain ⟨-, hnames, hfresh⟩ := planComponents_fresh h
  refine ⟨?_, fun _ _ _ _ hc => commitEntry_mem_changed hc, fun e he => ?_⟩
  · rw [hnames]
    refine sortedNames_perm ((List.perm_ext_iff_of_nodup
      (nodup_keys_addFallbacks _ _ (aggregate_nodup_keys hagg List.nodup_nil))
      (List.nodup_dedup _)).2 fun n => ?_)
    have hsub : bumps.lookup n ≠ none → n ∈ changed := fun hn =>
      aggregate_keys (· ∈ changed) (fun _ _ _ hx => commitEntry_mem_changed (Except.ok.inj hx))
        hagg (fun _ h => absurd h (List.not_mem_nil _)) n ((mem_keys_iff _ _).2 hn)
    rw [List.mem_dedup, mem_keys_iff, lookup_addFallbacks]
    by_cases hc : n ∈ changed <;> cases hl : bumps.lookup n <;> simp_all
  -- The entry's bump is the commits' bump for it, or else the fallback.
  obtain ⟨hb, -⟩ := hfresh e he
  rw [lookup_addFallbacks] at hb
  cases hl : bumps.lookup e.name with
  | some b =>
    rw [hl, Option.or_some, Option.some.injEq] at hb
    subst hb
    rcases lookup_aggregate hagg hl with h0 | ⟨commit, hc, hce⟩
    · cases h0
    · exact .inl ⟨commit, hc, Except.ok.inj hce⟩
  | none =>
    rw [hl, Option.none_or] at hb
    obtain ⟨-, hnone⟩ := lookup_aggregate_eq_none hagg hl
    refine .inr ⟨fun commit hc bump hce => hnone commit hc bump (congrArg pure hce), ?_⟩
    split_ifs at hb
    exact (Option.some.inj hb).symm

theorem computeBumps_plans_changed_web :
    let entry : PlanEntry := ⟨"web", some "web", none, "minor", .str "2.0.1", "2.1.0"⟩
    runScript (computeBumps noLibraries scopedComponents sampleCommitConfig ["web"] sampleCommits)
        releaseRepo = (.ok [entry], releaseRepo) ∧
      [entry].map (·.name) = sortedNames ["web"].dedup ∧
      (∀ commit ∈ sampleCommits, ∀ name bump, commitEntry scopedComponents sampleCommitConfig
        ["web"] commit = some (name, bump) → name ∈ ["web"]) ∧
      ∀ e ∈ [entry], (∃ commit ∈ sampleCommits,
          commitEntry scopedComponents sampleCommitConfig ["web"] commit = some (e.name, e.bump)) ∨
        (∀ commit ∈ sampleCommits, ∀ bump,
          commitEntry scopedComponents sampleCommitConfig ["web"] commit ≠ some (e.name, bump)) ∧
        e.bump = sampleCommitConfig.fallbackBump :=
  have hrun : runScript (computeBumps noLibraries scopedComponents sampleCommitConfig ["web"]
      sampleCommits) releaseRepo =
      (.ok [⟨"web", some "web", none, "minor", .str "2.0.1", "2.1.0"⟩], releaseRepo) :=
    Prod.ext rfl rfl
  ⟨hrun, computeBumps_plans_changed _ _ _ _ _ _ _ _ hrun⟩

end Tentacle.Release
