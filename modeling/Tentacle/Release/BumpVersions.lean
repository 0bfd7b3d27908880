import Tentacle.Release.Versions

/-!
# Applying a release plan

`bump_versions.py` reads a plan (its `components`, each with `name`, `current_version` and
`next_version`) and handles the items in order: it looks the component up by name in the
config, reads its version, stops with `SystemExit` when that is not `current_version`, and
writes `next_version` with `write_component_version`, noting the files it changed under the
item's name. The first item that raises ends the run. The script does not roll back: the
files that earlier items wrote stay written. A run that returns writes the changed files as
JSON to `--output`, when one is given.

* `bumpItem_writesWithin` — an item writes only its component's version source files.
* `bumpItem_raises` — an item that raises has written nothing, unless its drift check passed
  and its primary file was written; from there only its runtime files can differ.
* `bumpVersions_stops_at_failure` — a run that raises stopped at one item: every item before
  it returned, no later item ran, and that item's writes are as `bumpItem_raises` says.
* `bumpVersions_frame` — over a whole run, whether it returns or raises, no file changes
  outside the version source files of the plan's components and the `--output` file.
* `bumpVersions_not_all_or_nothing` — a drift at the second item leaves the first item's file
  rewritten, and a runtime file that cannot be rewritten leaves its primary file rewritten.
-/

namespace Tentacle.Release

/-- An entry of the plan's `components`, with the keys `bump_versions.py` reads. -/
structure PlanItem where
  name : String
  currentVersion : String
  nextVersion : String

/-- `component_map(config)[name]`: the dict comprehension keeps the last component of each
name; `none` is a missing key. -/
def componentMap (components : List Component) (name : String) : Option Component :=
  components.reverse.find? (·.name == name)

/-- `str(x)` in the drift message: exact for `None`, booleans, integers and strings; the
model does not print floats, lists or dicts. -/
def pyStr : PyVal → String
  | .none => "None"
  | .bool b => if b then "True" else "False"
  | .int i => toString i
  | .str s => s
  | .float _ => "<float>"
  | .list _ => "<list>"
  | .dict _ => "<dict>"

/-- The body of the loop of `bump_versions.py` for one plan item. `SystemExit` is an `other`
exception. The result is the list of files `write_component_version` changed. -/
def bumpItem (libs : Libraries) (components : List Component) (item : PlanItem) :
    ScriptM (List String) := do
  let some component := componentMap components item.name
    | throw ⟨.keyError, s!"'{item.name}'"⟩
  let currentNow ← readComponentVersion libs component
  if !currentNow.eqStr item.currentVersion then
    throw ⟨.other, s!"Version drift for {item.name}: expected {item.currentVersion}, found {pyStr currentNow}."⟩
  writeComponentVersion libs component item.nextVersion

/-- `d[k] = v` on a dict kept as its entries in insertion order: a present key keeps its
place, a new key goes last. -/
def dictSet {α : Type} : List (String × α) → String → α → List (String × α)
  | [], k, v => [(k, v)]
  | e :: d, k, v => if e.1 = k then (k, v) :: d else e :: dictSet d k v

/-- The loop of `bump_versions.py` over `plan["components"]`, with the `changed_files` dict
it fills: each item's name maps to the files `write_component_version` changed. The lines it
prints are left out. -/
def bumpVersionsLoop (libs : Libraries) (components : List Component)
    (changedFiles : List (String × PyVal)) : List PlanItem → ScriptM (List (String × PyVal))
  | [] => pure changedFiles
  | item :: items => do
    let changed ← bumpItem libs components item
    bumpVersionsLoop libs components
      (dictSet changedFiles item.name (.list (changed.map .str))) items

/-- `if args.output:` — an optional argument counts when it is given and not empty. -/
def givenArg : Option String → Option String
  | some arg => if arg.isEmpty then none else some arg
  | none => none

/-- `if args.output: dump_json(Path(args.output), data)`, which ends `bump_versions.py` and
`bump_component.py`. -/
def dumpJsonArg (libs : Libraries) (output : Option String) (data : PyVal) : ScriptM Unit :=
  match givenArg output with
  | some path => dumpJson libs path data
  | none => pure ()

/-- The `--output` file of `bump_versions.py`: the `changed_files` dict as JSON. -/
def writeChangedFiles (libs : Libraries) (output : Option String)
    (changedFiles : List (String × PyVal)) : ScriptM Unit :=
  dumpJsonArg libs output (.dict [("changed_files", .dict changedFiles)])

/-- `bump_versions.py` after loading its config and plan: the loop over the plan items, then
the changed files at `--output`, when one is given. -/
def bumpVersions (libs : Libraries) (components : List Component) (items : List PlanItem)
    (output : Option String) : ScriptM Unit := do
  let changedFiles ← bumpVersionsLoop libs components [] items
  writeChangedFiles libs output changedFiles

/-- The version source files of an item's component; none when the name is unknown. -/
def itemFiles (components : List Component) (item : PlanItem) : List String :=
  ((componentMap components item.name).map versionSourceFiles).getD []

/-- The map holds a component of the config under its own name. -/
theorem componentMap_eq_some {components : List Component} {name : String} {c : Component}
    (h : componentMap components name = some c) : c ∈ components ∧ c.name = name :=
  ⟨List.mem_reverse.mp (List.mem_of_find?_eq_some h), by simpa using List.find?_some h⟩

/-- The keys of the map are the names of the config's components. -/
theorem componentMap_isSome {components : List Component} {name : String} :
    (componentMap components name).isSome ↔ name ∈ components.map (·.name) := by
  simp only [componentMap, List.find?_isSome, List.mem_reverse, beq_iff_eq, List.mem_map]

theorem bumpVersionsLoop_cons (libs : Libraries) (components : List Component)
    (changedFiles : List (String × PyVal)) (item : PlanItem) (items : List PlanItem) :
    bumpVersionsLoop libs components changedFiles (item :: items) =
      bumpItem libs components item >>= fun changed => bumpVersionsLoop libs components
        (dictSet changedFiles item.name (.list (changed.map .str))) items := rfl

/-- The `--output` write never raises, and writes nothing but the `--output` file. -/
theorem runScript_dumpJsonArg (libs : Libraries) (output : Option String) (data : PyVal)
    (repo : Repo) :
    runScript (dumpJsonArg libs output data) repo = (.ok (), match givenArg output with
      | some path => Function.update repo path (some (libs.jsonDumps data ++ "\n"))
      | none => repo) := by
  unfold dumpJsonArg
  split <;> rfl

/-- The `--output` write leaves every other file as it was. -/
theorem dumpJsonArg_frame (libs : Libraries) (output : Option String) (data : PyVal)
    (repo : Repo) {p : String} (hp : ∀ path, givenArg output = some path → p ≠ path) :
    (runScript (dumpJsonArg libs output data) repo).2 p = repo p := by
  rw [runScript_dumpJsonArg]
  split
  · next path hpath => exact Function.update_noteq (hp path hpath) _ _
  · rfl

theorem runScript_writeChangedFiles (libs : Libraries) (output : Option String)
    (changedFiles : List (String × PyVal)) (repo : Repo) :
    runScript (writeChangedFiles libs output changedFiles) repo = (.ok (), match givenArg output with
      | some path => Function.update repo path
          (some (libs.jsonDumps (.dict [("changed_files", .dict changedFiles)]) ++ "\n"))
      | none => repo) :=
  runScript_dumpJsonArg _ _ _ _

theorem givenArg_some {output : Option String} {path : String} (h : givenArg output = some path) :
    output = some path := by
  unfold givenArg at h
  split at h
  · split_ifs at h
    cases h
    rfl
  · cases h

/-! ## One item -/

section Item

variable {libs : Libraries} {components : List Component} {item : PlanItem}

theorem bumpItem_writesWithin :
    WritesWithin (itemFiles components item) (bumpItem libs components item) := by
  unfold bumpItem itemFiles
  split
  · next component hc =>
    rw [hc]
    refine WritesWithin.bind readComponentVersion_readOnly.writesWithin fun _ => ?_
    dsimp only
    split
    exacts [WritesWithin.bind (readOnly_throw _).writesWithin fun _ =>
        writeComponentVersion_writesWithin,
      WritesWithin.bind (readOnly_pure _).writesWithin fun _ => writeComponentVersion_writesWithin]
  · exact (readOnly_throw _).writesWithin

/-- An item that raises has written nothing, unless its drift check passed and its primary
version file was written; from there only its runtime version files can differ. -/
theorem bumpItem_raises {repo repo' : Repo} {e : PyExc}
    (h : runScript (bumpItem libs components item) repo = (.error e, repo')) :
    repo' = repo ∨ ∃ component repo₁, componentMap components item.name = some component ∧
      (runScript (readComponentVersion libs component) repo).1 = .ok (.str item.currentVersion) ∧
      runScript (writePrimaryVersion libs component item.nextVersion) repo = (.ok (), repo₁) ∧
      ∀ p, p ∉ component.runtimeVersionFiles → repo' p = repo₁ p := by
  unfold bumpItem at h
  split at h
  · next component hc =>
    have hro : ReadOnly (readComponentVersion libs component) := readComponentVersion_readOnly
    rcases runScript_bind_error h with hread | ⟨currentNow, repo₀, hread, hcheck⟩
    · exact .inl (by simpa only [hread] using hro repo)
    obtain rfl : repo = repo₀ := by simpa only [hread] using (hro repo).symm
    dsimp only at hcheck
    split at hcheck
    · rcases runScript_bind_error hcheck with h | ⟨_, _, h, -⟩ <;> cases h
      exact .inl rfl
    · next hdrift =>
      have hcur : currentNow = .str item.currentVersion := by
        cases currentNow <;> simp_all [PyVal.eqStr]
      rw [runScript_bind, runScript_pure] at hcheck
      rcases runScript_bind_error hcheck with hprim | ⟨_, repo₁, hprim, h⟩
      · have hw : WritesOnce _ (writePrimaryVersion libs component item.nextVersion) :=
          writePrimaryVersion_writesOnce
        rcases hw repo with ⟨_, he⟩ | ⟨_, _, he⟩ <;> rw [he] at hprim <;> cases hprim
        exact .inl rfl
      refine .inr ⟨component, repo₁, hc, by rw [hread, hcur], hprim, fun p hp => ?_⟩
      rcases runScript_bind_error h with hrun | ⟨_, _, -, h⟩
      · have hw : WritesWithin _ (updateRuntimeFiles item.nextVersion component.runtimeVersionFiles) :=
          updateRuntimeFiles_writesWithin _
        simpa only [hrun] using hw repo₁ p hp
      · cases h
  · cases h
    exact .inl rfl

/-- An item that returns has written its component's next version, and done nothing else. -/
theorem bumpItem_ok {repo repo' : Repo} {changed : List String}
    (h : runScript (bumpItem libs components item) repo = (.ok changed, repo')) :
    ∃ component, componentMap components item.name = some component ∧
      runScript (writeComponentVersion libs component item.nextVersion) repo =
        (.ok changed, repo') := by
  unfold bumpItem at h
  split at h
  · next component hc =>
    obtain ⟨currentNow, repo₀, hread, hcheck⟩ := runScript_bind_ok h
    have hro : ReadOnly (readComponentVersion libs component) := readComponentVersion_readOnly
    obtain rfl : repo = repo₀ := by simpa only [hread] using (hro repo).symm
    dsimp only at hcheck
    split at hcheck
    · obtain ⟨_, _, h, -⟩ := runScript_bind_ok hcheck
      cases h
    · rw [runScript_bind, runScript_pure] at hcheck
      exact ⟨component, hc, hcheck⟩
  · cases h

end Item

/-! ## A whole run -/

/-- The loop raised at one item: every item before it returned, and no later item ran. -/
theorem bumpVersionsLoop_raises {libs : Libraries} {components : List Component} :
    ∀ {items : List PlanItem} {changedFiles : List (String × PyVal)} {repo repo' : Repo}
      {e : PyExc},
      runScript (bumpVersionsLoop libs components changedFiles items) repo = (.error e, repo') →
      ∃ done item later changedFiles' mid, items = done ++ item :: later ∧
        runScript (bumpVersionsLoop libs components changedFiles done) repo =
          (.ok changedFiles', mid) ∧
        runScript (bumpItem libs components item) mid = (.error e, repo')
  | [], _, _, _, _, h => by cases h
  | item :: items, changedFiles, repo, repo', e, h => by
    rw [bumpVersionsLoop_cons] at h
    rcases runScript_bind_error h with hitem | ⟨changed, mid, hitem, hrest⟩
    · exact ⟨[], item, items, changedFiles, repo, rfl, rfl, hitem⟩
    · obtain ⟨done, bad, later, changedFiles', mid', hsplit, hdone, hbad⟩ :=
        bumpVersionsLoop_raises hrest
      refine ⟨item :: done, bad, later, changedFiles', mid', by rw [hsplit]; rfl, ?_, hbad⟩
      rw [bumpVersionsLoop_cons, runScript_bind, hitem]
      exact hdone

/-- **A run that raises stopped at one plan item.** Every item before it returned, no later
item ran and the `--output` file was not written, and the item itself has written nothing,
unless its drift check passed and its primary version file was written; from there only its
runtime version files can differ. -/
theorem bumpVersions_stops_at_failure (libs : Libraries) (components : List Component)
    (items : List PlanItem) (output : Option String) (repo repo' : Repo) (e : PyExc)
    (h : runScript (bumpVersions libs components items output) repo = (.error e, repo')) :
    ∃ done item later changedFiles mid, items = done ++ item :: later ∧
      runScript (bumpVersionsLoop libs components [] done) repo = (.ok changedFiles, mid) ∧
      runScript (bumpItem libs components item) mid = (.error e, repo') ∧
      (repo' = mid ∨ ∃ component mid₁, componentMap components item.name = some component ∧
        (runScript (readComponentVersion libs component) mid).1 = .ok (.str item.currentVersion) ∧
        runScript (writePrimaryVersion libs component item.nextVersion) mid = (.ok (), mid₁) ∧
        ∀ p, p ∉ component.runtimeVersionFiles → repo' p = mid₁ p) := by
  rw [bumpVersions, runScript_bind] at h
  generalize hloop : runScript (bumpVersionsLoop libs components [] items) repo = r at h
  obtain ⟨_ | changedFiles, r⟩ := r <;> dsimp only at h
  · obtain ⟨rfl, rfl⟩ : _ = e ∧ r = repo' := by simpa using h
    obtain ⟨done, item, later, changedFiles', mid, hsplit, hdone, hbad⟩ :=
      bumpVersionsLoop_raises hloop
    exact ⟨done, item, later, changedFiles', mid, hsplit, hdone, hbad, bumpItem_raises hbad⟩
  · rw [runScript_writeChangedFiles] at h
    cases h

/-- The loop writes only the version source files of the plan's components. -/
theorem bumpVersionsLoop_frame {libs : Libraries} {components : List Component} {p : String} :
    ∀ {items : List PlanItem}, (∀ item ∈ items, p ∉ itemFiles components item) →
      ∀ changedFiles repo,
        (runScript (bumpVersionsLoop libs components changedFiles items) repo).2 p = repo p
  | [], _, _, _ => rfl
  | item :: items, hp, changedFiles, repo => by
    have hitem := (bumpItem_writesWithin : WritesWithin _ (bumpItem libs components item))
      repo p (hp item (List.mem_cons_self _ _))
    rw [bumpVersionsLoop_cons, runScript_bind]
    generalize runScript (bumpItem libs components item) repo = r at hitem ⊢
    obtain ⟨_ | _, r⟩ := r <;> dsimp only at hitem ⊢
    · exact hitem
    · rw [bumpVersionsLoop_frame (fun i hi => hp i (List.mem_cons_of_mem _ hi)), hitem]

/-- **Over a whole run, only the version source files of the plan's components and the
`--output` file change**, whether the run returns or raises. -/
theorem bumpVersions_frame (libs : Libraries) (components : List Component)
    (items : List PlanItem) (output : Option String) (repo : Repo) (p : String)
    (hp : ∀ item ∈ items, p ∉ itemFiles components item) (hout : output ≠ some p) :
    (runScript (bumpVersions libs components items output) repo).2 p = repo p := by
  have hloop : (runScript (bumpVersionsLoop libs components [] items) repo).2 p = repo p :=
    bumpVersionsLoop_frame hp [] repo
  rw [bumpVersions, runScript_bind]
  generalize runScript (bumpVersionsLoop libs components [] items) repo = r at hloop ⊢
  obtain ⟨_ | changedFiles, r⟩ := r <;> dsimp only at hloop ⊢
  · exact hloop
  · rw [← hloop]
    exact dumpJsonArg_frame _ _ _ _ fun path hpath h => hout (h ▸ givenArg_some hpath)

/-! ## Runs that stop part-way -/

/-- Two `plain` components; the second mirrors its version in a module that has no
`__version__` assignment. -/
def releaseComponents : List Component :=
  [⟨"api", none, none, "api/VERSION", "plain", []⟩,
    ⟨"web", none, none, "web/VERSION", "plain", ["web/version.py"]⟩]

def releaseRepo : Repo
  | "api/VERSION" => some "1.0.0\n"
  | "web/VERSION" => some "2.0.1\n"
  | "web/version.py" => some "VERSION = \"2.0.1\"\n"
  | _ => none

/-- A plan whose second item expects a version the repository no longer holds. -/
def driftPlan : List PlanItem :=
  [⟨"api", "1.0.0", "1.1.0"⟩, ⟨"web", "2.0.0", "2.1.0"⟩]

/-- A plan for the component whose runtime file cannot be rewritten. -/
def webPlan : List PlanItem :=
  [⟨"web", "2.0.1", "2.0.2"⟩]

theorem bumpVersions_not_all_or_nothing :
    let drifted := runScript (bumpVersions noLibraries releaseComponents driftPlan
      (some "changed-files.json")) releaseRepo
    let unmirrored := runScript (bumpVersions noLibraries releaseComponents webPlan
      (some "changed-files.json")) releaseRepo
    drifted.1 = .error ⟨.other, "Version drift for web: expected 2.0.0, found 2.0.1."⟩ ∧
    releaseRepo "api/VERSION" = some "1.0.0\n" ∧ drifted.2 "api/VERSION" = some "1.1.0\n" ∧
    unmirrored.1 = .error ⟨.valueError, "Could not update __version__ in web/version.py"⟩ ∧
    releaseRepo "web/VERSION" = some "2.0.1\n" ∧ unmirrored.2 "web/VERSION" = some "2.0.2\n" :=
  ⟨rfl, rfl, rfl, rfl, rfl, rfl⟩

theorem bumpVersions_stops_at_failure_drift :
    let drifted := runScript (bumpVersions noLibraries releaseComponents driftPlan
      (some "changed-files.json")) releaseRepo
    let e : PyExc := ⟨.other, "Version drift for web: expected 2.0.0, found 2.0.1."⟩
    drifted = (.error e, drifted.2) ∧
    ∃ done item later changedFiles mid, driftPlan = done ++ item :: later ∧
      runScript (bumpVersionsLoop noLibraries releaseComponents [] done) releaseRepo =
        (.ok changedFiles, mid) ∧
      runScript (bumpItem noLibraries releaseComponents item) mid = (.error e, drifted.2) ∧
      (drifted.2 = mid ∨ ∃ component mid₁,
        componentMap releaseComponents item.name = some component ∧
        (runScript (readComponentVersion noLibraries component) mid).1 =
          .ok (.str item.currentVersion) ∧
        runScript (writePrimaryVersion noLibraries component item.nextVersion) mid =
          (.ok (), mid₁) ∧
        ∀ p, p ∉ component.runtimeVersionFiles → drifted.2 p = mid₁ p) :=
  have hrun : runScript (bumpVersions noLibraries releaseComponents driftPlan
      (some "changed-files.json")) releaseRepo =
      (.error ⟨.other, "Version drift for web: expected 2.0.0, found 2.0.1."⟩, _) :=
    Prod.ext rfl rfl
  ⟨hrun, bumpVersions_stops_at_failure _ _ _ _ _ _ _ hrun⟩

/-- A run of the first item alone, with an `--output` file, leaves the other component's
file as it was. -/
theorem bumpVersions_frame_api :
    (∀ item ∈ driftPlan.take 1, "web/VERSION" ∉ itemFiles releaseComponents item) ∧
    some "changed-files.json" ≠ some "web/VERSION" ∧
    (runScript (bumpVersions noLibraries releaseComponents (driftPlan.take 1)
      (some "changed-files.json")) releaseRepo).2 "web/VERSION" = releaseRepo "web/VERSION" :=
  have hp : ∀ item ∈ driftPlan.take 1, "web/VERSION" ∉ itemFiles releaseComponents item := by
    decide
  have hout : some "changed-files.json" ≠ some "web/VERSION" := by decide
  ⟨hp, hout, bumpVersions_frame _ _ _ _ _ _ hp hout⟩

end Tentacle.Release
