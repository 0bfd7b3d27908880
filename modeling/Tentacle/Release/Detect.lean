import Mathlib.Data.List.Dedup
import Mathlib.Data.List.Perm.Basic
import Tentacle.Release.Git

/-!
# Detecting the changed components

`detect_components.py` turns the paths `git diff --name-only` prints into the components a
release has to look at. For every changed file and, inside that loop, every component of the
config, a component whose `path_globs` match the file has its name added to a set and the
file appended to its list in a dict (`setdefault(name, []).append(rel_file)`). The output
sorts the set and each list.

What the loop computes is stated without its order of updates: `matchedFiles` lists, for a
name, each changed file once for every component of that name whose globs match it. The
glob matcher `fnmatch` is a parameter.

* `detectOutput_eq_spec` — the output names exactly the components some changed file
  matches, sorted, each with its matched files, sorted.
* `detectOutput_perm` — the components and files it reports do not depend on the order in
  which git lists the files, nor on the order of the components in the config.
-/

namespace Tentacle.Release

/-- A component as `detect_components.py` reads it: `name` and `path_globs` (default `[]`). -/
structure GlobComponent where
  name : String
  pathGlobs : List String

/-- `component_matches_file`: some pattern of `path_globs` matches, by
`fnmatch(rel_file, pattern)`. -/
def componentMatchesFile (fnmatch : String → String → Bool) (component : GlobComponent)
    (relFile : String) : Bool :=
  component.pathGlobs.any (fnmatch relFile)

/-- The set `changed_components` and the dict `component_files` the loop fills. -/
abbrev DetectAcc := List String × List (String × List String)

/-- One turn of the inner loop: `component` against `rel_file`. -/
def detectStep (fnmatch : String → String → Bool) (relFile : String) (acc : DetectAcc)
    (component : GlobComponent) : DetectAcc :=
  if componentMatchesFile fnmatch component relFile then
    (acc.1.insert component.name,
      dictSet acc.2 component.name ((acc.2.lookup component.name).getD [] ++ [relFile]))
  else acc

/-- The two nested loops of `main`. -/
def detectLoop (fnmatch : String → String → Bool) (components : List GlobComponent)
    (changedFiles : List String) : DetectAcc :=
  changedFiles.foldl (fun acc relFile => components.foldl (detectStep fnmatch relFile) acc)
    ([], [])

/-- The output of `main`: `base`, `head`, `files`, `components` and `component_files`. -/
structure Detection where
  base : String
  head : String
  files : List String
  components : List String
  componentFiles : List (String × List String)

/-- The output `main` builds from the changed files. `sorted(component_files.items())`
orders the items by their keys, which are distinct. -/
def detectOutput (fnmatch : String → String → Bool) (base head : String)
    (components : List GlobComponent) (changedFiles : List String) : Detection :=
  let acc := detectLoop fnmatch components changedFiles
  ⟨base, head, changedFiles, sortedNames acc.1,
    (sortedNames (acc.2.map Prod.fst)).map fun k => (k, sortedNames ((acc.2.lookup k).getD []))⟩

/-- `main` of `detect_components.py`, on the text `git diff --name-only base head`
printed. -/
def detectComponents (fnmatch : String → String → Bool) (base head : String)
    (components : List GlobComponent) (gitStdout : String) : Detection :=
  detectOutput fnmatch base head components (gitChangedFiles gitStdout)

/-! ## What the loop is for -/

section Spec

variable (fnmatch : String → String → Bool) (components : List GlobComponent)
  (changedFiles : List String)

/-- The files the loop appends under `name`: each changed file, once for every component of
that name whose globs match it. -/
def matchedFiles (name : String) : List String :=
  changedFiles.flatMap fun relFile =>
    (components.filter fun c => c.name == name && componentMatchesFile fnmatch c relFile).map
      fun _ => relFile

/-- The names of the components some changed file matches, sorted. -/
def detectedNames : List String :=
  sortedNames ((components.map (·.name)).dedup.filter
    fun n => matchedFiles fnmatch components changedFiles n ≠ [])

/-- The output as the script's purpose states it. -/
def detectSpec (base head : String) : Detection :=
  ⟨base, head, changedFiles, detectedNames fnmatch components changedFiles,
    (detectedNames fnmatch components changedFiles).map
      fun n => (n, sortedNames (matchedFiles fnmatch components changedFiles n))⟩

theorem mem_names_of_matchedFiles {name : String}
    (h : matchedFiles fnmatch components changedFiles name ≠ []) :
    name ∈ components.map (·.name) := by
  obtain ⟨f, hf⟩ := List.exists_mem_of_ne_nil _ h
  simp only [matchedFiles, List.mem_flatMap, List.mem_map, List.mem_filter, Bool.and_eq_true,
    beq_iff_eq] at hf
  obtain ⟨_, _, c, ⟨hc, hn, _⟩, _⟩ := hf
  exact List.mem_map.2 ⟨c, hc, hn⟩

/-- A detected name has a changed file: some component of that name matches one. -/
theorem exists_match_of_mem_detectedNames {fnmatch : String → String → Bool}
    {components : List GlobComponent} {changedFiles : List String} {name : String}
    (h : name ∈ detectedNames fnmatch components changedFiles) :
    ∃ c ∈ components, c.name = name ∧ ∃ f ∈ changedFiles, componentMatchesFile fnmatch c f := by
  rw [detectedNames, sortedNames, (List.perm_insertionSort _ _).mem_iff, List.mem_filter] at h
  obtain ⟨f, hf⟩ := List.exists_mem_of_ne_nil _ (of_decide_eq_true h.2)
  simp only [matchedFiles, List.mem_flatMap, List.mem_map, List.mem_filter, Bool.and_eq_true,
    beq_iff_eq] at hf
  obtain ⟨relFile, hrel, c, ⟨hc, hn, hm⟩, rfl⟩ := hf
  exact ⟨c, hc, hn, relFile, hrel, hm⟩

end Spec

theorem sortedNames_perm {names names' : List String} (h : names.Perm names') :
    sortedNames names = sortedNames names' :=
  List.eq_of_perm_of_sorted
    ((List.perm_insertionSort _ _).trans (h.trans (List.perm_insertionSort _ _).symm))
    (List.sorted_insertionSort _ _) (List.sorted_insertionSort _ _)

/-! ## The loop invariant -/

/-- What the loop keeps: the set holds exactly the dict's keys, neither has repeats, and no
list in the dict is empty. -/
structure DetectAcc.Wf (acc : DetectAcc) : Prop where
  nodup : acc.1.Nodup
  keys_nodup : (acc.2.map Prod.fst).Nodup
  mem_iff : ∀ n, n ∈ acc.1 ↔ acc.2.lookup n ≠ none
  ne_nil : ∀ n, acc.2.lookup n ≠ some []

theorem DetectAcc.Wf.mem_iff_files {acc : DetectAcc} (h : acc.Wf) (n : String) :
    n ∈ acc.1 ↔ (acc.2.lookup n).getD [] ≠ [] := by
  rw [h.mem_iff]
  cases hl : acc.2.lookup n with
  | none => simp
  | some fs => simpa [hl] using h.ne_nil n

theorem DetectAcc.Wf.mem_keys {acc : DetectAcc} (h : acc.Wf) (n : String) :
    n ∈ acc.2.map Prod.fst ↔ n ∈ acc.1 := by
  rw [mem_keys_iff, h.mem_iff]

section Loop

variable {fnmatch : String → String → Bool}

theorem wf_detectStep {acc : DetectAcc} (h : acc.Wf) (relFile : String)
    (c : GlobComponent) : (detectStep fnmatch relFile acc c).Wf := by
  unfold detectStep
  split
  · refine ⟨h.nodup.insert, nodup_keys_dictSet h.keys_nodup _ _, fun n => ?_, fun n => ?_⟩
    · by_cases hn : n = c.name <;> simp [hn, lookup_dictSet, h.mem_iff]
    · by_cases hn : n = c.name <;> simp [hn, lookup_dictSet, h.ne_nil]
  · exact h

theorem wf_foldl_detectStep {acc : DetectAcc} (h : acc.Wf) (relFile : String)
    (components : List GlobComponent) :
    (components.foldl (detectStep fnmatch relFile) acc).Wf := by
  induction components generalizing acc with
  | nil => exact h
  | cons c cs ih => exact ih (wf_detectStep h relFile c)

/-- The inner loop appends, under each name, the file once per matching component of that
name. -/
theorem files_foldl_detectStep (relFile : String) (components : List GlobComponent)
    (acc : DetectAcc) (n : String) :
    ((components.foldl (detectStep fnmatch relFile) acc).2.lookup n).getD [] =
      (acc.2.lookup n).getD [] ++
        (components.filter fun c => c.name == n && componentMatchesFile fnmatch c relFile).map
          fun _ => relFile := by
  induction components generalizing acc with
  | nil => simp
  | cons c cs ih =>
    rw [List.foldl_cons, ih, List.filter_cons]
    unfold Tentacle.Release.detectStep
    by_cases hm : componentMatchesFile fnmatch c relFile
    · by_cases hn : c.name = n
      · subst hn
        simp [hm, lookup_dictSet]
      · have hn' : n ≠ c.name := fun h => hn h.symm
        simp [hm, hn, hn', lookup_dictSet]
    · simp [hm]

theorem files_detectLoop (components : List GlobComponent) (changedFiles : List String)
    (n : String) :
    ((detectLoop fnmatch components changedFiles).2.lookup n).getD [] =
      matchedFiles fnmatch components changedFiles n := by
  suffices ∀ acc : DetectAcc, ((changedFiles.foldl (fun acc relFile =>
      components.foldl (detectStep fnmatch relFile) acc) acc).2.lookup n).getD [] =
      (acc.2.lookup n).getD [] ++ matchedFiles fnmatch components changedFiles n from
    this ([], [])
  induction changedFiles with
  | nil => simp [matchedFiles]
  | cons f fs ih =>
    intro acc
    rw [List.foldl_cons, ih, files_foldl_detectStep]
    simp only [matchedFiles, List.flatMap_cons, List.append_assoc]

theorem detectLoop_wf (components : List GlobComponent) (changedFiles : List String) :
    (detectLoop fnmatch components changedFiles).Wf := by
  suffices ∀ acc : DetectAcc, acc.Wf → (changedFiles.foldl (fun acc relFile =>
      components.foldl (detectStep fnmatch relFile) acc) acc).Wf from
    this ([], []) ⟨List.nodup_nil, List.nodup_nil, by simp, by simp⟩
  induction changedFiles with
  | nil => exact fun _ h => h
  | cons f fs ih => exact fun acc h => ih _ (wf_foldl_detectStep h f components)

end Loop

/-! ## The output -/

section Output

variable (fnmatch : String → String → Bool) (base head : String)
  (components : List GlobComponent) (changedFiles : List String)

/-- The set the loop fills, sorted, names the components some changed file matches. -/
theorem sortedNames_detectLoop_set :
    sortedNames (detectLoop fnmatch components changedFiles).1 =
      detectedNames fnmatch components changedFiles := by
  have hwf := @detectLoop_wf fnmatch components changedFiles
  refine sortedNames_perm ((List.perm_ext_iff_of_nodup hwf.nodup
    ((List.nodup_dedup _).filter _)).2 fun n => ?_)
  rw [hwf.mem_iff_files, files_detectLoop, List.mem_filter, List.mem_dedup, decide_eq_true_iff]
  exact ⟨fun h => ⟨mem_names_of_matchedFiles fnmatch components changedFiles h, h⟩, And.right⟩

/-- So do the keys of the dict it fills. -/
theorem sortedNames_detectLoop_keys :
    sortedNames ((detectLoop fnmatch components changedFiles).2.map Prod.fst) =
      detectedNames fnmatch components changedFiles := by
  have hwf := @detectLoop_wf fnmatch components changedFiles
  rw [← sortedNames_detectLoop_set]
  exact sortedNames_perm ((List.perm_ext_iff_of_nodup hwf.keys_nodup hwf.nodup).2 hwf.mem_keys)

/-- **The loop computes its declarative description**: `main` outputs, sorted, the names of
the components some changed file matches, and under each name its matched files, sorted,
one entry per matching component of that name. -/
theorem detectOutput_eq_spec :
    detectOutput fnmatch base head components changedFiles =
      detectSpec fnmatch components changedFiles base head := by
  simp only [detectOutput, detectSpec, sortedNames_detectLoop_set, sortedNames_detectLoop_keys,
    files_detectLoop]

end Output

/-! ## Order does not matter -/

section Perm

variable {fnmatch : String → String → Bool} {components components' : List GlobComponent}
  {changedFiles changedFiles' : List String}

theorem matchedFiles_perm (hc : components.Perm components')
    (hf : changedFiles.Perm changedFiles') (n : String) :
    (matchedFiles fnmatch components changedFiles n).Perm
      (matchedFiles fnmatch components' changedFiles' n) :=
  (List.Perm.flatMap_left _ fun _ _ => (hc.filter _).map _).trans (hf.flatMap_right _)

theorem detectedNames_perm (hc : components.Perm components')
    (hf : changedFiles.Perm changedFiles') :
    detectedNames fnmatch components changedFiles =
      detectedNames fnmatch components' changedFiles' := by
  have hne : ∀ n, matchedFiles fnmatch components changedFiles n = [] ↔
      matchedFiles fnmatch components' changedFiles' n = [] := fun n => by
    rw [← List.length_eq_zero, ← List.length_eq_zero, (matchedFiles_perm hc hf n).length_eq]
  unfold detectedNames
  simp only [ne_eq, hne]
  exact sortedNames_perm (((hc.map _).dedup).filter _)

/-- **The order of the inputs does not matter**: the components `main` reports, and the files
it lists under each, are the same for every order in which git lists the changed files and
every order of the components in the config. -/
theorem detectOutput_perm (base head : String) (hc : components.Perm components')
    (hf : changedFiles.Perm changedFiles') :
    (detectOutput fnmatch base head components changedFiles).components =
        (detectOutput fnmatch base head components' changedFiles').components ∧
      (detectOutput fnmatch base head components changedFiles).componentFiles =
        (detectOutput fnmatch base head components' changedFiles').componentFiles := by
  simp only [detectOutput, sortedNames_detectLoop_set, sortedNames_detectLoop_keys,
    files_detectLoop, detectedNames_perm hc hf, true_and]
  exact List.map_congr_left fun n _ => by rw [sortedNames_perm (matchedFiles_perm hc hf n)]

/-- Two components of a monorepo, and a matcher that takes a pattern as a path prefix. -/
def monorepoComponents : List GlobComponent := [⟨"api", ["apps/api/"]⟩, ⟨"web", ["apps/web/"]⟩]

def prefixMatch (relFile pattern : String) : Bool := pattern.isPrefixOf relFile

theorem detectOutput_perm_monorepo :
    monorepoComponents.Perm monorepoComponents.reverse ∧
    ["apps/web/main.ts", "apps/api/main.py"].Perm ["apps/api/main.py", "apps/web/main.ts"] ∧
    (detectOutput prefixMatch "v1" "v2" monorepoComponents
        ["apps/web/main.ts", "apps/api/main.py"]).components =
      (detectOutput prefixMatch "v1" "v2" monorepoComponents.reverse
        ["apps/api/main.py", "apps/web/main.ts"]).components ∧
    (detectOutput prefixMatch "v1" "v2" monorepoComponents
        ["apps/web/main.ts", "apps/api/main.py"]).componentFiles =
      (detectOutput prefixMatch "v1" "v2" monorepoComponents.reverse
        ["apps/api/main.py", "apps/web/main.ts"]).componentFiles :=
  have hc : monorepoComponents.Perm monorepoComponents.reverse := List.Perm.swap _ _ []
  have hf : ["apps/web/main.ts", "apps/api/main.py"].Perm
      ["apps/api/main.py", "apps/web/main.ts"] := List.Perm.swap _ _ []
  ⟨hc, hf, detectOutput_perm "v1" "v2" hc hf⟩

end Perm

end Tentacle.Release
