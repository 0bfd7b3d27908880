import Tentacle.Release.Semver

/-!
# Reading and writing component versions

`_common.py` keeps a component's version in one primary file, of one of four kinds
(`pyproject`, `setup-py`, `package-json`, `plain`), and optionally mirrors it in
`__version__` assignments of runtime files. The scripts run against a repository; a file
a step has written stays written when a later step raises. The model makes that explicit:
a step is `ScriptM`, an exception over a state of file contents, so a run that raises still
returns the repository as the writes before the exception left it.

Every script reads its files in text mode, so what a step reads is the file's text with
universal newlines (`textRead`); what it writes is stored as it is. `tomllib.loads`,
`json.load` and `json.dump` are library calls, taken as parameters (`Libraries`).

* `updateRuntimeFiles_reads` — once the runtime files have been rewritten, every one of
  them reads back the new version, and no other file has changed.
* `writeComponentVersion_reads_back` — after `write_component_version` returns, every
  runtime file reads the new version, and so does the primary file of a `setup-py`,
  `plain` or `package-json` component (the last given that `json.load` reads back what
  `json.dump` wrote), provided the primary file is not also one of the runtime files.
* `writePyprojectVersion_rewrites_description` — the `pyproject` writer is line-based: it
  can rewrite a `version = "..."` line inside a multi-line string, which `tomllib` does not
  read as `[project].version`.
* `writeComponentVersion_not_read_back` — the proviso on the primary file is needed (a
  `setup.py` listed as its own runtime file can lose its `version=` assignment to the
  runtime rewrite), and a `pyproject` component may not read back at all.
-/

namespace Tentacle.Release

/-! ## The repository and script steps -/

/-- The repository: each file's text by its path relative to the repository root (as the
config spells it), `none` for a missing file. `pathlib` normalizes a path before it opens the
file, so the model takes paths in canonical form, as the configs and plans write them: no
`.` or `..` component, no doubled or trailing `/`. Directories are implicit: a file can be
written anywhere (`mkdir(parents=True)` never fails). -/
abbrev Repo := String → Option String

/-- A script step: it may read and write files and may raise. -/
abbrev ScriptM := ExceptT PyExc (StateM Repo)

/-- A step run on a repository: its outcome, and the repository afterwards (also when it
raised). -/
def runScript {α : Type} (x : ScriptM α) (repo : Repo) : Except PyExc α × Repo :=
  x.run.run repo

/-- The `FileNotFoundError` of reading a missing file. -/
def fileNotFound (path : String) : PyExc :=
  ⟨.other, s!"[Errno 2] No such file or directory: '{path}'"⟩

/-- `Path.read_text`, and every `open(path, "r")`: text mode, so with universal newlines. -/
def readText (path : String) : ScriptM String := do
  let repo ← get
  (repo path).elim (throw (fileNotFound path)) fun text => pure (textRead text)

/-- `Path.write_text`: the file holds the text afterwards. -/
def writeText (path text : String) : ScriptM Unit :=
  modify fun repo => Function.update repo path (some text)

/-- A library call or a `dict` access inside a step. -/
def liftExc {α : Type} : Except PyExc α → ScriptM α
  | .ok a => pure a
  | .error e => throw e

theorem runScript_bind {α β : Type} (x : ScriptM α) (f : α → ScriptM β) (repo : Repo) :
    runScript (x >>= f) repo =
      match runScript x repo with
      | (.ok a, repo') => runScript (f a) repo'
      | (.error e, repo') => (.error e, repo') := by
  unfold runScript
  rw [ExceptT.run_bind, StateT.run_bind]
  rcases h : (ExceptT.run x).run repo with ⟨_ | a, r⟩ <;> simp only [h] <;> rfl

theorem runScript_bind_ok {α β : Type} {x : ScriptM α} {f : α → ScriptM β} {repo repo' : Repo}
    {b : β} (h : runScript (x >>= f) repo = (.ok b, repo')) :
    ∃ a repo₁, runScript x repo = (.ok a, repo₁) ∧ runScript (f a) repo₁ = (.ok b, repo') := by
  rw [runScript_bind] at h
  generalize runScript x repo = r at h ⊢
  obtain ⟨_ | a, r⟩ := r
  · cases h
  · exact ⟨a, r, rfl, h⟩

theorem runScript_bind_of_ok {α β : Type} {x : ScriptM α} {f : α → ScriptM β} {repo repo₁ : Repo}
    {a : α} (h : runScript x repo = (.ok a, repo₁)) :
    runScript (x >>= f) repo = runScript (f a) repo₁ := by
  rw [runScript_bind, h]

theorem runScript_bind_error {α β : Type} {x : ScriptM α} {f : α → ScriptM β}
    {repo repo' : Repo} {e : PyExc} (h : runScript (x >>= f) repo = (.error e, repo')) :
    runScript x repo = (.error e, repo') ∨
      ∃ a repo₁, runScript x repo = (.ok a, repo₁) ∧ runScript (f a) repo₁ = (.error e, repo') := by
  rw [runScript_bind] at h
  generalize runScript x repo = r at h ⊢
  obtain ⟨_ | a, r⟩ := r
  · simp only [Prod.mk.injEq, Except.error.injEq] at h
    obtain ⟨rfl, rfl⟩ := h
    exact .inl rfl
  · exact .inr ⟨a, r, rfl, h⟩

theorem runScript_pure {α : Type} (a : α) (repo : Repo) :
    runScript (pure a) repo = (.ok a, repo) := rfl

theorem runScript_throw {α : Type} (e : PyExc) (repo : Repo) :
    runScript (throw e : ScriptM α) repo = (.error e, repo) := rfl

theorem runScript_readText (path : String) (repo : Repo) :
    runScript (readText path) repo =
      ((repo path).elim (.error (fileNotFound path)) fun text => .ok (textRead text), repo) := by
  show runScript ((repo path).elim (throw (fileNotFound path)) fun text => pure (textRead text))
    repo = _
  cases repo path <;> rfl

theorem runScript_readText_of {path text : String} {repo : Repo} (h : repo path = some text) :
    runScript (readText path) repo = (.ok (textRead text), repo) := by
  rw [runScript_readText, h]
  rfl

theorem runScript_writeText (path text : String) (repo : Repo) :
    runScript (writeText path text) repo = (.ok (), Function.update repo path (some text)) := rfl

theorem runScript_liftExc {α : Type} (x : Except PyExc α) (repo : Repo) :
    runScript (liftExc x) repo = (x, repo) := by
  cases x <;> rfl

theorem runScript_liftExc_ok {α : Type} {y : Except PyExc α} {a : α} {repo repo' : Repo}
    (h : runScript (liftExc y) repo = (.ok a, repo')) : y = .ok a ∧ repo = repo' := by
  rwa [runScript_liftExc, Prod.mk.injEq] at h

theorem runScript_readText_ok {path text : String} {repo repo' : Repo}
    (h : runScript (readText path) repo = (.ok text, repo')) :
    ∃ raw, repo path = some raw ∧ text = textRead raw ∧ repo' = repo := by
  rw [runScript_readText, Prod.mk.injEq] at h
  obtain ⟨h, rfl⟩ := h
  cases hp : repo path <;> rw [hp] at h <;> cases h
  exact ⟨_, rfl, rfl, rfl⟩

theorem runScript_get_bind {α : Type} (f : Repo → ScriptM α) (repo : Repo) :
    runScript (get >>= f) repo = runScript (f repo) repo := rfl

/-! ### What a step may write

Three properties of a step, each closed under `>>=` after a step that only reads: it only
reads; it raises with nothing written or returns with one file written; it writes no file
outside a list. The scripts' steps are built from `readText`, `writeText`, `throw` and
`pure`, so each property of a composite step follows from its parts. -/

/-- A step that only reads: whatever it returns or raises, the repository is as it was. -/
def ReadOnly {α : Type} (x : ScriptM α) : Prop :=
  ∀ repo, (runScript x repo).2 = repo

/-- A step that raises with nothing written, or returns with `path` written and nothing
else. -/
def WritesOnce {α : Type} (path : String) (x : ScriptM α) : Prop :=
  ∀ repo, (∃ e, runScript x repo = (.error e, repo)) ∨
    ∃ a text, runScript x repo = (.ok a, Function.update repo path (some text))

/-- A step that writes no file outside `files`. -/
def WritesWithin {α : Type} (files : List String) (x : ScriptM α) : Prop :=
  ∀ repo p, p ∉ files → (runScript x repo).2 p = repo p

section StepProperties

variable {α β : Type} {x : ScriptM α} {f : α → ScriptM β} {path : String} {files : List String}

theorem readOnly_pure (a : α) : ReadOnly (pure a : ScriptM α) := fun _ => rfl

theorem readOnly_throw (e : PyExc) : ReadOnly (throw e : ScriptM α) := fun _ => rfl

theorem readOnly_readText (path : String) : ReadOnly (readText path) := fun repo => by
  rw [runScript_readText]

theorem readOnly_liftExc (y : Except PyExc α) : ReadOnly (liftExc y) := fun repo => by
  rw [runScript_liftExc]

theorem ReadOnly.bind (hx : ReadOnly x) (hf : ∀ a, ReadOnly (f a)) : ReadOnly (x >>= f) := by
  intro repo
  have h := hx repo
  rw [runScript_bind]
  generalize runScript x repo = r at h ⊢
  obtain ⟨_ | a, r⟩ := r <;> dsimp only at h ⊢ <;> subst h
  · rfl
  · exact hf a _

theorem ReadOnly.writesWithin (hx : ReadOnly x) : WritesWithin files x := by
  intro repo p _
  rw [hx repo]

theorem writesOnce_throw (e : PyExc) : WritesOnce path (throw e : ScriptM α) :=
  fun _ => .inl ⟨e, rfl⟩

theorem writesOnce_writeText (text : String) : WritesOnce path (writeText path text) :=
  fun _ => .inr ⟨(), text, rfl⟩

theorem WritesOnce.bind (hx : ReadOnly x) (hf : ∀ a, WritesOnce path (f a)) :
    WritesOnce path (x >>= f) := by
  intro repo
  have h := hx repo
  rw [runScript_bind]
  generalize runScript x repo = r at h ⊢
  obtain ⟨_ | a, r⟩ := r <;> dsimp only at h ⊢ <;> subst h
  · exact .inl ⟨_, rfl⟩
  · exact hf a _

theorem WritesOnce.writesWithin (hx : WritesOnce path x) (h : path ∈ files) :
    WritesWithin files x := by
  intro repo p hp
  rcases hx repo with ⟨e, he⟩ | ⟨a, text, he⟩ <;> rw [he]
  exact Function.update_noteq (by rintro rfl; exact hp h) _ _

theorem WritesWithin.bind (hx : WritesWithin files x) (hf : ∀ a, WritesWithin files (f a)) :
    WritesWithin files (x >>= f) := by
  intro repo p hp
  have h := hx repo p hp
  rw [runScript_bind]
  generalize runScript x repo = r at h ⊢
  obtain ⟨_ | a, r⟩ := r <;> dsimp only at h ⊢
  · exact h
  · rw [hf a r p hp, h]

theorem WritesWithin.mono {files' : List String} (hx : WritesWithin files x)
    (h : files ⊆ files') : WritesWithin files' x :=
  fun repo p hp => hx repo p fun hm => hp (h hm)

theorem ReadOnly.get_bind {f : Repo → ScriptM α} (hf : ∀ r, ReadOnly (f r)) :
    ReadOnly (get >>= f) :=
  fun repo => hf repo repo

theorem ReadOnly.eq_of_ok {repo repo' : Repo} {a : α} (hx : ReadOnly x)
    (h : runScript x repo = (.ok a, repo')) : repo' = repo := by
  simpa only [h] using hx repo

theorem readOnly_mapM {f : α → ScriptM β} (hf : ∀ a, ReadOnly (f a)) :
    ∀ xs : List α, ReadOnly (xs.mapM f)
  | [] => readOnly_pure _
  | x :: xs => by
    rw [List.mapM_cons]
    exact (hf x).bind fun _ => (readOnly_mapM hf xs).bind fun _ => readOnly_pure _

/-- A read-only loop that returned ran each turn, in order, on the repository it started
with. -/
theorem runScript_mapM_forall₂ {f : α → ScriptM β} (hf : ∀ a, ReadOnly (f a)) :
    ∀ {xs : List α} {ys : List β} {repo repo' : Repo},
      runScript (xs.mapM f) repo = (.ok ys, repo') →
      repo' = repo ∧ List.Forall₂ (fun x y => runScript (f x) repo = (.ok y, repo)) xs ys
  | [], ys, repo, repo', h => by
    rw [List.mapM_nil, runScript_pure, Prod.mk.injEq, Except.ok.injEq] at h
    obtain ⟨rfl, rfl⟩ := h
    exact ⟨rfl, .nil⟩
  | x :: xs, ys, repo, repo', h => by
    rw [List.mapM_cons] at h
    obtain ⟨y, r₁, hy, h₁⟩ := runScript_bind_ok h
    obtain rfl := (hf x).eq_of_ok hy
    obtain ⟨ys', r₂, hys, h₂⟩ := runScript_bind_ok h₁
    rw [runScript_pure, Prod.mk.injEq, Except.ok.injEq] at h₂
    obtain ⟨rfl, rfl⟩ := h₂
    obtain ⟨rfl, hall⟩ := runScript_mapM_forall₂ hf hys
    exact ⟨rfl, .cons hy hall⟩

end StepProperties

/-- Each element of two lists a relation pairs up has a partner in the other list. -/
theorem forall₂_partners {α β : Type} {R : α → β → Prop} :
    ∀ {xs : List α} {ys : List β}, List.Forall₂ R xs ys →
      (∀ x ∈ xs, ∃ y ∈ ys, R x y) ∧ ∀ y ∈ ys, ∃ x ∈ xs, R x y
  | _, _, .nil =>
    ⟨fun _ h => absurd h (List.not_mem_nil _), fun _ h => absurd h (List.not_mem_nil _)⟩
  | _, _, .cons hr h => by
    obtain ⟨hl, hr'⟩ := forall₂_partners h
    refine ⟨fun x hx => ?_, fun y hy => ?_⟩
    · rcases List.mem_cons.1 hx with rfl | hx
      · exact ⟨_, List.mem_cons_self _ _, hr⟩
      · obtain ⟨y, hy, hxy⟩ := hl x hx
        exact ⟨y, List.mem_cons_of_mem _ hy, hxy⟩
    · rcases List.mem_cons.1 hy with rfl | hy
      · exact ⟨_, List.mem_cons_self _ _, hr⟩
      · obtain ⟨x, hx, hxy⟩ := hr' y hy
        exact ⟨x, List.mem_cons_of_mem _ hx, hxy⟩

/-- A step whose outcome depends only on the files in `files`. -/
def ReadsFrom {α : Type} (files : List String) (x : ScriptM α) : Prop :=
  ∀ repo repo', (∀ p ∈ files, repo p = repo' p) → (runScript x repo).1 = (runScript x repo').1

section Reads

variable {α β : Type} {x : ScriptM α} {f : α → ScriptM β} {path : String} {files : List String}

theorem readsFrom_pure (a : α) : ReadsFrom files (pure a : ScriptM α) := fun _ _ _ => rfl

theorem readsFrom_throw (e : PyExc) : ReadsFrom files (throw e : ScriptM α) := fun _ _ _ => rfl

theorem readsFrom_liftExc (y : Except PyExc α) : ReadsFrom files (liftExc y) := fun _ _ _ => by
  rw [runScript_liftExc, runScript_liftExc]

theorem readsFrom_readText (h : path ∈ files) : ReadsFrom files (readText path) :=
  fun _ _ hr => by rw [runScript_readText, runScript_readText, hr path h]

/-- A read-only step followed by steps that read from `files` reads from `files`. -/
theorem ReadsFrom.bind (hx : ReadOnly x) (hxr : ReadsFrom files x)
    (hf : ∀ a, ReadsFrom files (f a)) : ReadsFrom files (x >>= f) := by
  intro repo repo' hr
  have h₁ := hx repo
  have h₂ := hx repo'
  have h := hxr repo repo' hr
  rw [runScript_bind, runScript_bind]
  generalize runScript x repo = r₁ at h₁ h ⊢
  generalize runScript x repo' = r₂ at h₂ h ⊢
  obtain ⟨o₁, r₁⟩ := r₁
  obtain ⟨o₂, r₂⟩ := r₂
  dsimp only at h₁ h₂ h
  subst h₁ h₂ h
  cases o₁ with
  | error e => rfl
  | ok a => exact hf a _ _ hr

/-- A step that starts by reading a missing file raises. -/
theorem runScript_readText_bind_missing {repo : Repo} (h : repo path = none) (g : String → ScriptM β) :
    runScript (readText path >>= g) repo = (.error (fileNotFound path), repo) := by
  rw [runScript_bind, runScript_readText, h]
  rfl

end Reads

/-- The library calls of `_common.py`: `tomllib.loads`, `json.load` on a file's text, and
the text `json.dump(data, f, indent=2)` writes. -/
structure Libraries where
  tomlLoads : String → Except PyExc PyVal
  jsonLoads : String → Except PyExc PyVal
  jsonDumps : PyVal → String

/-- A component of the release config, with the keys the scripts read: `name`, `scope` and
`kind` (both default `None`), `version.file`, `version.kind` and `runtime_version_files`
(default `[]`). -/
structure Component where
  name : String
  scope : Option String
  kind : Option String
  versionFile : String
  versionKind : String
  runtimeVersionFiles : List String

/-- `component.get(key)` on a key that holds a string or is missing. -/
def optStr : Option String → PyVal
  | some s => .str s
  | none => .none

/-- `dump_json`: `json.dump(data, f, indent=2)`, then a final newline. -/
def dumpJson (libs : Libraries) (path : String) (data : PyVal) : ScriptM Unit :=
  writeText path (libs.jsonDumps data ++ "\n")

/-- `version_source_files`: the primary version file, then the runtime version files. -/
def versionSourceFiles (component : Component) : List String :=
  component.versionFile :: component.runtimeVersionFiles

/-! ## The four kinds of version file -/

/-- `read_pyproject_version`: `tomllib.loads(text)["project"]["version"]`. -/
def readPyprojectVersion (libs : Libraries) (path : String) : ScriptM PyVal := do
  let data ← liftExc (libs.tomlLoads (← readText path))
  liftExc (data.getItem "project" >>= (·.getItem "version"))

/-- The loop of `write_pyproject_version` over the lines, with the `in_project` flag: the
lines with the first `version = "..."` line of a `[project]` table rewritten, or `none`
when no line was changed. -/
def rewriteProjectVersion (newVersion : String) :
    Bool → List (List Char) → Option (List (List Char))
  | _, [] => none
  | inProject, line :: lines =>
    let stripped := stripChars line
    if stripped.head? = some '[' ∧ stripped.getLast? = some ']' then
      (rewriteProjectVersion newVersion (stripped = "[project]".data) lines).map (line :: ·)
    else if inProject ∧ isProjectVersionLine stripped then
      let indent := line.takeWhile isPySpace
      let newline := if line.getLast? = some '\n' then ['\n'] else []
      some ((indent ++ s!"version = \"{newVersion}\"".data ++ newline) :: lines)
    else (rewriteProjectVersion newVersion inProject lines).map (line :: ·)

/-- `write_pyproject_version`. -/
def writePyprojectVersion (path newVersion : String) : ScriptM Unit := do
  let lines := splitLines (← readText path).data
  match rewriteProjectVersion newVersion false lines with
  | some lines => writeText path ⟨lines.flatten⟩
  | none => throw ⟨.valueError, s!"Could not update [project].version in {path}"⟩

/-- `read_setup_py_version`: group 2 of the first match of `SETUP_VERSION_RE`. -/
def readSetupPyVersion (path : String) : ScriptM PyVal := do
  let content ← readText path
  match searchAssign setupVersionLit content.data with
  | some (_, m) => pure (.str ⟨m.value⟩)
  | none => throw ⟨.valueError, s!"Could not find version= in {path}"⟩

/-- `write_setup_py_version`. -/
def writeSetupPyVersion (path newVersion : String) : ScriptM Unit := do
  let content ← readText path
  let (updated, count) := subAssign setupVersionLit newVersion.data content.data
  if count != 1 then throw ⟨.valueError, s!"Could not update setup.py version in {path}"⟩
  writeText path ⟨updated⟩

/-- `read_package_json_version`: `json.load(f)["version"]`. -/
def readPackageJsonVersion (libs : Libraries) (path : String) : ScriptM PyVal := do
  let data ← liftExc (libs.jsonLoads (← readText path))
  liftExc (data.getItem "version")

/-- `write_package_json_version`: load, set `version`, dump with a final newline. -/
def writePackageJsonVersion (libs : Libraries) (path newVersion : String) : ScriptM Unit := do
  let data ← liftExc (libs.jsonLoads (← readText path))
  let data ← liftExc (data.setItem "version" (.str newVersion))
  writeText path (libs.jsonDumps data ++ "\n")

/-- `read_plain_version`. -/
def readPlainVersion (path : String) : ScriptM PyVal := do
  return .str (pyStrip (← readText path))

/-- `write_plain_version`. -/
def writePlainVersion (path newVersion : String) : ScriptM Unit :=
  writeText path (newVersion ++ "\n")

/-! ## Components -/

/-- `read_component_version`. -/
def readComponentVersion (libs : Libraries) (component : Component) : ScriptM PyVal :=
  match component.versionKind with
  | "pyproject" => readPyprojectVersion libs component.versionFile
  | "setup-py" => readSetupPyVersion component.versionFile
  | "package-json" => readPackageJsonVersion libs component.versionFile
  | "plain" => readPlainVersion component.versionFile
  | kind => throw ⟨.valueError, s!"Unsupported version kind: {kind}"⟩

/-- The first half of `write_component_version`: the primary version file. -/
def writePrimaryVersion (libs : Libraries) (component : Component) (newVersion : String) :
    ScriptM Unit :=
  match component.versionKind with
  | "pyproject" => writePyprojectVersion component.versionFile newVersion
  | "setup-py" => writeSetupPyVersion component.versionFile newVersion
  | "package-json" => writePackageJsonVersion libs component.versionFile newVersion
  | "plain" => writePlainVersion component.versionFile newVersion
  | kind => throw ⟨.valueError, s!"Unsupported version kind: {kind}"⟩

/-- The loop of `write_component_version` over `runtime_version_files`: each file's first
`__version__` assignment is rewritten, in order; the files rewritten are returned. -/
def updateRuntimeFiles (newVersion : String) : List String → ScriptM (List String)
  | [] => pure []
  | runtimeFile :: runtimeFiles => do
    let content ← readText runtimeFile
    let (updated, count) := subAssign versionAssignLit newVersion.data content.data
    if count != 1 then throw ⟨.valueError, s!"Could not update __version__ in {runtimeFile}"⟩
    writeText runtimeFile ⟨updated⟩
    let changed ← updateRuntimeFiles newVersion runtimeFiles
    return runtimeFile :: changed

/-- `write_component_version`: the primary file, then the runtime files; the changed
files are returned. -/
def writeComponentVersion (libs : Libraries) (component : Component) (newVersion : String) :
    ScriptM (List String) := do
  writePrimaryVersion libs component newVersion
  let changed ← updateRuntimeFiles newVersion component.runtimeVersionFiles
  return component.versionFile :: changed

/-- `read_runtime_file_version`: group 2 of the first match of `VERSION_ASSIGN_RE`. -/
def readRuntimeFileVersion (path : String) : ScriptM String := do
  let content ← readText path
  match searchAssign versionAssignLit content.data with
  | some (_, m) => pure ⟨m.value⟩
  | none => throw ⟨.valueError, s!"Could not find __version__ assignment in {path}"⟩

/-! ### What each step writes -/

section Writes

variable {libs : Libraries} {component : Component} {v : String}

theorem readComponentVersion_readOnly : ReadOnly (readComponentVersion libs component) := by
  unfold readComponentVersion readPyprojectVersion readSetupPyVersion readPackageJsonVersion
    readPlainVersion
  split
  · exact (readOnly_readText _).bind fun _ => (readOnly_liftExc _).bind fun _ => readOnly_liftExc _
  · refine (readOnly_readText _).bind fun _ => ?_
    split
    exacts [readOnly_pure _, readOnly_throw _]
  · exact (readOnly_readText _).bind fun _ => (readOnly_liftExc _).bind fun _ => readOnly_liftExc _
  · exact (readOnly_readText _).bind fun _ => readOnly_pure _
  · exact readOnly_throw _

/-- The primary file's writer raises with nothing written, or writes the primary file. -/
theorem writePrimaryVersion_writesOnce :
    WritesOnce component.versionFile (writePrimaryVersion libs component v) := by
  unfold writePrimaryVersion writePyprojectVersion writeSetupPyVersion writePackageJsonVersion
    writePlainVersion
  split
  · refine WritesOnce.bind (readOnly_readText _) fun _ => ?_
    dsimp only
    split
    exacts [writesOnce_writeText _, writesOnce_throw _]
  · refine WritesOnce.bind (readOnly_readText _) fun _ => ?_
    split
    dsimp only
    split
    exacts [WritesOnce.bind (readOnly_throw _) fun _ => writesOnce_writeText _,
      WritesOnce.bind (readOnly_pure _) fun _ => writesOnce_writeText _]
  · exact WritesOnce.bind (readOnly_readText _) fun _ => WritesOnce.bind (readOnly_liftExc _)
      fun _ => WritesOnce.bind (readOnly_liftExc _) fun _ => writesOnce_writeText _
  · exact writesOnce_writeText _
  · exact writesOnce_throw _

theorem updateRuntimeFiles_writesWithin :
    ∀ files, WritesWithin files (updateRuntimeFiles v files)
  | [] => (readOnly_pure _).writesWithin
  | f :: files => by
    refine WritesWithin.bind (readOnly_readText _).writesWithin fun _ => ?_
    have hrest : ∀ text, WritesWithin (f :: files) (do
        writeText f text
        let changed ← updateRuntimeFiles v files
        return f :: changed) := fun _ =>
      WritesWithin.bind ((writesOnce_writeText _).writesWithin (List.mem_cons_self _ _))
        fun _ => WritesWithin.bind
          ((updateRuntimeFiles_writesWithin files).mono (List.subset_cons_self _ _))
          fun _ => (readOnly_pure _).writesWithin
    split
    dsimp only
    split
    exacts [WritesWithin.bind (readOnly_throw _).writesWithin fun _ => hrest _,
      WritesWithin.bind (readOnly_pure _).writesWithin fun _ => hrest _]

/-- `write_component_version` writes only the component's version source files. -/
theorem writeComponentVersion_writesWithin :
    WritesWithin (versionSourceFiles component) (writeComponentVersion libs component v) :=
  WritesWithin.bind (writePrimaryVersion_writesOnce.writesWithin (List.mem_cons_self _ _))
    fun _ => WritesWithin.bind
      ((updateRuntimeFiles_writesWithin _).mono (List.subset_cons_self _ _))
      fun _ => (readOnly_pure _).writesWithin

end Writes

/-- A file whose first `__version__` assignment holds `v`. -/
def RuntimeReads (repo : Repo) (v file : String) : Prop :=
  ∃ text pre m, repo file = some text ∧
    searchAssign versionAssignLit (textRead text).data = some (pre, m) ∧ m.value = v.data

/-- A text read in text mode, with the value of its first match replaced by one without
`\r`, reads as itself. -/
theorem textRead_subAssign {lit new pre : List Char} {text : String} {m : AssignMatch}
    (hcr : '\r' ∉ new) (hs : searchAssign lit (textRead text).data = some (pre, m)) :
    (textRead ⟨pre ++ m.opening ++ new ++ m.closing :: m.rest⟩).data =
      pre ++ m.opening ++ new ++ m.closing :: m.rest := by
  obtain ⟨u, hu, hm, -⟩ := searchAssign_some hs
  have hno := cr_not_mem_textRead text
  rw [hu, (matchAssign_groups hm).1] at hno
  refine congrArg String.data (textRead_of_cr_not_mem ?_)
  simp only [List.mem_append, List.mem_cons, not_or] at hno ⊢
  exact ⟨⟨⟨hno.1, hno.2.1.1⟩, hcr⟩, hno.2.2⟩

/-- Once the runtime files have been rewritten, each of them reads back the new version,
and no other file has changed. -/
theorem updateRuntimeFiles_reads {v : String} (hv : IsValue v.data) (hcr : '\r' ∉ v.data) :
    ∀ {files : List String} {repo repo' : Repo} {changed : List String},
      runScript (updateRuntimeFiles v files) repo = (.ok changed, repo') →
      (∀ f ∈ files, RuntimeReads repo' v f) ∧ ∀ p, p ∉ files → repo' p = repo p
  | [], repo, repo', changed, h => by
    cases h
    exact ⟨fun _ h => absurd h (List.not_mem_nil _), fun _ _ => rfl⟩
  | f :: files, repo, repo', changed, h => by
    simp only [updateRuntimeFiles, runScript_bind, runScript_readText] at h
    cases hf : repo f with
    | none => simp [hf] at h
    | some text =>
      simp only [hf, Option.elim] at h
      cases hs : searchAssign versionAssignLit (textRead text).data with
      | none => simp [subAssign, hs, runScript_throw] at h
      | some pm =>
        obtain ⟨pre, m⟩ := pm
        obtain ⟨hsub, hsearch⟩ := searchAssign_subAssign versionAssignLit_ok hv hs
        simp only [hsub, bne_self_eq_false, Bool.false_eq_true, if_false, runScript_bind,
          runScript_pure, runScript_writeText] at h
        generalize hrun : runScript (updateRuntimeFiles v files) _ = r at h
        obtain ⟨_ | rest, r⟩ := r
        · cases h
        · cases h
          obtain ⟨hreads, hframe⟩ := updateRuntimeFiles_reads hv hcr hrun
          refine ⟨fun g hg => ?_, fun p hp => ?_⟩
          · by_cases hgf : g ∈ files
            · exact hreads g hgf
            · obtain rfl : g = f := by simpa [hgf] using hg
              rw [← textRead_subAssign hcr hs] at hsearch
              exact ⟨_, pre, _, by rw [hframe _ hgf, Function.update_same], hsearch, rfl⟩
          · rw [hframe p fun h => hp (List.mem_cons_of_mem f h),
              Function.update_noteq (by rintro rfl; exact hp (List.mem_cons_self _ _))]

/-! ### What each reader reads -/

section Readers

variable {libs : Libraries} {component : Component} {file : String} {repo : Repo}

/-- A component's source version depends only on its primary file. -/
theorem readComponentVersion_readsFrom :
    ReadsFrom [component.versionFile] (readComponentVersion libs component) := by
  have hread := readsFrom_readText (List.mem_singleton_self component.versionFile)
  unfold readComponentVersion readPyprojectVersion readSetupPyVersion readPackageJsonVersion
    readPlainVersion
  split
  · exact hread.bind (readOnly_readText _) fun _ =>
      (readsFrom_liftExc _).bind (readOnly_liftExc _) fun _ => readsFrom_liftExc _
  · refine hread.bind (readOnly_readText _) fun _ => ?_
    split
    exacts [readsFrom_pure _, readsFrom_throw _]
  · exact hread.bind (readOnly_readText _) fun _ =>
      (readsFrom_liftExc _).bind (readOnly_liftExc _) fun _ => readsFrom_liftExc _
  · exact hread.bind (readOnly_readText _) fun _ => readsFrom_pure _
  · exact readsFrom_throw _

/-- A component whose primary file is missing has no source version. -/
theorem readComponentVersion_missing (h : repo component.versionFile = none) :
    ∃ e, (runScript (readComponentVersion libs component) repo).1 = .error e := by
  unfold readComponentVersion readPyprojectVersion readSetupPyVersion readPackageJsonVersion
    readPlainVersion
  split <;> first
    | exact ⟨_, by rw [runScript_readText_bind_missing h]⟩
    | exact ⟨_, rfl⟩

theorem readRuntimeFileVersion_readsFrom : ReadsFrom [file] (readRuntimeFileVersion file) := by
  refine (readsFrom_readText (List.mem_singleton_self file)).bind (readOnly_readText _) fun _ => ?_
  split
  exacts [readsFrom_pure _, readsFrom_throw _]

theorem readRuntimeFileVersion_missing (h : repo file = none) :
    ∃ e, (runScript (readRuntimeFileVersion file) repo).1 = .error e :=
  ⟨_, by rw [readRuntimeFileVersion, runScript_readText_bind_missing h]⟩

end Readers

theorem runScript_readRuntimeFileVersion {repo : Repo} {v file : String}
    (h : RuntimeReads repo v file) :
    runScript (readRuntimeFileVersion file) repo = (.ok v, repo) := by
  obtain ⟨text, pre, m, hf, hs, hv⟩ := h
  simp [readRuntimeFileVersion, runScript_bind, runScript_readText, hf, hs, hv, runScript_pure]

/-! ### The primary file -/

section Primary

variable {libs : Libraries} {path v text : String} {repo repo' : Repo}

theorem runScript_readPyprojectVersion (hf : repo path = some text) :
    runScript (readPyprojectVersion libs path) repo =
      (libs.tomlLoads (textRead text) >>= fun data =>
        data.getItem "project" >>= (·.getItem "version"), repo) := by
  simp only [readPyprojectVersion, runScript_bind, runScript_readText, hf, Option.elim,
    runScript_liftExc]
  cases libs.tomlLoads (textRead text) <;> rfl

theorem writeSetupPyVersion_ok {u : Unit} (hv : IsValue v.data)
    (h : runScript (writeSetupPyVersion path v) repo = (.ok u, repo')) :
    ∃ text pre m, repo path = some text ∧
      searchAssign setupVersionLit (textRead text).data = some (pre, m) ∧
      repo' = Function.update repo path
        (some ⟨pre ++ m.opening ++ v.data ++ m.closing :: m.rest⟩) := by
  simp only [writeSetupPyVersion, runScript_bind, runScript_readText] at h
  cases hf : repo path with
  | none => simp [hf] at h
  | some text =>
    simp only [hf, Option.elim] at h
    cases hs : searchAssign setupVersionLit (textRead text).data with
    | none => simp [subAssign, hs, runScript_throw] at h
    | some pm =>
      obtain ⟨pre, m⟩ := pm
      simp only [(searchAssign_subAssign setupVersionLit_ok hv hs).1, bne_self_eq_false,
        Bool.false_eq_true, if_false, runScript_bind, runScript_pure, runScript_writeText] at h
      cases h
      exact ⟨text, pre, m, rfl, hs, rfl⟩

theorem runScript_readSetupPyVersion {pre : List Char} {m : AssignMatch}
    (hf : repo path = some text)
    (hs : searchAssign setupVersionLit (textRead text).data = some (pre, m)) :
    runScript (readSetupPyVersion path) repo = (.ok (.str ⟨m.value⟩), repo) := by
  simp [readSetupPyVersion, runScript_bind, runScript_readText, hf, hs, runScript_pure]

theorem runScript_readPlainVersion (hf : repo path = some text) :
    runScript (readPlainVersion path) repo = (.ok (.str (pyStrip (textRead text))), repo) := by
  simp [readPlainVersion, ← bind_pure_comp, runScript_bind, runScript_readText, hf,
    runScript_pure]

theorem writePackageJsonVersion_ok {u : Unit}
    (h : runScript (writePackageJsonVersion libs path v) repo = (.ok u, repo')) :
    ∃ text data data', repo path = some text ∧ libs.jsonLoads (textRead text) = .ok data ∧
      data.setItem "version" (.str v) = .ok data' ∧
      repo' = Function.update repo path (some (libs.jsonDumps data' ++ "\n")) := by
  simp only [writePackageJsonVersion, runScript_bind, runScript_readText] at h
  cases hf : repo path with
  | none => simp [hf] at h
  | some text =>
    simp only [hf, Option.elim, runScript_liftExc] at h
    cases hl : libs.jsonLoads (textRead text) with
    | error e => simp [hl] at h
    | ok data =>
      cases hset : data.setItem "version" (.str v) with
      | error e => simp [hl, hset] at h
      | ok data' =>
        simp only [hl, hset, runScript_writeText] at h
        cases h
        exact ⟨text, data, data', rfl, hl, hset, rfl⟩

theorem runScript_readPackageJsonVersion (hf : repo path = some text) :
    runScript (readPackageJsonVersion libs path) repo =
      (libs.jsonLoads (textRead text) >>= (·.getItem "version"), repo) := by
  simp only [readPackageJsonVersion, runScript_bind, runScript_readText, hf, Option.elim,
    runScript_liftExc]
  cases libs.jsonLoads (textRead text) <;> rfl

end Primary

/-! ## Writing a component's version reads it back -/

/-- What `write_package_json_version` relies on of `json`: a document `json.load` read,
with one key set, is read back from the text `json.dump` writes for it, with the final
newline. -/
def Libraries.JsonReloads (libs : Libraries) : Prop :=
  ∀ text data k x data', libs.jsonLoads text = .ok data → data.setItem k x = .ok data' →
    libs.jsonLoads (textRead (libs.jsonDumps data' ++ "\n")) = .ok data'

theorem writeComponentVersion_ok {libs : Libraries} {component : Component} {v : String}
    {repo repo' : Repo} {changed : List String}
    (h : runScript (writeComponentVersion libs component v) repo = (.ok changed, repo')) :
    ∃ repo₁, runScript (writePrimaryVersion libs component v) repo = (.ok (), repo₁) ∧
      ∃ out, runScript (updateRuntimeFiles v component.runtimeVersionFiles) repo₁ =
        (.ok out, repo') := by
  obtain ⟨u, repo₁, hprim, h⟩ := runScript_bind_ok h
  obtain ⟨out, repo₂, hrt, h⟩ := runScript_bind_ok h
  cases h
  exact ⟨repo₁, hprim, out, hrt⟩

theorem pyStrip_append_newline {v : String} (hv : IsSemverText v) : pyStrip (v ++ "\n") = v := by
  obtain ⟨first, last, hf, hl, hfs, hls⟩ := hv.ends
  show String.mk (stripChars (v.data ++ ['\n'])) = v
  rw [stripChars_append_newline hf hl hfs hls]

/-- The kinds whose primary file reads back what its writer wrote: `setup-py`, `plain`, and
`package-json` when `json.load` reads back what `json.dump` wrote. -/
def ReadsBack (libs : Libraries) (component : Component) : Prop :=
  component.versionKind = "setup-py" ∨ component.versionKind = "plain" ∨
    (component.versionKind = "package-json" ∧ libs.JsonReloads)

/-- Once the primary writer has returned, a repository holding the primary file it wrote
reads the new version. -/
theorem readComponentVersion_after_writePrimary {libs : Libraries} {component : Component}
    {v : String} {repo repo₁ repo' : Repo} (hk : ReadsBack libs component) (hv : IsSemverText v)
    (hprim : runScript (writePrimaryVersion libs component v) repo = (.ok (), repo₁))
    (hf : repo' component.versionFile = repo₁ component.versionFile) :
    runScript (readComponentVersion libs component) repo' = (.ok (.str v), repo') := by
  rcases hk with hk | hk | ⟨hk, hjson⟩
  · simp only [writePrimaryVersion, hk] at hprim
    obtain ⟨text, pre, m, -, hs, rfl⟩ := writeSetupPyVersion_ok hv.isValue hprim
    simp only [readComponentVersion, hk]
    rw [runScript_readSetupPyVersion (by rw [hf, Function.update_same])
      (by rw [textRead_subAssign hv.cr_not_mem hs]
          exact (searchAssign_subAssign setupVersionLit_ok hv.isValue hs).2)]
  · simp only [writePrimaryVersion, hk, writePlainVersion, runScript_writeText] at hprim
    cases hprim
    simp only [readComponentVersion, hk]
    rw [runScript_readPlainVersion (by rw [hf, Function.update_same]),
      textRead_of_cr_not_mem (by simpa using hv.cr_not_mem), pyStrip_append_newline hv]
  · simp only [writePrimaryVersion, hk] at hprim
    obtain ⟨text, data, data', -, hl, hset, rfl⟩ := writePackageJsonVersion_ok hprim
    simp only [readComponentVersion, hk]
    rw [runScript_readPackageJsonVersion (by rw [hf, Function.update_same]),
      hjson (textRead text) data _ _ data' hl hset]
    exact congrArg (·, _) (PyVal.getItem_of_setItem hset)

/-- After `write_component_version` has returned, every runtime file reads back the new
version, and so does the primary file of a `setup-py` or `plain` component, or of a
`package-json` component when `json.load` reads back what `json.dump` wrote, provided the
primary file is not also a runtime file. -/
theorem writeComponentVersion_reads_back (libs : Libraries) (component : Component)
    (v : String) (repo repo' : Repo) (changed : List String) (hv : IsSemverText v)
    (hwrite : runScript (writeComponentVersion libs component v) repo = (.ok changed, repo')) :
    (∀ f ∈ component.runtimeVersionFiles,
      runScript (readRuntimeFileVersion f) repo' = (.ok v, repo')) ∧
    (component.versionFile ∉ component.runtimeVersionFiles →
      component.versionKind = "setup-py" ∨ component.versionKind = "plain" ∨
        (component.versionKind = "package-json" ∧ libs.JsonReloads) →
      runScript (readComponentVersion libs component) repo' = (.ok (.str v), repo')) := by
  obtain ⟨repo₁, hprim, out, hrt⟩ := writeComponentVersion_ok hwrite
  obtain ⟨hreads, hframe⟩ := updateRuntimeFiles_reads hv.isValue hv.cr_not_mem hrt
  exact ⟨fun f hf => runScript_readRuntimeFileVersion (hreads f hf), fun hnot hkind =>
    readComponentVersion_after_writePrimary hkind hv hprim (hframe _ hnot)⟩

/-- No library call succeeds: enough for the kinds that do not parse their file. -/
def noLibraries : Libraries :=
  ⟨fun _ => .error ⟨.other, "tomllib"⟩, fun _ => .error ⟨.other, "json"⟩, fun _ => ""⟩

/-- A `setup-py` component mirrored in its package's `__init__.py`. -/
def setupComponent : Component :=
  ⟨"pkg", none, none, "setup.py", "setup-py", ["pkg/__init__.py"]⟩

def setupRepo : Repo
  | "setup.py" => some "setup(name=\"pkg\", version=\"1.0.0\")\n"
  | "pkg/__init__.py" => some "__version__ = \"1.0.0\"\n"
  | _ => none

theorem writeComponentVersion_reads_back_sample :
    let run := runScript (writeComponentVersion noLibraries setupComponent "1.1.0") setupRepo
    IsSemverText "1.1.0" ∧ run = (.ok ["setup.py", "pkg/__init__.py"], run.2) ∧
    ((∀ f ∈ setupComponent.runtimeVersionFiles,
      runScript (readRuntimeFileVersion f) run.2 = (.ok "1.1.0", run.2)) ∧
    (setupComponent.versionFile ∉ setupComponent.runtimeVersionFiles →
      setupComponent.versionKind = "setup-py" ∨ setupComponent.versionKind = "plain" ∨
        (setupComponent.versionKind = "package-json" ∧ noLibraries.JsonReloads) →
      runScript (readComponentVersion noLibraries setupComponent) run.2 = (.ok (.str "1.1.0"), run.2))) :=
  have hv : IsSemverText "1.1.0" := ⟨['1'], ['1'], ['0'], by simp, by simp, by simp, by decide, rfl⟩
  have hrun : runScript (writeComponentVersion noLibraries setupComponent "1.1.0") setupRepo =
      (.ok ["setup.py", "pkg/__init__.py"], _) := Prod.ext rfl rfl
  ⟨hv, hrun, writeComponentVersion_reads_back noLibraries setupComponent "1.1.0" setupRepo _ _ hv hrun⟩

/-- A `setup.py` that is also its own runtime version file, with a comment that opens a
`__version__` assignment: the runtime rewrite's value group runs on to the quote that
opens `version="..."`, and takes the setup assignment with it. -/
def selfMirroringSetup : Component :=
  ⟨"pkg", none, none, "setup.py", "setup-py", ["setup.py"]⟩

def selfMirroringRepo : Repo
  | "setup.py" => some "# __version__ = \"\nsetup(version=\"1.0.0\")\n"
  | _ => none

/-- A `pyproject.toml` whose `[project]` table has a multi-line `description`, one of whose
lines reads `version = "..."`, before the table's own `version` key. -/
def describedPyproject (described : String) : String :=
  "[project]\ndescription = \"\"\"\nversion = \"" ++ described ++
    "\"\n\"\"\"\nversion = \"1.0.0\"\n"

/-- What `tomllib.loads` reads from `describedPyproject described`: the newline after the
opening delimiter is dropped, and the table's version is `1.0.0`. -/
def describedDoc (described : String) : PyVal :=
  .dict [("project", .dict [("description", .str ("version = \"" ++ described ++ "\"\n")),
    ("version", .str "1.0.0")])]

def pyprojectComponent : Component :=
  ⟨"pkg", none, none, "pyproject.toml", "pyproject", []⟩

def describedRepo : Repo
  | "pyproject.toml" => some (describedPyproject "0.1.0")
  | _ => none

/-- The `pyproject` writer is line-based: it rewrites the first `version = "..."` line after
`[project]`, here a line of the description. With any `tomllib.loads` that reads the file
before and after as TOML does, the write of `1.1.0` returns, and `[project].version` still
reads `1.0.0`. -/
theorem writePyprojectVersion_rewrites_description (libs : Libraries)
    (hbefore : libs.tomlLoads (describedPyproject "0.1.0") = .ok (describedDoc "0.1.0"))
    (hafter : libs.tomlLoads (describedPyproject "1.1.0") = .ok (describedDoc "1.1.0")) :
    let run := runScript (writeComponentVersion libs pyprojectComponent "1.1.0") describedRepo
    (runScript (readComponentVersion libs pyprojectComponent) describedRepo).1 =
      .ok (.str "1.0.0") ∧
    run.1 = .ok ["pyproject.toml"] ∧ run.2 "pyproject.toml" = some (describedPyproject "1.1.0") ∧
    (runScript (readComponentVersion libs pyprojectComponent) run.2).1 = .ok (.str "1.0.0") := by
  have hwritten : (runScript (writeComponentVersion libs pyprojectComponent "1.1.0")
      describedRepo).2 "pyproject.toml" = some (describedPyproject "1.1.0") := rfl
  have htext : ∀ d ∈ ["0.1.0", "1.1.0"], textRead (describedPyproject d) = describedPyproject d :=
    by decide
  refine ⟨?_, rfl, hwritten, ?_⟩
  · rw [show readComponentVersion libs pyprojectComponent =
      readPyprojectVersion libs "pyproject.toml" from rfl,
      runScript_readPyprojectVersion (show describedRepo "pyproject.toml" = _ from rfl),
      htext _ (by simp), hbefore]
    rfl
  · rw [show readComponentVersion libs pyprojectComponent =
      readPyprojectVersion libs "pyproject.toml" from rfl, runScript_readPyprojectVersion hwritten,
      htext _ (by simp), hafter]
    rfl

/-- The reading of `tomllib.loads` on the two documents. -/
def describedLibraries : Libraries :=
  ⟨fun text => if text = describedPyproject "0.1.0" then .ok (describedDoc "0.1.0")
    else if text = describedPyproject "1.1.0" then .ok (describedDoc "1.1.0")
    else .error ⟨.valueError, "not modelled"⟩, noLibraries.jsonLoads, noLibraries.jsonDumps⟩

/-- The read back fails for two kinds. A `setup.py` listed as its own runtime file loses its
`version=` assignment to the runtime rewrite; a `pyproject.toml` with a `version = "..."` line
in its description keeps its `[project].version`. -/
theorem writeComponentVersion_not_read_back :
    let run := runScript (writeComponentVersion noLibraries selfMirroringSetup "1.1.0")
      selfMirroringRepo
    let described := runScript (writeComponentVersion describedLibraries pyprojectComponent
      "1.1.0") describedRepo
    (runScript (readComponentVersion noLibraries selfMirroringSetup) selfMirroringRepo).1 =
      .ok (.str "1.0.0") ∧
    run.1 = .ok ["setup.py", "setup.py"] ∧
    run.2 "setup.py" = some "# __version__ = \"1.1.0\"1.1.0\")\n" ∧
    (runScript (readComponentVersion noLibraries selfMirroringSetup) run.2).1 =
      .error ⟨.valueError, "Could not find version= in setup.py"⟩ ∧
    (runScript (readComponentVersion describedLibraries pyprojectComponent) describedRepo).1 =
      .ok (.str "1.0.0") ∧
    described.1 = .ok ["pyproject.toml"] ∧
    described.2 "pyproject.toml" = some (describedPyproject "1.1.0") ∧
    (runScript (readComponentVersion describedLibraries pyprojectComponent) described.2).1 =
      .ok (.str "1.0.0") :=
  ⟨rfl, rfl, rfl, rfl, writePyprojectVersion_rewrites_description describedLibraries rfl rfl⟩

end Tentacle.Release
