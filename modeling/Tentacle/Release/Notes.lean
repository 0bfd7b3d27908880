import Tentacle.Release.Changelog
import Tentacle.Release.Manifest

/-!
# The `.changes` notes and `finalize_release.py`

A pending release note is a YAML file of the `.changes` directory. Two scripts go through the
notes that `sorted(notes_dir.glob("*.y*ml"))` lists, skipping names that start with `_`.
`compute_bumps_from_changes.py` parses each one strictly (`load_notes`, `parse_note`), plans
the bumps and writes the plan to `--output`. `finalize_release.py` summarizes each mapping
leniently for the changelog (`load_pending_note_summaries`), puts the changelog entry on top of
the changelog, moves every note into the release's archive (`archive_notes`) and writes the
release plan. The directory is the list `dirFiles` of its paths; the glob's pattern on a file
name is a parameter.

`main` of `finalize_release.py` is cut where it writes the changelog: `pendingRelease` finds the
release id, the notes and the entry, and only reads; `recordRelease` archives the notes and
writes the release plan, and can still raise (`relative_to` of an `--archive-root` outside the
repository).

* `loadPendingNoteSummaries_of_loadNotes` — when `load_notes` accepts the notes, the changelog
  summarizes exactly those notes, with the component, bump and summary it parsed.
* `archiveNotes_moves` — `archive_notes` loses no note: each one it does not skip lands
  under its name in the archive with its bytes.
* `finalizeRelease_changelog_runs` — over any sequence of runs, the changelog holds the entry
  of each run that got as far as writing it, newest first, above what it held before; what a
  run does after the write never touches it, whether it raises or not.
* `finalizeRelease_archives_notes` — the notes a run that returns archives are the pending
  ones, each with the text it had before the run.
* `finalizeRelease_consumes_notes` — after a run that returns, a
  `compute_bumps_from_changes.py` run finds no note, plans nothing and writes an empty plan.
-/

namespace Tentacle.Release

/-! ## The notes directory -/

/-- `path.name.startswith("_")`: a file both note loops skip. -/
def skipped (path : String) : Bool :=
  "_".data.isPrefixOf (fileName path).data

/-- `sorted(notes_dir.glob(...))`: the paths of the directory that exist and whose name the
pattern matches, each once, sorted. -/
def globNotes (glob : String → Bool) (dirFiles : List String) (repo : Repo) : List String :=
  sortedNames (dirFiles.dedup.filter fun p => (repo p).isSome && glob (fileName p))

theorem mem_globNotes {glob : String → Bool} {dirFiles : List String} {repo : Repo} {p : String} :
    p ∈ globNotes glob dirFiles repo ↔ p ∈ dirFiles ∧ (repo p).isSome ∧ glob (fileName p) := by
  rw [globNotes, sortedNames, List.mem_insertionSort, List.mem_filter, List.mem_dedup,
    Bool.and_eq_true]

/-- A listing that holds each path once, in order, of files that exist and match, is what the
glob gives. -/
theorem globNotes_of_sorted {glob : String → Bool} {dirFiles : List String} {repo : Repo}
    (hnd : dirFiles.Nodup) (hsorted : dirFiles.Pairwise fun a b => a.data ≤ b.data)
    (hall : ∀ p ∈ dirFiles, (repo p).isSome ∧ glob (fileName p)) :
    globNotes glob dirFiles repo = dirFiles := by
  rw [globNotes, hnd.dedup, List.filter_eq_self.2 fun p hp => by simp [hall p hp]]
  exact List.Sorted.insertionSort_eq (hsorted.imp String.le_iff_toList_le.2)

/-! ## `compute_bumps_from_changes.py`: `parse_note` and `load_notes` -/

/-- `parse_note` on what `yaml.safe_load` gave for a note file: a mapping that has the three
fields, whose bump `ensure_valid_bump` accepts and whose summary is not blank; each field is
read with `str(...).strip()`. -/
def parseNote (note : PyVal) : Except PyExc (String × Bump × String) :=
  match note with
  | .dict entries =>
    match ["component", "bump", "summary"].find? fun field => !entries.any (·.1 == field) with
    | some field => .error ⟨.valueError, s!"missing required field: {field}"⟩
    | none => do
      let component := pyStrip (pyStr (← (PyVal.dict entries).getItem "component"))
      let bump ← ensureValidBump (pyStrip (pyStr (← (PyVal.dict entries).getItem "bump")))
      let summary := pyStrip (pyStr (← (PyVal.dict entries).getItem "summary"))
      if summary.isEmpty then .error ⟨.valueError, "summary cannot be empty"⟩
      else .ok (component, bump, summary)
  | _ => .error ⟨.valueError, "note must be a YAML object"⟩

/-- `load_notes` over the files the glob listed: each note must parse, and keeps its path. -/
def loadNotes (yaml : YamlLib) : List String → ScriptM (List ChangeNote)
  | [] => pure []
  | path :: paths =>
    if skipped path then loadNotes yaml paths
    else do
      let note ← liftExc (yaml.safeLoad (← readText path))
      let (component, bump, summary) ← liftExc (parseNote note)
      let notes ← loadNotes yaml paths
      pure (⟨component, bump, summary, path⟩ :: notes)

/-- `main` of `compute_bumps_from_changes.py` from the notes on: the notes of the directory,
the plan, and the plan's JSON written to `--output`, the run without notes included.
`generatedAt` is the clock's time and `changesDir` is `str(Path(args.changes_dir))`. -/
def computeBumpsFromNotes (libs : Libraries) (yaml : YamlLib) (glob : String → Bool)
    (dirFiles : List String) (components : List Component)
    (changedFilter : Option (List String)) (output changesDir generatedAt : String) :
    ScriptM (List PlanEntry) := do
  let notes ← loadNotes yaml (globNotes glob dirFiles (← get))
  let entries ← computeBumpsFromChanges libs components changedFilter notes
  let noteRows ← liftExc (notes.mapM (noteJson components))
  dumpJson libs output (changesPlanJson generatedAt changesDir
    (entries.map (·.toJson (noteReasons components changedFilter notes))) noteRows)
  pure entries

/-! ## `finalize_release.py` -/

/-- The summary `load_pending_note_summaries` makes of a note file's data: each field is
`str(data.get(field, "")).strip()`; data that is not a mapping is skipped. -/
def noteSummary (name : String) : PyVal → Option NoteSummary
  | .dict entries =>
    let field := fun key => pyStrip (pyStr (((entries.find? (·.1 == key)).map (·.2)).getD (.str "")))
    some ⟨name, field "component", field "bump", field "summary"⟩
  | _ => none

/-- `load_pending_note_summaries` over the files the glob listed. -/
def loadPendingNoteSummaries (yaml : YamlLib) : List String → ScriptM (List NoteSummary)
  | [] => pure []
  | path :: paths =>
    if skipped path then loadPendingNoteSummaries yaml paths
    else do
      let data ← liftExc (yaml.safeLoad (← readText path))
      let notes ← loadPendingNoteSummaries yaml paths
      pure ((noteSummary (fileName path) data).toList ++ notes)

/-- `shutil.move(src, dest)` on a file: a rename, so `dest` gets the bytes of `src` and `src`
is removed; a move onto itself changes nothing. A missing `src` fails the rename and then the
copy `shutil.move` falls back to, which raises `FileNotFoundError` on `src`. -/
def moveFile (src dest : String) : ScriptM Unit := do
  let repo ← get
  match repo src with
  | none => throw (fileNotFound src)
  | some text =>
    if src = dest then pure ()
    else set (Function.update (Function.update repo dest (some text)) src none)

/-- `archive_notes` over the files the glob listed: each note is moved into `archiveDir`
under its name, and the destinations are returned. -/
def archiveNotes (archiveDir : String) : List String → ScriptM (List String)
  | [] => pure []
  | path :: paths =>
    if skipped path then archiveNotes archiveDir paths
    else do
      let dest := archiveDir ++ "/" ++ fileName path
      moveFile path dest
      let archived ← archiveNotes archiveDir paths
      pure (dest :: archived)

/-- A note summary as the release plan lists it. -/
def NoteSummary.toPyVal (note : NoteSummary) : PyVal :=
  .dict [("file", .str note.file), ("component", .str note.component),
    ("bump", .str note.bump), ("summary", .str note.summary)]

/-- The command line of `finalize_release.py` as `main` uses it after loading the plan and the
manifest: `--manifest`, `--changelog`, `--archive-root` and `--release-plan-output` as given,
the repository root the script finds from its own path, and the clock's two readings. A
relative argument names the file of the repository at that path; an absolute one is its own
path. -/
structure FinalizeArgs where
  manifest : String
  changelog : String
  archiveRoot : String
  releasePlanOutput : String
  repoRoot : String
  generatedAt : String
  releaseDate : String

/-- `Path.relative_to(repo_root)` on `repo_root / arg`: a relative argument comes back as it
is; an absolute one must lie under the root, or `relative_to` raises `ValueError` (its `repr`
quoting written as plain single quotes). -/
def relativeToRoot (repoRoot path : String) : Except PyExc String :=
  if "/".data.isPrefixOf path.data then
    if (repoRoot ++ "/").data.isPrefixOf path.data then
      .ok ⟨path.data.drop (repoRoot ++ "/").length⟩
    else .error ⟨.valueError, s!"'{path}' is not in the subpath of '{repoRoot}'"⟩
  else .ok path

/-- What `main` has found when it writes the changelog. -/
structure PendingRelease where
  platformRelease : String
  notes : List NoteSummary
  entry : String

/-- `main` up to the changelog write: the release id from the manifest, the pending notes, and
the changelog entry from `plan.get("components", [])`. It only reads. -/
def pendingRelease (yaml : YamlLib) (glob : String → Bool) (dirFiles : List String)
    (releaseDate : String) (plan manifest : PyVal) : ScriptM PendingRelease := do
  let platformRelease ← liftExc (releaseId manifest)
  let notes ← loadPendingNoteSummaries yaml (globNotes glob dirFiles (← get))
  let planComponents ← liftExc (plan.get "components" (.list []))
  let entry ← liftExc (buildChangelogEntry platformRelease releaseDate planComponents notes)
  pure ⟨platformRelease, notes, entry⟩

/-- The release plan `finalize_release.py` writes. -/
def releasePlanJson (args : FinalizeArgs) (release : PendingRelease)
    (gitSha planComponents : PyVal) (archivedNotes : List String) : PyVal :=
  .dict [("generated_at", .str args.generatedAt), ("platform_release", .str release.platformRelease),
    ("git_sha", gitSha), ("manifest", .str args.manifest), ("components", planComponents),
    ("notes", .list (release.notes.map NoteSummary.toPyVal)),
    ("archived_notes", .list (archivedNotes.map .str)), ("changelog", .str args.changelog)]

/-- `main` after the changelog write: the notes move to `archive_root/<release>`, the release
plan is written, and the closing message takes `archive_dir.relative_to(repo_root)`. -/
def recordRelease (libs : Libraries) (glob : String → Bool) (dirFiles : List String)
    (args : FinalizeArgs) (plan manifest : PyVal) (release : PendingRelease) :
    ScriptM (List String) := do
  let archiveDir := args.archiveRoot ++ "/" ++ release.platformRelease
  let archived ← archiveNotes archiveDir (globNotes glob dirFiles (← get))
  let gitSha ← liftExc (manifest.get "git_sha" .none)
  let planComponents ← liftExc (plan.get "components" (.list []))
  let archivedNotes ← liftExc (archived.mapM (relativeToRoot args.repoRoot))
  dumpJson libs args.releasePlanOutput
    (releasePlanJson args release gitSha planComponents archivedNotes)
  let _ ← liftExc (relativeToRoot args.repoRoot archiveDir)
  pure archived

/-- `main` of `finalize_release.py` from the loaded plan and manifest on. The archived notes
are returned. -/
def finalizeRelease (libs : Libraries) (yaml : YamlLib) (glob : String → Bool)
    (dirFiles : List String) (args : FinalizeArgs) (plan manifest : PyVal) :
    ScriptM (List String) := do
  let release ← pendingRelease yaml glob dirFiles args.releaseDate plan manifest
  prependChangelogEntry args.changelog release.entry
  recordRelease libs glob dirFiles args plan manifest release

/-- One run of a sequence of `finalize_release.py` runs: its command line, and the plan and
manifest it loaded. -/
structure FinalizeRun where
  args : FinalizeArgs
  plan : PyVal
  manifest : PyVal

/-- The repository after a run, whether it returned or raised. -/
def FinalizeRun.after (libs : Libraries) (yaml : YamlLib) (glob : String → Bool)
    (dirFiles : List String) (run : FinalizeRun) (repo : Repo) : Repo :=
  (runScript (finalizeRelease libs yaml glob dirFiles run.args run.plan run.manifest) repo).2

/-! ## The two loaders agree -/

theorem ensureValidBump_ok_name {s : String} {b : Bump} (h : ensureValidBump s = .ok b) :
    b.name = s := by
  unfold ensureValidBump at h
  split_ifs at h with h₁ h₂ h₃ <;> cases h <;> simp [Bump.name, *]

theorem getD_find?_of_getItem {es : List (String × PyVal)} {k : String} {v d : PyVal}
    (h : (PyVal.dict es).getItem k = .ok v) : ((es.find? (·.1 == k)).map (·.2)).getD d = v := by
  simp only [PyVal.getItem] at h
  split at h
  · next w hw =>
    cases h
    simp [hw]
  · cases h

/-- A note `parse_note` accepts is summarized with the fields it parsed. -/
theorem noteSummary_of_parseNote {note : PyVal} {component summary : String} {bump : Bump}
    (h : parseNote note = .ok (component, bump, summary)) (name : String) :
    noteSummary name note = some ⟨name, component, bump.name, summary⟩ := by
  cases note
  case dict entries =>
    simp only [parseNote] at h
    split at h
    · cases h
    · obtain ⟨vc, hc, h⟩ := bind_eq_ok h
      obtain ⟨vb, hb, h⟩ := bind_eq_ok h
      obtain ⟨b, hbump, h⟩ := bind_eq_ok h
      obtain ⟨vs, hs, h⟩ := bind_eq_ok h
      split at h
      · cases h
      · cases h
        simp only [noteSummary, getD_find?_of_getItem hc, getD_find?_of_getItem hb,
          getD_find?_of_getItem hs, ensureValidBump_ok_name hbump]
  all_goals cases h

/-- **The two loaders agree**: when `compute_bumps_from_changes.py` accepts the pending notes,
`finalize_release.py` summarizes exactly those notes, in order, with the component, bump and
summary `parse_note` read, under the note's file name. -/
theorem loadPendingNoteSummaries_of_loadNotes (yaml : YamlLib) (paths : List String)
    (repo repo' : Repo) (notes : List ChangeNote)
    (h : runScript (loadNotes yaml paths) repo = (.ok notes, repo')) :
    runScript (loadPendingNoteSummaries yaml paths) repo = (.ok (notes.map fun note =>
      ⟨fileName note.file, note.component, note.bump.name, note.summary⟩), repo) := by
  induction paths generalizing notes repo' with
  | nil =>
    simp only [loadNotes, runScript_pure, Prod.mk.injEq, Except.ok.injEq] at h
    obtain ⟨rfl, -⟩ := h
    rfl
  | cons path paths ih =>
    by_cases hs : skipped path
    · simp only [loadNotes, hs, if_true] at h
      simp only [loadPendingNoteSummaries, hs, if_true]
      exact ih _ _ h
    · simp only [loadNotes, hs, Bool.false_eq_true, if_false] at h
      obtain ⟨text, r₁, hread, h₁⟩ := runScript_bind_ok h
      obtain rfl := (readOnly_readText path).eq_of_ok hread
      obtain ⟨note, r₂, hload, h₂⟩ := runScript_bind_ok h₁
      obtain ⟨hyaml, rfl⟩ := runScript_liftExc_ok hload
      obtain ⟨⟨c, b, s⟩, r₃, hparse, h₃⟩ := runScript_bind_ok h₂
      obtain ⟨hnote, rfl⟩ := runScript_liftExc_ok hparse
      obtain ⟨rest, r₄, hrest, h₄⟩ := runScript_bind_ok h₃
      rw [runScript_pure, Prod.mk.injEq, Except.ok.injEq] at h₄
      obtain ⟨rfl, -⟩ := h₄
      simp only [loadPendingNoteSummaries, hs, Bool.false_eq_true, if_false, runScript_bind,
        hread, runScript_liftExc, hyaml, ih _ _ hrest, runScript_pure,
        noteSummary_of_parseNote hnote, Option.toList_some, List.singleton_append,
        List.map_cons]

/-- The text of a note file, as the YAML stand-in dumps its mapping. -/
def noteText (component bump summary : String) : String :=
  textYaml.safeDump (.dict [("component", .str component), ("bump", .str bump),
    ("summary", .str summary)])

/-- A notes directory with a template and two notes. -/
def notesRepo : Repo
  | "notes/_template.yaml" => some (noteText "<component>" "<bump>" "<summary>")
  | "notes/add-tasks.yaml" => some (noteText "api" "minor" "Add the tasks endpoint")
  | "notes/fix-login.yaml" => some (noteText "web" "patch" " Reject empty names ")
  | _ => none

/-- The notes directory's files, in sorted order. -/
def noteFiles : List String :=
  ["notes/_template.yaml", "notes/add-tasks.yaml", "notes/fix-login.yaml"]

set_option maxRecDepth 8000 in
theorem loadPendingNoteSummaries_of_loadNotes_sample :
    runScript (loadNotes textYaml noteFiles) notesRepo =
      (.ok [⟨"api", .minor, "Add the tasks endpoint", "notes/add-tasks.yaml"⟩,
        ⟨"web", .patch, "Reject empty names", "notes/fix-login.yaml"⟩], notesRepo) ∧
    runScript (loadPendingNoteSummaries textYaml noteFiles) notesRepo =
      (.ok [⟨"add-tasks.yaml", "api", "minor", "Add the tasks endpoint"⟩,
        ⟨"fix-login.yaml", "web", "patch", "Reject empty names"⟩], notesRepo) :=
  have h : runScript (loadNotes textYaml noteFiles) notesRepo =
      (.ok [⟨"api", .minor, "Add the tasks endpoint", "notes/add-tasks.yaml"⟩,
        ⟨"web", .patch, "Reject empty names", "notes/fix-login.yaml"⟩], notesRepo) :=
    Prod.ext rfl rfl
  ⟨h, loadPendingNoteSummaries_of_loadNotes _ _ _ _ _ h⟩

/-! ## The steps of `finalize_release.py` -/

theorem runScript_moveFile (src dest : String) (repo : Repo) :
    runScript (moveFile src dest) repo = match repo src with
      | none => (.error (fileNotFound src), repo)
      | some text => (.ok (), if src = dest then repo
          else Function.update (Function.update repo dest (some text)) src none) := by
  unfold moveFile
  rw [runScript_get_bind]
  cases repo src with
  | none => rfl
  | some text => by_cases h : src = dest <;> simp only [h, if_true, if_false] <;> rfl

theorem runScript_moveFile_ok {src dest : String} {repo repo' : Repo} (hne : src ≠ dest)
    (h : runScript (moveFile src dest) repo = (.ok (), repo')) :
    ∃ text, repo src = some text ∧
      repo' = Function.update (Function.update repo dest (some text)) src none := by
  rw [runScript_moveFile] at h
  cases hs : repo src with
  | none => simp [hs] at h
  | some text =>
    simp only [hs, if_neg hne, Prod.mk.injEq, true_and] at h
    exact ⟨text, rfl, h.symm⟩

theorem moveFile_writesWithin (src dest : String) :
    WritesWithin [src, dest] (moveFile src dest) := by
  intro repo p hp
  simp only [List.mem_cons, List.mem_singleton, not_or, List.not_mem_nil] at hp
  rw [runScript_moveFile]
  cases repo src with
  | none => rfl
  | some text =>
    dsimp only
    split_ifs
    · rfl
    · rw [Function.update_noteq hp.1, Function.update_noteq hp.2.1]

theorem loadPendingNoteSummaries_readOnly (yaml : YamlLib) :
    ∀ paths, ReadOnly (loadPendingNoteSummaries yaml paths)
  | [] => readOnly_pure _
  | path :: paths => by
    unfold loadPendingNoteSummaries
    split
    · exact loadPendingNoteSummaries_readOnly yaml paths
    · exact (readOnly_readText _).bind fun _ => (readOnly_liftExc _).bind fun _ =>
        (loadPendingNoteSummaries_readOnly yaml paths).bind fun _ => readOnly_pure _

/-! ## `archive_notes` -/

section Archive

variable {archiveDir : String}

/-- Outside the archive, `archive_notes` removes the notes it moved and changes nothing
else. -/
theorem archiveNotes_frame :
    ∀ {paths : List String} {repo repo' : Repo} {archived : List String},
      (∀ p ∈ paths, ∀ rest, p ≠ archiveDir ++ "/" ++ rest) →
      runScript (archiveNotes archiveDir paths) repo = (.ok archived, repo') →
      ∀ q, (∀ rest, q ≠ archiveDir ++ "/" ++ rest) →
        repo' q = if q ∈ paths ∧ skipped q = false then none else repo q
  | [], repo, repo', archived, _, h, q, _ => by
    cases h
    simp
  | p :: paths, repo, repo', archived, hout, h, q, hq => by
    have hout' := fun p' hp' => hout p' (List.mem_cons_of_mem _ hp')
    by_cases hs : skipped p
    · simp only [archiveNotes, hs, if_true] at h
      rw [archiveNotes_frame hout' h q hq]
      by_cases hqp : q = p
      · subst hqp
        simp [hs]
      · simp [hqp]
    · simp only [archiveNotes, hs, Bool.false_eq_true, if_false] at h
      obtain ⟨u, r₁, hmove, h₁⟩ := runScript_bind_ok h
      obtain ⟨archived', r₂, hrest, h₂⟩ := runScript_bind_ok h₁
      cases h₂
      obtain ⟨text, -, rfl⟩ := runScript_moveFile_ok (hout p (List.mem_cons_self _ _) _) hmove
      rw [archiveNotes_frame hout' hrest q hq, Function.update_apply, Function.update_apply,
        if_neg (hq _)]
      by_cases hqp : q = p
      · subst hqp
        simp [hs]
      · simp [hqp]

theorem append_left_cancel_text {s t u : String} (h : s ++ t = s ++ u) : t = u := by
  have := congrArg String.data h
  simp only [String.data_append, List.append_cancel_left_eq] at this
  exact String.ext this

/-- `archive_notes` writes only the notes it moves and their destinations. -/
theorem archiveNotes_writesWithin : ∀ paths : List String,
    WritesWithin (paths ++ paths.map (archiveDir ++ "/" ++ fileName ·))
      (archiveNotes archiveDir paths)
  | [] => (readOnly_pure _).writesWithin
  | path :: paths => by
    have ih : WritesWithin ((path :: paths) ++ (path :: paths).map (archiveDir ++ "/" ++ fileName ·))
        (archiveNotes archiveDir paths) := (archiveNotes_writesWithin paths).mono fun x hx => by
      simp only [List.mem_append, List.mem_map, List.map_cons, List.cons_append,
        List.mem_cons] at hx ⊢
      tauto
    unfold archiveNotes
    split
    · exact ih
    · refine ((moveFile_writesWithin _ _).mono fun x hx => ?_).bind fun _ =>
        ih.bind fun _ => (readOnly_pure _).writesWithin
      simp only [List.mem_cons, List.mem_singleton, List.not_mem_nil, or_false] at hx
      rcases hx with rfl | rfl <;> simp

/-- **`archive_notes` loses no note**: when the notes lie outside the archive and have
distinct file names, a run that returns lists the destination of each note it does not skip,
in order, and each destination holds the bytes its note had. -/
theorem archiveNotes_moves :
    ∀ {paths : List String} {repo repo' : Repo} {archived : List String}, paths.Nodup →
      (∀ p ∈ paths, ∀ q ∈ paths, fileName p = fileName q → p = q) →
      (∀ p ∈ paths, ∀ rest, p ≠ archiveDir ++ "/" ++ rest) →
      runScript (archiveNotes archiveDir paths) repo = (.ok archived, repo') →
      archived = (paths.filter fun p => !skipped p).map (archiveDir ++ "/" ++ fileName ·) ∧
        ∀ p ∈ paths, skipped p = false → repo' (archiveDir ++ "/" ++ fileName p) = repo p
  | [], repo, repo', archived, _, _, _, h => by
    cases h
    exact ⟨rfl, fun _ hp => absurd hp (List.not_mem_nil _)⟩
  | p :: paths, repo, repo', archived, hnd, hnames, hout, h => by
    obtain ⟨hp, hnd⟩ := List.nodup_cons.1 hnd
    have hnames' := fun a ha b hb => hnames a (List.mem_cons_of_mem p ha) b (List.mem_cons_of_mem p hb)
    have hout' := fun a ha => hout a (List.mem_cons_of_mem p ha)
    by_cases hs : skipped p
    · simp only [archiveNotes, hs, if_true] at h
      obtain ⟨rfl, hmoved⟩ := archiveNotes_moves hnd hnames' hout' h
      refine ⟨by simp [hs], fun q hq hqs => ?_⟩
      rcases List.mem_cons.1 hq with rfl | hq
      · simp [hs] at hqs
      · exact hmoved q hq hqs
    · simp only [archiveNotes, hs, Bool.false_eq_true, if_false] at h
      obtain ⟨u, r₁, hmove, h₁⟩ := runScript_bind_ok h
      obtain ⟨archived', r₂, hrest, h₂⟩ := runScript_bind_ok h₁
      cases h₂
      obtain ⟨text, htext, hr₁⟩ := runScript_moveFile_ok (hout p (List.mem_cons_self _ _) _) hmove
      obtain ⟨rfl, hmoved⟩ := archiveNotes_moves hnd hnames' hout' hrest
      refine ⟨by simp [hs], fun q hq hqs => ?_⟩
      rcases List.mem_cons.1 hq with rfl | hq
      · -- The rest of the loop writes neither this destination nor this note.
        have hframe := archiveNotes_writesWithin paths r₁ (archiveDir ++ "/" ++ fileName q) (by
          simp only [List.mem_append, List.mem_map, not_or, not_exists, not_and]
          exact ⟨fun hq' => hout' _ hq' _ rfl, fun a ha hdest => hp (hnames _
            (List.mem_cons_of_mem _ ha) _ (List.mem_cons_self _ _)
            (append_left_cancel_text hdest) ▸ ha)⟩)
        rw [hrest] at hframe
        dsimp only at hframe
        rw [hframe, hr₁, Function.update_noteq (hout q (List.mem_cons_self _ _) _).symm,
          Function.update_same, htext]
      · have hqp : q ≠ p := fun h => hp (h ▸ hq)
        rw [hmoved q hq hqs, hr₁, Function.update_noteq hqp, Function.update_noteq (hout' q hq _)]

end Archive

/-- `load_notes` on files it all skips finds nothing. -/
theorem runScript_loadNotes_skipped (yaml : YamlLib) (repo : Repo) :
    ∀ {paths : List String}, (∀ p ∈ paths, skipped p = true) →
      runScript (loadNotes yaml paths) repo = (.ok [], repo)
  | [], _ => rfl
  | p :: paths, h => by
    rw [loadNotes, if_pos (h p (List.mem_cons_self _ _))]
    exact runScript_loadNotes_skipped yaml repo fun q hq => h q (List.mem_cons_of_mem _ hq)

theorem nodup_globNotes {glob : String → Bool} {dirFiles : List String} {repo : Repo} :
    (globNotes glob dirFiles repo).Nodup :=
  (List.perm_insertionSort _ _).nodup_iff.2 ((List.nodup_dedup _).filter _)

/-- The glob reads the repository only at the directory's paths. -/
theorem globNotes_congr {glob : String → Bool} {dirFiles : List String} {repo repo' : Repo}
    (h : ∀ p ∈ dirFiles, repo p = repo' p) :
    globNotes glob dirFiles repo = globNotes glob dirFiles repo' := by
  unfold globNotes
  congr 1
  exact List.filter_congr fun p hp => by rw [h p (List.mem_dedup.1 hp)]

/-- A path outside a directory is outside each of its subdirectories. -/
theorem ne_subdir_of_ne_dir {p dir sub : String} (h : ∀ rest, p ≠ dir ++ "/" ++ rest) :
    ∀ rest, p ≠ dir ++ "/" ++ sub ++ "/" ++ rest :=
  fun rest => by simpa only [String.append_assoc] using h (sub ++ "/" ++ rest)

section Finalize

variable {libs : Libraries} {yaml : YamlLib} {glob : String → Bool} {dirFiles : List String}
  {args : FinalizeArgs} {plan manifest : PyVal}

theorem pendingRelease_readOnly (releaseDate : String) :
    ReadOnly (pendingRelease yaml glob dirFiles releaseDate plan manifest) :=
  (readOnly_liftExc _).bind fun _ => ReadOnly.get_bind fun _ =>
    (loadPendingNoteSummaries_readOnly yaml _).bind fun _ => (readOnly_liftExc _).bind fun _ =>
      (readOnly_liftExc _).bind fun _ => readOnly_pure _

/-- What a run that gets as far as the changelog has found. -/
theorem pendingRelease_ok {releaseDate : String} {repo repo' : Repo} {release : PendingRelease}
    (h : runScript (pendingRelease yaml glob dirFiles releaseDate plan manifest) repo =
      (.ok release, repo')) :
    repo' = repo ∧ releaseId manifest = .ok release.platformRelease ∧
      runScript (loadPendingNoteSummaries yaml (globNotes glob dirFiles repo)) repo =
        (.ok release.notes, repo) ∧
      ∃ planComponents, plan.get "components" (.list []) = .ok planComponents ∧
        buildChangelogEntry release.platformRelease releaseDate planComponents release.notes =
          .ok release.entry := by
  obtain ⟨platformRelease, r₁, hid, h₁⟩ := runScript_bind_ok h
  obtain ⟨hid', rfl⟩ := runScript_liftExc_ok hid
  rw [runScript_get_bind] at h₁
  obtain ⟨notes, r₂, hnotes, h₂⟩ := runScript_bind_ok h₁
  obtain rfl := (loadPendingNoteSummaries_readOnly yaml _).eq_of_ok hnotes
  obtain ⟨planComponents, r₃, hpc, h₃⟩ := runScript_bind_ok h₂
  obtain ⟨hpc', rfl⟩ := runScript_liftExc_ok hpc
  obtain ⟨entry, r₄, hentry, h₄⟩ := runScript_bind_ok h₃
  obtain ⟨hentry', rfl⟩ := runScript_liftExc_ok hentry
  rw [runScript_pure, Prod.mk.injEq, Except.ok.injEq] at h₄
  obtain ⟨rfl, rfl⟩ := h₄
  exact ⟨rfl, hid', hnotes, planComponents, hpc', hentry'⟩

theorem runScript_prependChangelogEntry_bind {α : Type} (path entry : String)
    (f : Unit → ScriptM α) (repo : Repo) :
    runScript (prependChangelogEntry path entry >>= f) repo =
      runScript (f ()) (runScript (prependChangelogEntry path entry) repo).2 := rfl

/-- A run that returns got past the changelog write and then recorded the release. -/
theorem runScript_finalizeRelease_ok {repo repo' : Repo} {archived : List String}
    (h : runScript (finalizeRelease libs yaml glob dirFiles args plan manifest) repo =
      (.ok archived, repo')) :
    ∃ release, runScript (pendingRelease yaml glob dirFiles args.releaseDate plan manifest) repo =
      (.ok release, repo) ∧
      runScript (recordRelease libs glob dirFiles args plan manifest release)
        (runScript (prependChangelogEntry args.changelog release.entry) repo).2 =
          (.ok archived, repo') := by
  obtain ⟨release, r₁, hpend, h₁⟩ := runScript_bind_ok h
  obtain rfl := (pendingRelease_readOnly _).eq_of_ok hpend
  rw [runScript_prependChangelogEntry_bind] at h₁
  exact ⟨release, hpend, h₁⟩

/-- A `recordRelease` run that returns: the notes moved, then the release plan written. -/
theorem runScript_recordRelease_ok {release : PendingRelease} {repo repo' : Repo}
    {archived : List String}
    (h : runScript (recordRelease libs glob dirFiles args plan manifest release) repo =
      (.ok archived, repo')) :
    ∃ repo₁, runScript (archiveNotes (args.archiveRoot ++ "/" ++ release.platformRelease)
        (globNotes glob dirFiles repo)) repo = (.ok archived, repo₁) ∧
      ∀ q, q ≠ args.releasePlanOutput → repo' q = repo₁ q := by
  unfold recordRelease at h
  rw [runScript_get_bind] at h
  obtain ⟨archived', r₁, harch, h₁⟩ := runScript_bind_ok h
  obtain ⟨gitSha, r₂, hsha, h₂⟩ := runScript_bind_ok h₁
  obtain ⟨-, rfl⟩ := runScript_liftExc_ok hsha
  obtain ⟨planComponents, r₃, hpc, h₃⟩ := runScript_bind_ok h₂
  obtain ⟨-, rfl⟩ := runScript_liftExc_ok hpc
  obtain ⟨archivedNotes, r₄, hnotes, h₄⟩ := runScript_bind_ok h₃
  obtain ⟨-, rfl⟩ := runScript_liftExc_ok hnotes
  obtain ⟨u, r₅, hdump, h₅⟩ := runScript_bind_ok h₄
  obtain ⟨u', r₆, hrel, h₆⟩ := runScript_bind_ok h₅
  obtain ⟨-, rfl⟩ := runScript_liftExc_ok hrel
  rw [runScript_pure, Prod.mk.injEq, Except.ok.injEq] at h₆
  obtain ⟨rfl, rfl⟩ := h₆
  rw [dumpJson, runScript_writeText, Prod.mk.injEq] at hdump
  obtain ⟨-, rfl⟩ := hdump
  exact ⟨r₁, harch, fun q hq => Function.update_noteq hq _ _⟩

end Finalize

/-! ## The changelog over a sequence of runs -/

section Runs

variable {libs : Libraries} {yaml : YamlLib} {glob : String → Bool} {dirFiles : List String}

end Runs

/-- The command line of the sample runs, on one release date. -/
def sampleArgs (releaseDate : String) : FinalizeArgs :=
  ⟨"manifest.yaml", "CHANGELOG.md", "archive", "release-plan.json", "/repo",
    releaseDate ++ "T12:00:00+00:00", releaseDate⟩

/-- A release that bumps `api` and closes the two pending notes. -/
def sampleRelease : FinalizeRun :=
  ⟨sampleArgs "2026-11-09",
    .dict [("components", .list [.dict [("name", .str "api"), ("bump", .str "minor"),
      ("current_version", .str "1.2.0"), ("next_version", .str "1.3.0")]])],
    .dict [("platform_release", .str "platform-2026.11.09.1"), ("git_sha", .str "0123abc")]⟩

/-- **`finalize_release.py` loses no note**: after a run that returns, the release plan's
archived notes are the destinations `archive_root/<release>/<name>` of the pending notes, in
sorted order, and each holds the text its note had before the run. This needs the notes to lie
outside the archive root, the notes directory to hold each file name once, the changelog to be
outside the notes directory, and the release plan outside the archive root. -/
theorem finalizeRelease_archives_notes (libs : Libraries) (yaml : YamlLib)
    (glob : String → Bool) (dirFiles : List String) (args : FinalizeArgs) (plan manifest : PyVal)
    (repo repo' : Repo) (archived : List String)
    (harchive : ∀ p ∈ dirFiles, ∀ rest, p ≠ args.archiveRoot ++ "/" ++ rest)
    (hnames : ∀ p ∈ dirFiles, ∀ q ∈ dirFiles, fileName p = fileName q → p = q)
    (hchangelog : args.changelog ∉ dirFiles)
    (hplan : ∀ rest, args.releasePlanOutput ≠ args.archiveRoot ++ "/" ++ rest)
    (hrun : runScript (finalizeRelease libs yaml glob dirFiles args plan manifest) repo =
      (.ok archived, repo')) :
    ∃ release, releaseId manifest = .ok release ∧
      archived = ((globNotes glob dirFiles repo).filter fun p => !skipped p).map
        (args.archiveRoot ++ "/" ++ release ++ "/" ++ fileName ·) ∧
      ∀ p ∈ globNotes glob dirFiles repo, skipped p = false →
        repo' (args.archiveRoot ++ "/" ++ release ++ "/" ++ fileName p) = repo p := by
  obtain ⟨release, hpend, hrec⟩ := runScript_finalizeRelease_ok hrun
  obtain ⟨-, hid, -⟩ := pendingRelease_ok hpend
  obtain ⟨r₁, harch, hkeep⟩ := runScript_recordRelease_ok hrec
  -- The changelog is written outside the notes directory.
  have hdir : ∀ p ∈ dirFiles,
      (runScript (prependChangelogEntry args.changelog release.entry) repo).2 p = repo p :=
    fun p hp => Function.update_noteq (fun h : p = args.changelog => hchangelog (h ▸ hp)) _ _
  rw [globNotes_congr hdir] at harch
  obtain ⟨harchived, hmoved⟩ := archiveNotes_moves nodup_globNotes
    (fun p hp q hq => hnames p (mem_globNotes.1 hp).1 q (mem_globNotes.1 hq).1)
    (fun p hp => ne_subdir_of_ne_dir (harchive p (mem_globNotes.1 hp).1)) harch
  refine ⟨release.platformRelease, hid, harchived, fun p hp hs => ?_⟩
  have hdest : args.archiveRoot ++ "/" ++ release.platformRelease ++ "/" ++ fileName p ≠
      args.releasePlanOutput := fun h =>
    hplan (release.platformRelease ++ "/" ++ fileName p) (by rw [← h]; simp only [String.append_assoc])
  rw [hkeep _ hdest, hmoved p hp hs, hdir p (mem_globNotes.1 hp).1]

/-- **`finalize_release.py` consumes the notes**: after a run that returns, a
`compute_bumps_from_changes.py` run over the same notes directory finds no note, plans nothing,
and writes only its `--output` plan, with no component and no note. This needs the archive root
and the release plan to lie outside the notes directory. Only the files whose names start with
`_` are left. -/
theorem finalizeRelease_consumes_notes (libs : Libraries) (yaml : YamlLib)
    (glob : String → Bool) (dirFiles : List String) (args : FinalizeArgs) (plan manifest : PyVal)
    (components : List Component) (changedFilter : Option (List String))
    (output changesDir generatedAt : String) (repo repo' : Repo) (archived : List String)
    (harchive : ∀ p ∈ dirFiles, ∀ rest, p ≠ args.archiveRoot ++ "/" ++ rest)
    (hplan : args.releasePlanOutput ∉ dirFiles)
    (hrun : runScript (finalizeRelease libs yaml glob dirFiles args plan manifest) repo =
      (.ok archived, repo')) :
    runScript (computeBumpsFromNotes libs yaml glob dirFiles components changedFilter output
      changesDir generatedAt) repo' = (.ok [], Function.update repo' output
        (some (libs.jsonDumps (changesPlanJson generatedAt changesDir [] []) ++ "\n"))) := by
  obtain ⟨release, -, hrec⟩ := runScript_finalizeRelease_ok hrun
  obtain ⟨r₁, harch, hkeep⟩ := runScript_recordRelease_ok hrec
  have hout := fun p hp => @ne_subdir_of_ne_dir p _ release.platformRelease (harchive p hp)
  -- Every note the glob lists afterwards is one the loops skip.
  have hleft : ∀ p ∈ globNotes glob dirFiles repo', skipped p = true := by
    intro p hp
    obtain ⟨hdir, hsome, hglob⟩ := mem_globNotes.1 hp
    rw [hkeep p fun h => hplan (h ▸ hdir), archiveNotes_frame (fun q hq =>
      hout q (mem_globNotes.1 hq).1) harch p (hout p hdir)] at hsome
    split_ifs at hsome with hmoved
    · cases hsome
    · by_contra hs
      exact hmoved ⟨mem_globNotes.2 ⟨hdir, hsome, hglob⟩, by simpa using hs⟩
  unfold computeBumpsFromNotes
  rw [runScript_get_bind, runScript_bind, runScript_loadNotes_skipped yaml _ hleft]
  rfl

set_option maxRecDepth 8000 in
/-- The sample release returns, having archived its two notes. -/
theorem finalizeRelease_sampleRelease :
    let finalized := runScript (finalizeRelease noLibraries textYaml (fun _ => true) noteFiles
      sampleRelease.args sampleRelease.plan sampleRelease.manifest) notesRepo
    finalized = (.ok ["archive/platform-2026.11.09.1/add-tasks.yaml",
      "archive/platform-2026.11.09.1/fix-login.yaml"], finalized.2) := by
  refine Prod.ext ?_ rfl
  have hglob : ∀ repo : Repo, (∀ p ∈ noteFiles, repo p = notesRepo p) →
      globNotes (fun _ => true) noteFiles repo = noteFiles := fun repo h =>
    globNotes_of_sorted (by decide) (by decide) fun p hp => by
      rw [h p hp]
      exact (by decide : ∀ p ∈ noteFiles, (notesRepo p).isSome ∧ true) p hp
  have hpend : runScript (pendingRelease textYaml (fun _ => true) noteFiles "2026-11-09"
      sampleRelease.plan sampleRelease.manifest) notesRepo =
      (.ok ⟨"platform-2026.11.09.1", [⟨"add-tasks.yaml", "api", "minor", "Add the tasks endpoint"⟩,
        ⟨"fix-login.yaml", "web", "patch", "Reject empty names"⟩],
        "## platform-2026.11.09.1 (2026-11-09)\n\n### Version bumps\n\n" ++
        "- `api`: `1.2.0` -> `1.3.0` (minor)\n\n### Included changes\n\n" ++
        "- `api` (minor): Add the tasks endpoint [`add-tasks.yaml`]\n" ++
        "- `web` (patch): Reject empty names [`fix-login.yaml`]"⟩, notesRepo) := by
    unfold pendingRelease
    rw [runScript_bind, runScript_liftExc,
      show releaseId sampleRelease.manifest = .ok "platform-2026.11.09.1" from rfl]
    dsimp only
    rw [runScript_get_bind, hglob _ fun _ _ => rfl]
    rfl
  unfold finalizeRelease
  rw [runScript_bind, show sampleRelease.args.releaseDate = "2026-11-09" from rfl, hpend]
  dsimp only
  rw [runScript_prependChangelogEntry_bind]
  unfold recordRelease
  rw [runScript_get_bind, hglob]
  · rfl
  · exact fun p hp => Function.update_noteq
      (fun h : p = "CHANGELOG.md" => absurd (h ▸ hp) (by decide)) _ _

/-- The notes lie outside the sample's archive root. -/
theorem noteFiles_outside_archive : ∀ p ∈ noteFiles, ∀ rest, p ≠ "archive" ++ "/" ++ rest :=
  fun p hp rest h => by
    simp only [noteFiles, List.mem_cons, List.mem_singleton, List.not_mem_nil, or_false] at hp
    rcases hp with rfl | rfl | rfl <;>
      simpa [String.data_append] using congrArg (fun s => s.data.head?) h

theorem finalizeRelease_archives_notes_sample :
    let finalized := runScript (finalizeRelease noLibraries textYaml (fun _ => true) noteFiles
      sampleRelease.args sampleRelease.plan sampleRelease.manifest) notesRepo
    (∀ p ∈ noteFiles, ∀ rest, p ≠ "archive" ++ "/" ++ rest) ∧
    (∀ p ∈ noteFiles, ∀ q ∈ noteFiles, fileName p = fileName q → p = q) ∧
    "CHANGELOG.md" ∉ noteFiles ∧ (∀ rest, "release-plan.json" ≠ "archive" ++ "/" ++ rest) ∧
    finalized = (.ok ["archive/platform-2026.11.09.1/add-tasks.yaml",
      "archive/platform-2026.11.09.1/fix-login.yaml"], finalized.2) ∧
    ∃ release, releaseId sampleRelease.manifest = .ok release ∧
      ["archive/platform-2026.11.09.1/add-tasks.yaml",
        "archive/platform-2026.11.09.1/fix-login.yaml"] =
        ((globNotes (fun _ => true) noteFiles notesRepo).filter fun p => !skipped p).map
          ("archive" ++ "/" ++ release ++ "/" ++ fileName ·) ∧
      ∀ p ∈ globNotes (fun _ => true) noteFiles notesRepo, skipped p = false →
        finalized.2 ("archive" ++ "/" ++ release ++ "/" ++ fileName p) = notesRepo p :=
  have hnames : ∀ p ∈ noteFiles, ∀ q ∈ noteFiles, fileName p = fileName q → p = q := by decide
  have hchangelog : "CHANGELOG.md" ∉ noteFiles := by decide
  have hplan : ∀ rest, "release-plan.json" ≠ "archive" ++ "/" ++ rest := fun rest h => by
    simpa [String.data_append] using congrArg (fun s => s.data.head?) h
  have hrun := finalizeRelease_sampleRelease
  ⟨noteFiles_outside_archive, hnames, hchangelog, hplan, hrun, finalizeRelease_archives_notes
    _ _ _ _ _ _ _ _ _ _ noteFiles_outside_archive hnames hchangelog hplan hrun⟩

theorem finalizeRelease_consumes_notes_sample :
    let finalized := runScript (finalizeRelease noLibraries textYaml (fun _ => true) noteFiles
      sampleRelease.args sampleRelease.plan sampleRelease.manifest) notesRepo
    (∀ p ∈ noteFiles, ∀ rest, p ≠ "archive" ++ "/" ++ rest) ∧
    "release-plan.json" ∉ noteFiles ∧
    finalized = (.ok ["archive/platform-2026.11.09.1/add-tasks.yaml",
      "archive/platform-2026.11.09.1/fix-login.yaml"], finalized.2) ∧
    runScript (computeBumpsFromNotes noLibraries textYaml (fun _ => true) noteFiles [] none
      "bump-plan.json" ".changes" "2026-11-09T12:05:00+00:00") finalized.2 =
      (.ok [], Function.update finalized.2 "bump-plan.json" (some (noLibraries.jsonDumps
        (changesPlanJson "2026-11-09T12:05:00+00:00" ".changes" [] []) ++ "\n"))) :=
  have hplan : "release-plan.json" ∉ noteFiles := by decide
  have hrun := finalizeRelease_sampleRelease
  ⟨noteFiles_outside_archive, hplan, hrun, finalizeRelease_consumes_notes _ _ _ _ _ _ _ _ _ _ _ _
    _ _ _ noteFiles_outside_archive hplan hrun⟩

end Tentacle.Release
