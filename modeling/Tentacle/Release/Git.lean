import Tentacle.Release.ComputeBumps

/-!
# What the release scripts read from `git`

`compute_bumps.py` reads the commits of a range from
`git log --format=%H%x1f%s%x1f%b%x1e`, and `detect_components.py` reads the changed paths
from `git diff --name-only`. Both run git with `text=True`, which reads its output with
universal newlines, and parse the text with `str` methods, modelled on character lists; what
git prints is written out as `renderLog` and `renderNames`. `compute_bumps.py` then writes the
plan of the commits, with the reasons it collected, to `--output` (`computeBumpsMain`).

* `parseCommits_renderLog` — **`get_commits` reads back every commit of the log**, with its
  subject and body stripped, when the hash is a non-empty run without whitespace and neither
  subject nor body holds a separator or a carriage return. Each entry is cut by `strip("\n")` before it is split
  into fields; that strips newlines off the body only, and stripping the body afterwards
  makes the cut invisible.
* `gitChangedFiles_renderNames` — `git_changed_files` reads back every path git prints, one
  to a line, when no path is blank, starts or ends with whitespace, or holds a line
  boundary of `str.splitlines`.
-/

namespace Tentacle.Release

/-! ## `get_commits` -/

/-- The record separator `%x1e`, which ends an entry of the log. -/
def recordSep : Char := '\x1e'

/-- The unit separator `%x1f`, which ends a field. -/
def unitSep : Char := '\x1f'

/-- One piece of `proc.stdout.split("\x1e")`: skipped when blank or not three fields. -/
def parseRecord (record : List Char) : Option Commit :=
  if stripChars record = [] then none
  else match (stripBy (· == '\n') record).splitOn unitSep with
    | [commitHash, subject, body] => some ⟨⟨commitHash⟩, pyStrip ⟨subject⟩, pyStrip ⟨body⟩⟩
    | _ => none

/-- `get_commits` on the text `git log` printed, which `proc.stdout` holds with universal
newlines. -/
def parseCommits (stdout : String) : List Commit :=
  ((universalNewlines stdout.data).splitOn recordSep).filterMap parseRecord

/-- The fields of one entry, `%H%x1f%s%x1f%b`. -/
def commitFields (c : Commit) : List Char :=
  c.hash.data ++ unitSep :: c.subject.data ++ unitSep :: c.body.data

/-- What `git log --format=%H%x1f%s%x1f%b%x1e` prints: each entry's fields and separator, and
the newline that ends every entry of a `--format` log. -/
def renderLog (commits : List Commit) : String :=
  ⟨commits.flatMap fun c => commitFields c ++ [recordSep, '\n']⟩

/-- A commit the parser reads back: its hash is a non-empty run without whitespace (as a hex
digest is), and neither subject nor body holds a separator or a carriage return, which
universal newlines would turn into a newline. -/
def Commit.Readable (c : Commit) : Prop :=
  c.hash.data ≠ [] ∧ (∀ x ∈ c.hash.data, isPySpace x = false) ∧
    ∀ x ∈ c.subject.data ++ c.body.data, x ≠ recordSep ∧ x ≠ unitSep ∧ x ≠ '\r'

instance (c : Commit) : Decidable c.Readable :=
  inferInstanceAs (Decidable (c.hash.data ≠ [] ∧ (∀ x ∈ c.hash.data, isPySpace x = false) ∧
    ∀ x ∈ c.subject.data ++ c.body.data, x ≠ recordSep ∧ x ≠ unitSep ∧ x ≠ '\r'))

/-- What `get_commits` makes of a commit: the hash as printed, subject and body stripped. -/
def Commit.readBack (c : Commit) : Commit := ⟨c.hash, pyStrip c.subject, pyStrip c.body⟩

theorem dropWhile_append_cons {p : Char → Bool} (l : List Char) {x : Char} (hx : p x = false)
    (r : List Char) : (l ++ x :: r).dropWhile p = l.dropWhile p ++ x :: r := by
  rw [List.dropWhile_append]
  split
  · next h => rw [List.isEmpty_iff.mp h, List.dropWhile_cons_of_neg (by simp [hx]), List.nil_append]
  · rfl

theorem mem_commitFields {c : Commit} {x : Char} (hx : x ∈ commitFields c) :
    x ∈ c.hash.data ∨ x = unitSep ∨ x ∈ c.subject.data ++ c.body.data := by
  simp only [commitFields, List.mem_append, List.mem_cons] at hx ⊢
  tauto

/-- The text between two separators splits into its fields. -/
theorem splitOn_fields {a b c : List Char} (ha : unitSep ∉ a) (hb : unitSep ∉ b)
    (hc : unitSep ∉ c) : (a ++ unitSep :: b ++ unitSep :: c).splitOn unitSep = [a, b, c] := by
  have hnot : ∀ {l : List Char}, unitSep ∉ l → ∀ x ∈ l, ¬(x == unitSep) = true :=
    fun hl x hx hx' => hl (by rwa [beq_iff_eq.mp hx'] at hx)
  unfold List.splitOn
  rw [List.append_assoc, List.cons_append, List.splitOnP_first _ _ (hnot ha) _ (beq_self_eq_true _),
    List.splitOnP_first _ _ (hnot hb) _ (beq_self_eq_true _), List.splitOnP_eq_single _ _ (hnot hc)]

/-- Newlines left over from the entry before make no commit. -/
theorem parseRecord_newlines {pre : List Char} (hpre : ∀ x ∈ pre, x = '\n') :
    parseRecord pre = none := by
  rw [parseRecord, if_pos (stripChars_eq_nil_iff.mpr fun x hx => by rw [hpre x hx]; rfl)]

/-- An entry, after the newline that ended the one before, reads back its commit. -/
theorem parseRecord_fields {pre : List Char} (hpre : ∀ x ∈ pre, x = '\n') {c : Commit}
    (hc : c.Readable) : parseRecord (pre ++ commitFields c) = some c.readBack := by
  obtain ⟨hne, hhash, hsep⟩ := hc
  obtain ⟨h₀, hash, hh⟩ := List.exists_cons_of_ne_nil hne
  have hsub : ∀ x ∈ c.subject.data, x ≠ unitSep := fun x hx => (hsep x (by simp [hx])).2.1
  have hbody : ∀ x ∈ c.body.data, x ≠ unitSep := fun x hx => (hsep x (by simp [hx])).2.1
  have h₀sp : isPySpace h₀ = false := hhash h₀ (by simp [hh])
  have h₀nl : (h₀ == '\n') = false := by
    cases h : h₀ == '\n'
    · rfl
    · rw [beq_iff_eq.mp h] at h₀sp
      exact absurd h₀sp (by decide)
  have hstrip : stripChars (pre ++ commitFields c) ≠ [] := fun h => by
    have := stripChars_eq_nil_iff.mp h h₀ (by simp [commitFields, hh])
    rw [h₀sp] at this
    cases this
  have hcut : stripBy (· == '\n') (pre ++ commitFields c) =
      c.hash.data ++ unitSep :: c.subject.data ++ unitSep ::
        (c.body.data.reverse.dropWhile (· == '\n')).reverse := by
    have hrev : (commitFields c).reverse =
        c.body.data.reverse ++ unitSep :: (c.hash.data ++ unitSep :: c.subject.data).reverse := by
      simp [commitFields]
    unfold stripBy
    rw [dropWhile_spaces_append (fun x hx => by rw [hpre x hx]; rfl),
      dropWhile_eq_self (p := (· == '\n')) (l := commitFields c) (by simp [commitFields, hh]) h₀nl,
      hrev, dropWhile_append_cons (p := (· == '\n')) _ (show (unitSep == '\n') = false from rfl)]
    simp
  rw [parseRecord, if_neg hstrip, hcut, splitOn_fields
    (fun h => absurd (hhash _ h) (by decide))
    (fun h => hsub _ h rfl)
    (fun h => hbody _ (List.mem_reverse.mp ((List.dropWhile_sublist _).subset
      (List.mem_reverse.mp h))) rfl)]
  simp only [Commit.readBack, pyStrip, stripChars_stripTrailing (q := (· == '\n'))
    (fun x hx => by rw [beq_iff_eq.mp hx]; rfl)]

theorem parseRecords_log : ∀ (commits : List Commit) (pre : List Char),
    (∀ x ∈ pre, x = '\n') → (∀ c ∈ commits, c.Readable) →
    ((pre ++ commits.flatMap fun c => commitFields c ++ [recordSep, '\n']).splitOn
      recordSep).filterMap parseRecord = commits.map Commit.readBack
  | [], pre, hpre, _ => by
    rw [List.flatMap_nil, List.append_nil, List.splitOn,
      List.splitOnP_eq_single _ _ fun x hx => by rw [hpre x hx]; decide]
    simp [parseRecord_newlines hpre]
  | c :: cs, pre, hpre, hc => by
    have hsplit : pre ++ (c :: cs).flatMap (fun c => commitFields c ++ [recordSep, '\n']) =
        (pre ++ commitFields c) ++ recordSep ::
          (['\n'] ++ cs.flatMap fun c => commitFields c ++ [recordSep, '\n']) := by
      simp
    have hfields : ∀ x ∈ pre ++ commitFields c, ¬(x == recordSep) = true := by
      obtain ⟨-, hhash, hsep⟩ := hc c (List.mem_cons_self _ _)
      intro x hx hx'
      rw [beq_iff_eq.mp hx'] at hx
      rcases List.mem_append.mp hx with hx | hx
      · exact absurd (hpre _ hx) (by decide)
      rcases mem_commitFields hx with hx | hx | hx
      · exact absurd (hhash _ hx) (by decide)
      · exact absurd hx (by decide)
      · exact (hsep _ hx).1 rfl
    rw [hsplit, List.splitOn, List.splitOnP_first _ _ hfields _ (beq_self_eq_true _),
      List.filterMap_cons, parseRecord_fields hpre (hc c (List.mem_cons_self _ _)), ← List.splitOn,
      parseRecords_log cs ['\n'] (by simp) fun c hc' => hc c (List.mem_cons_of_mem _ hc')]
    rfl

/-- The log of readable commits holds no carriage return, so universal newlines keep it. -/
theorem cr_not_mem_renderLog {commits : List Commit} (h : ∀ c ∈ commits, c.Readable) :
    '\r' ∉ (renderLog commits).data := by
  simp only [renderLog, List.mem_flatMap, not_exists, not_and]
  intro c hc hx
  obtain ⟨-, hhash, hsep⟩ := h c hc
  rcases List.mem_append.1 hx with hx | hx
  · rcases mem_commitFields hx with hx | hx | hx
    · exact absurd (hhash _ hx) (by decide)
    · exact absurd hx (by decide)
    · exact (hsep _ hx).2.2 rfl
  · exact absurd hx (by decide)

/-- **`get_commits` reads back every commit of the log**, its subject and body stripped. -/
theorem parseCommits_renderLog (commits : List Commit) (h : ∀ c ∈ commits, c.Readable) :
    parseCommits (renderLog commits) = commits.map Commit.readBack := by
  rw [parseCommits, universalNewlines_of_cr_not_mem (cr_not_mem_renderLog h)]
  exact parseRecords_log commits [] (fun _ h => absurd h (List.not_mem_nil _)) h

/-- A merge commit with an empty body, and a commit whose body ends in a blank line. -/
def sampleLog : List Commit :=
  [⟨"3f2a", "Merge branch main", ""⟩, ⟨"9c1e", "fix(api): reject empty names ", "Closes #4\n\n"⟩]

theorem parseCommits_renderLog_sample :
    (∀ c ∈ sampleLog, c.Readable) ∧
    parseCommits (renderLog sampleLog) = sampleLog.map Commit.readBack :=
  have h : ∀ c ∈ sampleLog, c.Readable := by decide
  ⟨h, parseCommits_renderLog sampleLog h⟩

/-! ## `main` of `compute_bumps.py` -/

/-- The JSON `compute_bumps.py` writes to `--output`. -/
def commitsPlanJson (base head generatedAt : String) (components : List PyVal) : PyVal :=
  .dict [("base", .str base), ("head", .str head), ("generated_at", .str generatedAt),
    ("components", .list components)]

/-- `main` of `compute_bumps.py` from the config on: the commits of the text `git log`
printed, the plan, and the plan with its reasons at `--output`. `changed` is
`changed.get("components", [])`, `generatedAt` the clock's time. The plan is returned. -/
def computeBumpsMain (libs : Libraries) (components : List Component) (cfg : CommitConfig)
    (changed : List String) (base head gitLog output generatedAt : String) :
    ScriptM (List PlanEntry) := do
  let commits := parseCommits gitLog
  let entries ← computeBumps libs components cfg changed commits
  dumpJson libs output (commitsPlanJson base head generatedAt
    (entries.map (·.toJson (commitReasons components cfg changed commits))))
  pure entries

theorem computeBumps_readOnly (libs : Libraries) (components : List Component)
    (cfg : CommitConfig) (changed : List String) (commits : List Commit) :
    ReadOnly (computeBumps libs components cfg changed commits) :=
  (readOnly_liftExc _).bind fun _ => planComponents_readOnly

/-- **`compute_bumps.py` writes its plan to `--output` and nothing else**: a run raises where
the plan raises, with nothing written, or returns the plan with its JSON at `--output`. -/
theorem runScript_computeBumpsMain (libs : Libraries) (components : List Component)
    (cfg : CommitConfig) (changed : List String) (base head gitLog output generatedAt : String)
    (repo : Repo) :
    (∃ e, runScript (computeBumps libs components cfg changed (parseCommits gitLog)) repo =
        (.error e, repo) ∧
      runScript (computeBumpsMain libs components cfg changed base head gitLog output generatedAt)
        repo = (.error e, repo)) ∨
    ∃ entries, runScript (computeBumps libs components cfg changed (parseCommits gitLog)) repo =
        (.ok entries, repo) ∧
      runScript (computeBumpsMain libs components cfg changed base head gitLog output generatedAt)
        repo = (.ok entries, Function.update repo output (some (libs.jsonDumps
          (commitsPlanJson base head generatedAt (entries.map (·.toJson
            (commitReasons components cfg changed (parseCommits gitLog))))) ++ "\n"))) := by
  have hro := computeBumps_readOnly libs components cfg changed (parseCommits gitLog) repo
  unfold computeBumpsMain
  simp only [runScript_bind]
  generalize runScript (computeBumps libs components cfg changed (parseCommits gitLog)) repo = r
    at hro ⊢
  obtain ⟨_ | entries, r⟩ := r <;> dsimp only at hro ⊢ <;> subst hro
  · exact .inl ⟨_, rfl, rfl⟩
  · exact .inr ⟨entries, rfl, rfl⟩

/-! ## `git_changed_files` -/

/-- `s.splitlines()`: the lines without their boundaries. `line` is the line read so far, and
`afterCR` says that the boundary just read was a `\r`, which a `\n` right after it joins. -/
def splitLinesBareFrom : List Char → List Char → Bool → List (List Char)
  | [], line, _ => if line.isEmpty then [] else [line]
  | c :: rest, line, afterCR =>
    if afterCR && c == '\n' then splitLinesBareFrom rest line false
    else if isLineBreak c then line :: splitLinesBareFrom rest [] (c == '\r')
    else splitLinesBareFrom rest (line ++ [c]) false

/-- A line of `git diff --name-only`, stripped; `none` for a blank one. -/
def pathOfLine (line : List Char) : Option String :=
  if stripChars line = [] then none else some ⟨stripChars line⟩

/-- `git_changed_files` on the text `git diff --name-only` printed, which `proc.stdout` holds
with universal newlines: the lines stripped, the blank ones dropped. -/
def gitChangedFiles (stdout : String) : List String :=
  (splitLinesBareFrom (universalNewlines stdout.data) [] false).filterMap pathOfLine

/-- What `git diff --name-only` prints: one path a line. -/
def renderNames (paths : List String) : String :=
  ⟨paths.flatMap (·.data ++ ['\n'])⟩

/-- A path `git_changed_files` reads back: not blank, no whitespace around it, and no line
boundary in it. -/
def PlainPath (path : String) : Prop :=
  stripChars path.data = path.data ∧ path.data ≠ [] ∧ ∀ x ∈ path.data, isLineBreak x = false

instance (path : String) : Decidable (PlainPath path) :=
  inferInstanceAs (Decidable (stripChars path.data = path.data ∧ path.data ≠ [] ∧
    ∀ x ∈ path.data, isLineBreak x = false))

theorem splitLinesBareFrom_line {line : List Char} (hline : ∀ x ∈ line, isLineBreak x = false) :
    ∀ (acc rest : List Char), splitLinesBareFrom (line ++ '\n' :: rest) acc false =
      (acc ++ line) :: splitLinesBareFrom rest [] false := by
  induction line with
  | nil =>
    intro acc rest
    rw [List.nil_append, splitLinesBareFrom, if_neg (by decide), if_pos (by decide), List.append_nil]
    rfl
  | cons x line ih =>
    intro acc rest
    rw [List.cons_append, splitLinesBareFrom, Bool.false_and, if_neg Bool.false_ne_true,
      if_neg (by rw [hline x (List.mem_cons_self _ _)]; decide),
      ih (fun y hy => hline y (List.mem_cons_of_mem _ hy)), List.append_assoc, List.singleton_append]

theorem splitLines_renderNames (paths : List String) (h : ∀ p ∈ paths, PlainPath p) :
    (splitLinesBareFrom (renderNames paths).data [] false).filterMap pathOfLine = paths := by
  induction paths with
  | nil => rfl
  | cons p ps ih =>
    obtain ⟨hstrip, hne, hline⟩ := h p (List.mem_cons_self _ _)
    have ih' := ih fun q hq => h q (List.mem_cons_of_mem _ hq)
    unfold renderNames at ih' ⊢
    rw [List.flatMap_cons, List.append_assoc, List.singleton_append, splitLinesBareFrom_line hline,
      List.nil_append, List.filterMap_cons, pathOfLine, hstrip, if_neg hne, ih']

/-- **`git_changed_files` reads back every path `git diff --name-only` printed.** -/
theorem gitChangedFiles_renderNames (paths : List String) (h : ∀ p ∈ paths, PlainPath p) :
    gitChangedFiles (renderNames paths) = paths := by
  have hcr : '\r' ∉ (renderNames paths).data := by
    simp only [renderNames, List.mem_flatMap, List.mem_append, not_exists, not_and]
    intro p hp hx
    rcases hx with hx | hx
    · exact absurd ((h p hp).2.2 _ hx) (by decide)
    · exact absurd hx (by decide)
  rw [gitChangedFiles, universalNewlines_of_cr_not_mem hcr]
  exact splitLines_renderNames paths h

theorem gitChangedFiles_renderNames_sample :
    (∀ p ∈ ["apps/api/main.py", "docs/release notes.md"], PlainPath p) ∧
    gitChangedFiles (renderNames ["apps/api/main.py", "docs/release notes.md"]) =
      ["apps/api/main.py", "docs/release notes.md"] :=
  have h : ∀ p ∈ ["apps/api/main.py", "docs/release notes.md"], PlainPath p := by decide
  ⟨h, gitChangedFiles_renderNames _ h⟩

end Tentacle.Release
