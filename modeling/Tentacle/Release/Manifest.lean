import Tentacle.Release.Check

/-!
# The release manifest

`update_manifest.py` writes `manifest.yaml`: for every component of the config, in sorted
order, its scope, kind, current version, version source files and a digest of them, under a
platform release id that counts the releases of a day. `bootstrap_release_metadata.py`
creates the missing `VERSION` files of app components and writes a first manifest, and
`validate_manifest` in `check_version_sync.py` checks a manifest against the sources.

`yaml.safe_load`, `yaml.safe_dump`, SHA-256, the clock and `git rev-parse HEAD` are
parameters. `digest_files` only reads, so it is a function of the repository.

* `digestText_injective` — the text `digest_files` hashes determines the content of every
  file it covers, when no file holds a NUL.
* `updateManifest_records_bump` — after `bump_component.py` has written a version,
  `update_manifest.py` records it as the component's version in the manifest.
* `updateManifest_passes_validateManifest` — the manifest `update_manifest.py` writes passes
  `validate_manifest` once YAML reads it back, when every version reads as a string.
* `bootstrapReleaseMetadata_write` — a `--write` run changes no file but the manifest and the
  missing version files it creates, each once, and leaves every app component's plain
  version file in place, whether or not the manifest step raises.
* `bootstrapReleaseMetadata_dryRun` — a dry run writes nothing and lists the missing version
  file of every app component, once per component.
-/

namespace Tentacle.Release

/-- A component of the release config: the keys of `Component`, and `publish_dir` (default
`None`). -/
structure ConfigComponent extends Component where
  publishDir : Option String

/-- `yaml.safe_load` and `yaml.safe_dump(data, sort_keys=False)`. The dumper breaks lines with
`\n` and escapes a `\r` inside a string, so what it writes holds no carriage return. -/
structure YamlLib where
  safeLoad : String → Except PyExc PyVal
  safeDump : PyVal → String
  safeDump_cr : ∀ v, '\r' ∉ (safeDump v).data

/-- A dumped document reads as itself in text mode. -/
theorem YamlLib.textRead_safeDump (yaml : YamlLib) (v : PyVal) :
    textRead (yaml.safeDump v) = yaml.safeDump v :=
  textRead_of_cr_not_mem (yaml.safeDump_cr v)

/-- `component_map(config)[name]`: the last component of that name. -/
def configMap (components : List ConfigComponent) (name : String) : Option ConfigComponent :=
  components.reverse.find? (·.name == name)

theorem componentMap_map_toComponent (components : List ConfigComponent) (name : String) :
    componentMap (components.map (·.toComponent)) name =
      (configMap components name).map (·.toComponent) := by
  simp only [componentMap, configMap, ← List.map_reverse, List.find?_map]
  rfl

/-! ## `digest_files` -/

/-- The text `digest_files` feeds SHA-256, a file at a time: its path, a NUL, its content and
a NUL; a missing file raises. The bytes of a text file are its UTF-8 encoding, which commutes
with concatenation, so hashing this text is hashing the bytes fed. -/
def digestText (repo : Repo) : List String → Except PyExc (List Char)
  | [] => .ok []
  | relFile :: relFiles => match repo relFile with
    | none => .error ⟨.other, s!"Missing file for digest: {relFile}"⟩
    | some content => (digestText repo relFiles).map fun rest =>
      relFile.data ++ '\x00' :: (content.data ++ '\x00' :: rest)

/-- `digest_files`: the files in sorted order; `sha256` is `hashlib.sha256` then
`hexdigest`. -/
def digestFiles (sha256 : List Char → String) (relFiles : List String) : ScriptM String := do
  let fed ← liftExc (digestText (← get) (sortedNames relFiles))
  pure (sha256 fed)

/-- A file that is missing or holds no NUL. -/
def NulFree (text : Option String) : Prop :=
  ∀ t, text = some t → '\x00' ∉ t.data

/-- A NUL-free text followed by a NUL is a prefix that no other such text shares. -/
theorem append_nul_inj {x y r s : List Char} (hx : '\x00' ∉ x) (hy : '\x00' ∉ y)
    (h : x ++ '\x00' :: r = y ++ '\x00' :: s) : x = y ∧ r = s := by
  induction x generalizing y with
  | nil =>
    cases y with
    | nil => simpa using h
    | cons b y =>
      obtain ⟨rfl, -⟩ := List.cons.inj h
      exact absurd (List.mem_cons_self _ _) hy
  | cons a x ih =>
    cases y with
    | nil =>
      obtain ⟨rfl, -⟩ := List.cons.inj h
      exact absurd (List.mem_cons_self _ _) hx
    | cons b y =>
      simp only [List.cons_append, List.cons.injEq] at h
      obtain ⟨rfl, h⟩ := h
      obtain ⟨rfl, rfl⟩ := ih (fun m => hx (List.mem_cons_of_mem _ m))
        (fun m => hy (List.mem_cons_of_mem _ m)) h
      exact ⟨rfl, rfl⟩

theorem digestText_cons_ok {repo : Repo} {f : String} {fs : List String} {fed : List Char}
    (h : digestText repo (f :: fs) = .ok fed) :
    ∃ c rest, repo f = some c ∧ digestText repo fs = .ok rest ∧
      fed = f.data ++ '\x00' :: (c.data ++ '\x00' :: rest) := by
  simp only [digestText] at h
  cases hf : repo f with
  | none => rw [hf] at h; cases h
  | some c =>
    rw [hf] at h
    cases hr : digestText repo fs with
    | error e => rw [hr] at h; cases h
    | ok rest =>
      rw [hr] at h
      exact ⟨c, rest, rfl, rfl, (Except.ok.inj h).symm⟩

/-- **The hashed text determines the files**: two repositories for which `digest_files`
feeds the hash the same text hold the same content in every file it covers, when no file
holds a NUL. A collision-free hash therefore changes with any version source file. -/
theorem digestText_injective {repo repo' : Repo} {relFiles : List String} {fed : List Char}
    (h : digestText repo relFiles = .ok fed) (h' : digestText repo' relFiles = .ok fed)
    (hnul : ∀ p ∈ relFiles, NulFree (repo p) ∧ NulFree (repo' p)) :
    ∀ p ∈ relFiles, repo p = repo' p := by
  induction relFiles generalizing fed with
  | nil => exact fun _ hp => absurd hp (List.not_mem_nil _)
  | cons f fs ih =>
    obtain ⟨c, rest, hf, hr, rfl⟩ := digestText_cons_ok h
    obtain ⟨c', rest', hf', hr', heq⟩ := digestText_cons_ok h'
    have hnf := hnul f (List.mem_cons_self _ _)
    obtain ⟨hc, rfl⟩ := append_nul_inj (hnf.1 c hf) (hnf.2 c' hf')
      (List.cons.inj (List.append_cancel_left heq)).2
    intro p hp
    rcases List.mem_cons.mp hp with rfl | hp
    · rw [hf, hf', String.ext hc]
    · exact ih hr hr' (fun q hq => hnul q (List.mem_cons_of_mem _ hq)) p hp

/-- An app component with a plain `VERSION` file and no runtime version file. -/
def appComponents : List ConfigComponent :=
  [⟨⟨"web", none, some "app", "web/VERSION", "plain", []⟩, some "web/dist"⟩]

def appRepo : Repo
  | "web/VERSION" => some "2.0.1\n"
  | _ => none

def appRepoWithReadme : Repo
  | "web/VERSION" => some "2.0.1\n"
  | "README.md" => some "web\n"
  | _ => none

theorem digestText_injective_web :
    digestText appRepo ["web/VERSION"] = .ok "web/VERSION\x002.0.1\n\x00".data ∧
    digestText appRepoWithReadme ["web/VERSION"] = .ok "web/VERSION\x002.0.1\n\x00".data ∧
    (∀ p ∈ ["web/VERSION"], NulFree (appRepo p) ∧ NulFree (appRepoWithReadme p)) ∧
    ∀ p ∈ ["web/VERSION"], appRepo p = appRepoWithReadme p :=
  have h : digestText appRepo ["web/VERSION"] = .ok "web/VERSION\x002.0.1\n\x00".data := rfl
  have h' : digestText appRepoWithReadme ["web/VERSION"] =
      .ok "web/VERSION\x002.0.1\n\x00".data := rfl
  have hnul : ∀ p ∈ ["web/VERSION"], NulFree (appRepo p) ∧ NulFree (appRepoWithReadme p) := by
    intro p hp
    rw [List.mem_singleton.mp hp]
    exact ⟨fun t ht => by cases ht; decide, fun t ht => by cases ht; decide⟩
  ⟨h, h', hnul, digestText_injective h h' hnul⟩

/-! ## `bootstrap_release_metadata.py` -/

/-- An app component whose version is kept in a plain `VERSION` file. -/
def AppPlain (component : ConfigComponent) : Prop :=
  component.kind = some "app" ∧ component.versionKind = "plain"

instance (component : ConfigComponent) : Decidable (AppPlain component) :=
  inferInstanceAs (Decidable (component.kind = some "app" ∧ component.versionKind = "plain"))

/-- The loop over the components: the three `continue`s skip a component that is not an app,
whose version file is not plain, or whose version file exists; any other has its version
file listed and, with `--write`, created with the default version. -/
def bootstrapLoop (defaultVersion : String) (write : Bool) :
    List ConfigComponent → List String → ScriptM (List String)
  | [], created => pure created
  | component :: components, created => do
    let repo ← get
    if AppPlain component ∧ repo component.versionFile = none then
      if write then writePlainVersion component.versionFile defaultVersion
      bootstrapLoop defaultVersion write components (created ++ [component.versionFile])
    else bootstrapLoop defaultVersion write components created

/-- The manifest loop: for each component in order,
`manifest_components[component["name"]] = {scope, kind, version}`. -/
def bootstrapEntries (libs : Libraries) :
    List ConfigComponent → List (String × PyVal) → ScriptM (List (String × PyVal))
  | [], entries => pure entries
  | component :: components, entries => do
    let version ← readComponentVersion libs component.toComponent
    bootstrapEntries libs components (dictSet entries component.name
      (.dict [("scope", optStr component.scope), ("kind", optStr component.kind),
        ("version", version)]))

/-- `main` of `bootstrap_release_metadata.py` from the config's components on; the files it
lists as missing are returned. -/
def bootstrapReleaseMetadata (libs : Libraries) (yaml : YamlLib)
    (components : List ConfigComponent) (manifest defaultVersion : String) (write : Bool) :
    ScriptM (List String) := do
  let created ← bootstrapLoop defaultVersion write components []
  if write then
    let entries ← bootstrapEntries libs components []
    writeText manifest (yaml.safeDump (.dict [("schema_version", .int 1),
      ("platform_release", .str "platform-bootstrap.1"), ("components", .dict entries)]))
  pure created

/-- The version files of app components that are missing, once per component. -/
def missingVersionFiles (repo : Repo) (components : List ConfigComponent) : List String :=
  (components.filter fun c => AppPlain c ∧ repo c.versionFile = none).map (·.versionFile)

/-- The repository with every file of `created` holding the default version. -/
def withDefaults (repo : Repo) (created : List String) (defaultVersion : String) : Repo :=
  fun p => if p ∈ created then some (defaultVersion ++ "\n") else repo p

section Bootstrap

variable {repo : Repo} {components : List ConfigComponent} {defaultVersion p : String}

theorem mem_missingVersionFiles :
    p ∈ missingVersionFiles repo components ↔
      repo p = none ∧ ∃ c ∈ components, AppPlain c ∧ c.versionFile = p := by
  simp only [missingVersionFiles, List.mem_map, List.mem_filter, decide_eq_true_eq]
  constructor
  · rintro ⟨c, ⟨hc, happ, hnone⟩, rfl⟩
    exact ⟨hnone, c, hc, happ, rfl⟩
  · rintro ⟨hnone, c, hc, happ, rfl⟩
    exact ⟨c, ⟨hc, happ, hnone⟩, rfl⟩

theorem missingVersionFiles_cons_pos {c : ConfigComponent}
    (hc : AppPlain c ∧ repo c.versionFile = none) :
    missingVersionFiles repo (c :: components) =
      c.versionFile :: missingVersionFiles repo components := by
  simp [missingVersionFiles, List.filter_cons, hc]

theorem missingVersionFiles_cons_neg {c : ConfigComponent}
    (hc : ¬(AppPlain c ∧ repo c.versionFile = none)) :
    missingVersionFiles repo (c :: components) = missingVersionFiles repo components := by
  simp only [missingVersionFiles, List.filter_cons, decide_eq_true_eq, if_neg hc]

theorem bootstrapEntries_readOnly (libs : Libraries) :
    ∀ (components : List ConfigComponent) (entries : List (String × PyVal)),
      ReadOnly (bootstrapEntries libs components entries)
  | [], _ => readOnly_pure _
  | _ :: components, _ =>
    readComponentVersion_readOnly.bind fun _ => bootstrapEntries_readOnly libs components _

/-- A dry run of the loop writes nothing and appends the missing version files. -/
theorem runScript_bootstrapLoop_dryRun (repo : Repo) :
    ∀ (components : List ConfigComponent) (created : List String),
      runScript (bootstrapLoop defaultVersion false components created) repo =
        (.ok (created ++ missingVersionFiles repo components), repo)
  | [], created => by simp [bootstrapLoop, missingVersionFiles, runScript_pure]
  | c :: components, created => by
    rw [bootstrapLoop, runScript_get_bind]
    by_cases hc : AppPlain c ∧ repo c.versionFile = none
    · simp only [if_pos hc, Bool.false_eq_true, ↓reduceIte]
      rw [runScript_bind, runScript_pure]
      dsimp only
      rw [runScript_bootstrapLoop_dryRun repo components, missingVersionFiles_cons_pos hc]
      simp
    · rw [if_neg hc, runScript_bootstrapLoop_dryRun repo components,
        missingVersionFiles_cons_neg hc]

/-- A `--write` run of the loop creates each missing version file once: it ends in the
repository with those files holding the default version, and lists them without repeats. -/
theorem runScript_bootstrapLoop_write :
    ∀ (components : List ConfigComponent) (created : List String) (repo : Repo),
      ∃ new, runScript (bootstrapLoop defaultVersion true components created) repo =
        (.ok (created ++ new), withDefaults repo new defaultVersion) ∧ new.Nodup ∧
        ∀ p, p ∈ new ↔ p ∈ missingVersionFiles repo components
  | [], created, repo => ⟨[], by
      refine ⟨?_, List.nodup_nil, by simp [missingVersionFiles]⟩
      rw [bootstrapLoop, runScript_pure, List.append_nil]
      congr 1⟩
  | c :: components, created, repo => by
    rw [bootstrapLoop, runScript_get_bind]
    by_cases hc : AppPlain c ∧ repo c.versionFile = none
    · simp only [if_pos hc, ↓reduceIte]
      rw [runScript_bind]
      obtain ⟨new, hrun, hnd, hmem⟩ := runScript_bootstrapLoop_write components
        (created ++ [c.versionFile])
        (Function.update repo c.versionFile (some (defaultVersion ++ "\n")))
      have hnew : ∀ p, p ∈ new ↔ p ≠ c.versionFile ∧ p ∈ missingVersionFiles repo components :=
        fun p => by
          rw [hmem, mem_missingVersionFiles, mem_missingVersionFiles]
          by_cases hp : p = c.versionFile
          · subst hp
            simp
          · simp [hp, Function.update_noteq hp]
      refine ⟨c.versionFile :: new, ?_, ?_, fun p => ?_⟩
      · simp only [writePlainVersion, runScript_writeText, hrun, List.append_assoc,
          List.singleton_append]
        congr 2
        funext p
        by_cases hp : p = c.versionFile
        · subst hp
          simp [withDefaults]
        · simp [withDefaults, hp, Function.update_noteq hp]
      · exact List.nodup_cons.2 ⟨fun h => ((hnew _).1 h).1 rfl, hnd⟩
      · rw [missingVersionFiles_cons_pos hc, List.mem_cons, List.mem_cons, hnew]
        by_cases hp : p = c.versionFile <;> simp [hp]
    · rw [if_neg hc]
      obtain ⟨new, hrun, hnd, hmem⟩ := runScript_bootstrapLoop_write components created repo
      exact ⟨new, hrun, hnd, fun p => by rw [hmem, missingVersionFiles_cons_neg hc]⟩

/-- After the loop, every app component's plain version file exists. -/
theorem withDefaults_versionFile {new : List String}
    (hmem : ∀ p, p ∈ new ↔ p ∈ missingVersionFiles repo components) {c : ConfigComponent}
    (hc : c ∈ components) (happ : AppPlain c) :
    withDefaults repo new defaultVersion c.versionFile ≠ none := by
  unfold withDefaults
  split
  · exact Option.some_ne_none _
  · next hnew =>
    intro hnone
    exact hnew ((hmem _).2 (mem_missingVersionFiles.2 ⟨hnone, c, hc, happ, rfl⟩))

end Bootstrap

/-- **A `--write` run creates only what is missing**, whether the manifest step returns or
raises: a file other than the manifest that changed was the missing version file of an app
component and now holds the default version, and every app component's plain version file
exists. A run that returns lists each file it created once. -/
theorem bootstrapReleaseMetadata_write (libs : Libraries) (yaml : YamlLib)
    (components : List ConfigComponent) (manifest defaultVersion : String) (repo : Repo) :
    let run := runScript
      (bootstrapReleaseMetadata libs yaml components manifest defaultVersion true) repo
    (∀ p, p ≠ manifest → run.2 p ≠ repo p →
      p ∈ missingVersionFiles repo components ∧ run.2 p = some (defaultVersion ++ "\n")) ∧
    (∀ c ∈ components, AppPlain c → run.2 c.versionFile ≠ none) ∧
    ∀ created, run.1 = .ok created →
      created.Nodup ∧ ∀ p, p ∈ created ↔ p ∈ missingVersionFiles repo components := by
  intro run
  obtain ⟨new, hloop, hnd, hmem⟩ :=
    @runScript_bootstrapLoop_write defaultVersion components [] repo
  let W := withDefaults repo new defaultVersion
  -- The manifest step only reads until it writes the manifest.
  have hrun : (∃ e, run = (.error e, W)) ∨ ∃ t, run = (.ok new, Function.update W manifest (some t)) := by
    simp only [run, bootstrapReleaseMetadata, runScript_bind, hloop, List.nil_append, ↓reduceIte]
    have hro := bootstrapEntries_readOnly libs components [] W
    generalize runScript (bootstrapEntries libs components []) W = res at hro ⊢
    obtain ⟨_ | entries, r⟩ := res <;> dsimp only at hro ⊢ <;> subst hro
    · exact .inl ⟨_, rfl⟩
    · exact .inr ⟨_, rfl⟩
  have hfin : ∀ p, p ≠ manifest → run.2 p = W p := fun p hp => by
    rcases hrun with ⟨e, he⟩ | ⟨t, ht⟩
    · rw [he]
    · rw [ht]
      exact Function.update_noteq hp _ _
  refine ⟨fun p hp hne => ?_, fun c hc happ => ?_, fun created hcr => ?_⟩
  · rw [hfin p hp] at hne ⊢
    by_cases hnew : p ∈ new
    · exact ⟨(hmem p).1 hnew, if_pos hnew⟩
    · exact absurd (if_neg hnew) hne
  · by_cases hm : c.versionFile = manifest
    · rcases hrun with ⟨e, he⟩ | ⟨t, ht⟩
      · rw [he]
        exact withDefaults_versionFile hmem hc happ
      · rw [ht, hm]
        simp only [Function.update_same, ne_eq, reduceCtorEq, not_false_eq_true]
    · rw [hfin _ hm]
      exact withDefaults_versionFile hmem hc happ
  · obtain rfl : created = new := by
      rcases hrun with ⟨e, he⟩ | ⟨t, ht⟩
      · rw [he] at hcr
        cases hcr
      · rw [ht] at hcr
        exact (Except.ok.inj hcr).symm
    exact ⟨hnd, hmem⟩

/-- **A dry run writes nothing** and lists the missing version file of every app component,
once per component. -/
theorem bootstrapReleaseMetadata_dryRun (libs : Libraries) (yaml : YamlLib)
    (components : List ConfigComponent) (manifest defaultVersion : String) (repo : Repo) :
    runScript (bootstrapReleaseMetadata libs yaml components manifest defaultVersion false)
      repo = (.ok (missingVersionFiles repo components), repo) := by
  simp only [bootstrapReleaseMetadata, runScript_bind, runScript_bootstrapLoop_dryRun,
    List.nil_append, Bool.false_eq_true, ↓reduceIte]
  rfl

/-! ## A YAML library for the examples

The examples run the scripts with a stand-in for `yaml.safe_dump` and `yaml.safe_load` that
reads back what it writes. A value is written as a letter for its type, then its parts: numbers
in decimal ended by `;`, a string as its length and the code point of each character, and a list
or a dict as its items, each after a `,`, closed by `]`. Different values are written
differently, and a text the loader cannot read loads as `None`. -/

/-- A number in decimal, then `;`. -/
def encodeNat (n : Nat) : List Char := Nat.toDigits 10 n ++ [';']

/-- A string: `S`, its length, then the code point of each character. -/
def encodeStr (s : String) : List Char :=
  'S' :: encodeNat s.length ++ s.data.flatMap fun c => encodeNat c.toNat

def encodeFloat : PyFloat → List Char
  | .finite q => 'Q' :: (if q < 0 then '-' else '+') :: encodeNat q.num.natAbs ++
      encodeNat q.den
  | .inf => ['P']
  | .negInf => ['M']
  | .nan => ['Z']

mutual
/-- The stand-in `yaml.safe_dump`. -/
def encodeValue : PyVal → List Char
  | .none => ['N']
  | .bool b => [if b then 'T' else 'F']
  | .int i => (if i < 0 then '-' else '+') :: encodeNat i.natAbs
  | .float f => encodeFloat f
  | .str s => encodeStr s
  | .list xs => 'L' :: encodeList xs
  | .dict es => 'D' :: encodeEntries es
def encodeList : List PyVal → List Char
  | [] => [']']
  | x :: xs => ',' :: encodeValue x ++ encodeList xs
def encodeEntries : List (String × PyVal) → List Char
  | [] => [']']
  | (k, v) :: es => ',' :: encodeStr k ++ encodeValue v ++ encodeEntries es
end

/-- A number up to its `;`, and the text after it. -/
def decodeNat : List Char → Nat → Option (Nat × List Char)
  | [], _ => none
  | c :: cs, acc => if c = ';' then some (acc, cs)
    else if c.isDigit then decodeNat cs (10 * acc + (c.toNat - 48)) else none

/-- `n` characters by their code points. -/
def decodeChars : Nat → List Char → Option (List Char × List Char)
  | 0, cs => some ([], cs)
  | n + 1, cs => (decodeNat cs 0).bind fun (code, rest) =>
    (decodeChars n rest).map fun (chars, rest') => (Char.ofNat code :: chars, rest')

def decodeStr (cs : List Char) : Option (String × List Char) :=
  (decodeNat cs 0).bind fun (n, rest) => (decodeChars n rest).map fun (chars, r) => (⟨chars⟩, r)

def decodeFloat (cs : List Char) : Option (PyFloat × List Char) :=
  match cs with
  | sign :: rest => (decodeNat rest 0).bind fun (num, rest) => (decodeNat rest 0).map
      fun (den, rest) => (.finite (mkRat (if sign = '-' then -(num : Int) else num) den), rest)
  | [] => none

mutual
/-- The stand-in `yaml.safe_load`, with `fuel` for the nesting: a character read at least
per call. -/
def decodeValue : Nat → List Char → Option (PyVal × List Char)
  | 0, _ => none
  | _ + 1, [] => none
  | fuel + 1, c :: cs =>
    if c = 'N' then some (.none, cs)
    else if c = 'T' then some (.bool true, cs)
    else if c = 'F' then some (.bool false, cs)
    else if c = '+' then (decodeNat cs 0).map fun (n, r) => (.int n, r)
    else if c = '-' then (decodeNat cs 0).map fun (n, r) => (.int (-n), r)
    else if c = 'Q' then (decodeFloat cs).map fun (f, r) => (.float f, r)
    else if c = 'P' then some (.float .inf, cs)
    else if c = 'M' then some (.float .negInf, cs)
    else if c = 'Z' then some (.float .nan, cs)
    else if c = 'S' then (decodeStr cs).map fun (s, r) => (.str s, r)
    else if c = 'L' then decodeList fuel cs []
    else if c = 'D' then decodeEntries fuel cs []
    else none
def decodeList : Nat → List Char → List PyVal → Option (PyVal × List Char)
  | 0, _, _ => none
  | _ + 1, [], _ => none
  | fuel + 1, c :: cs, acc =>
    if c = ']' then some (.list acc.reverse, cs)
    else if c = ',' then match decodeValue fuel cs with
      | some (v, rest) => decodeList fuel rest (v :: acc)
      | none => none
    else none
def decodeEntries : Nat → List Char → List (String × PyVal) → Option (PyVal × List Char)
  | 0, _, _ => none
  | _ + 1, [], _ => none
  | fuel + 1, c :: cs, acc =>
    if c = ']' then some (.dict acc.reverse, cs)
    else if c = ',' then match cs with
      | 'S' :: cs' => match decodeStr cs' with
        | some (k, rest) => match decodeValue fuel rest with
          | some (v, rest') => decodeEntries fuel rest' ((k, v) :: acc)
          | none => none
        | none => none
      | _ => none
    else none
end

theorem encodeNat_ne_cr (n : Nat) : '\r' ∉ encodeNat n := fun h => by
  rcases List.mem_append.mp h with h | h
  · exact absurd ((toDigits_ten_reads n).2.1 _ h) (by decide)
  · exact absurd h (by decide)

theorem encodeStr_ne_cr (s : String) : '\r' ∉ encodeStr s := by
  simp [encodeStr, encodeNat_ne_cr]

theorem encodeFloat_ne_cr (f : PyFloat) : '\r' ∉ encodeFloat f := by
  cases f <;> simp [encodeFloat, encodeNat_ne_cr]
  split <;> decide

mutual
/-- The stand-in writes no carriage return. -/
theorem encodeValue_ne_cr : ∀ v : PyVal, '\r' ∉ encodeValue v
  | .none => by decide
  | .bool b => by cases b <;> decide
  | .int i => by
    simp only [encodeValue, List.mem_cons, encodeNat_ne_cr, or_false]
    split <;> decide
  | .float f => encodeFloat_ne_cr f
  | .str s => encodeStr_ne_cr s
  | .list xs => by simp [encodeValue, encodeList_ne_cr xs]
  | .dict es => by simp [encodeValue, encodeEntries_ne_cr es]
theorem encodeList_ne_cr : ∀ xs : List PyVal, '\r' ∉ encodeList xs
  | [] => by decide
  | x :: xs => by simp [encodeList, encodeValue_ne_cr x, encodeList_ne_cr xs]
theorem encodeEntries_ne_cr : ∀ es : List (String × PyVal), '\r' ∉ encodeEntries es
  | [] => by decide
  | (k, v) :: es => by
    simp [encodeEntries, encodeStr_ne_cr k, encodeValue_ne_cr v, encodeEntries_ne_cr es]
end

/-- The YAML stand-in of the examples. -/
def textYaml : YamlLib where
  safeLoad text := .ok (((decodeValue (text.length + 1) text.data).map (·.1)).getD .none)
  safeDump v := ⟨encodeValue v⟩
  safeDump_cr := encodeValue_ne_cr

theorem decodeNat_digits : ∀ (ds : List Char) (acc : Nat) (rest : List Char),
    (∀ d ∈ ds, d.isDigit) →
      decodeNat (ds ++ ';' :: rest) acc =
        some (ds.foldl (fun n d => 10 * n + (decimalDigit? d).getD 0) acc, rest)
  | [], acc, rest, _ => by simp [decodeNat]
  | d :: ds, acc, rest, h => by
    have hd := h d (List.mem_cons_self _ _)
    have hne : d ≠ ';' := fun he => absurd (he ▸ hd) (by decide)
    rw [List.cons_append, decodeNat, if_neg hne, if_pos hd, List.foldl_cons,
      decimalDigit?_of_isDigit hd, Option.getD_some,
      decodeNat_digits ds _ rest fun d' hd' => h d' (List.mem_cons_of_mem _ hd')]

theorem decodeNat_encodeNat (n : Nat) (rest : List Char) :
    decodeNat (encodeNat n ++ rest) 0 = some (n, rest) := by
  obtain ⟨-, hdig, hval⟩ := toDigits_ten_reads n
  simp only [decimalValue] at hval
  rw [encodeNat, List.append_assoc, List.singleton_append, decodeNat_digits _ _ _ hdig, hval]

theorem decodeChars_encode (rest : List Char) : ∀ cs : List Char,
    decodeChars cs.length ((cs.flatMap fun c => encodeNat c.toNat) ++ rest) = some (cs, rest)
  | [] => rfl
  | c :: cs => by
    rw [List.length_cons, List.flatMap_cons, List.append_assoc, decodeChars,
      decodeNat_encodeNat]
    simp [decodeChars_encode rest cs]

theorem decodeStr_encodeStr (s : String) (rest : List Char) :
    decodeStr (encodeNat s.length ++ ((s.data.flatMap fun c => encodeNat c.toNat) ++ rest)) =
      some (s, rest) := by
  obtain ⟨cs⟩ := s
  rw [decodeStr, decodeNat_encodeNat, Option.some_bind]
  exact congrArg (Option.map _) (decodeChars_encode rest cs)

theorem decodeFloat_encodeFloat (q : ℚ) (rest : List Char) :
    decodeFloat ((if q < 0 then '-' else '+') ::
      (encodeNat q.num.natAbs ++ (encodeNat q.den ++ rest))) = some (.finite q, rest) := by
  have hnum : (if (if q < 0 then '-' else '+') = '-' then -(q.num.natAbs : Int)
      else q.num.natAbs) = q.num := by
    by_cases h : q < 0
    · have := Rat.num_neg.mpr h
      rw [if_pos h, if_pos rfl, ← Int.natAbs_neg, Int.natAbs_of_nonneg (by omega), neg_neg]
    · have := Rat.num_nonneg.mpr (not_lt.mp h)
      rw [if_neg h, if_neg (by decide), Int.natAbs_of_nonneg this]
  simp only [decodeFloat, decodeNat_encodeNat, Option.bind_eq_bind, Option.some_bind,
    Option.map_some', hnum, Rat.mkRat_self]

mutual
/-- The stand-in reads back every value it writes, followed by any text, given a character of
fuel per character written. -/
theorem decodeValue_encodeValue : ∀ (v : PyVal) (fuel : Nat) (rest : List Char),
    (encodeValue v).length < fuel → decodeValue fuel (encodeValue v ++ rest) = some (v, rest)
  | _, 0, _, h => absurd h (Nat.not_lt_zero _)
  | .none, _ + 1, _, _ => rfl
  | .bool b, _ + 1, _, _ => by cases b <;> rfl
  | .int i, _ + 1, rest, _ => by
    by_cases hi : i < 0
    · have habs : (i.natAbs : Int) = -i := by
        rw [← Int.natAbs_neg, Int.natAbs_of_nonneg (by omega)]
      simp [encodeValue, hi, decodeValue, decodeNat_encodeNat, habs]
    · simp [encodeValue, hi, decodeValue, decodeNat_encodeNat,
        Int.natAbs_of_nonneg (Int.not_lt.mp hi)]
  | .float f, _ + 1, rest, _ => by
    cases f with
    | finite q => simp [encodeValue, encodeFloat, decodeValue, decodeFloat_encodeFloat]
    | _ => rfl
  | .str s, _ + 1, rest, _ => by simp [encodeValue, encodeStr, decodeValue, decodeStr_encodeStr]
  | .list xs, fuel + 1, rest, h => by
    have hl : (encodeList xs).length < fuel := by simpa [encodeValue] using h
    simpa [encodeValue, decodeValue] using decodeList_encodeList xs fuel rest [] hl
  | .dict es, fuel + 1, rest, h => by
    have hl : (encodeEntries es).length < fuel := by simpa [encodeValue] using h
    simpa [encodeValue, decodeValue] using decodeEntries_encodeEntries es fuel rest [] hl
theorem decodeList_encodeList : ∀ (xs : List PyVal) (fuel : Nat) (rest : List Char)
    (acc : List PyVal), (encodeList xs).length < fuel →
      decodeList fuel (encodeList xs ++ rest) acc = some (.list (acc.reverse ++ xs), rest)
  | _, 0, _, _, h => absurd h (Nat.not_lt_zero _)
  | [], _ + 1, _, _, _ => by simp [encodeList, decodeList]
  | x :: xs, fuel + 1, rest, acc, h => by
    have hx : (encodeValue x).length < fuel := by simp [encodeList] at h; omega
    have hxs : (encodeList xs).length < fuel := by simp [encodeList] at h; omega
    simp [encodeList, decodeList, decodeValue_encodeValue x fuel _ hx,
      decodeList_encodeList xs fuel rest (x :: acc) hxs]
theorem decodeEntries_encodeEntries : ∀ (es : List (String × PyVal)) (fuel : Nat)
    (rest : List Char) (acc : List (String × PyVal)), (encodeEntries es).length < fuel →
      decodeEntries fuel (encodeEntries es ++ rest) acc = some (.dict (acc.reverse ++ es), rest)
  | _, 0, _, _, h => absurd h (Nat.not_lt_zero _)
  | [], _ + 1, _, _, _ => by simp [encodeEntries, decodeEntries]
  | (k, v) :: es, fuel + 1, rest, acc, h => by
    have hv : (encodeValue v).length < fuel := by simp [encodeEntries] at h; omega
    have hes : (encodeEntries es).length < fuel := by simp [encodeEntries] at h; omega
    simp [encodeEntries, encodeStr, decodeEntries, decodeStr_encodeStr,
      decodeValue_encodeValue v fuel _ hv, decodeEntries_encodeEntries es fuel rest _ hes]
end

/-- **The stand-in reads back what it writes.** -/
theorem textYaml_load_dump (v : PyVal) : textYaml.safeLoad (textYaml.safeDump v) = .ok v := by
  have h := decodeValue_encodeValue v ((encodeValue v).length + 1) [] (Nat.lt_succ_self _)
  rw [List.append_nil] at h
  show Except.ok (((decodeValue ((encodeValue v).length + 1) (encodeValue v)).map (·.1)).getD
    .none) = _
  rw [h]
  rfl

/-- So different values are written differently. -/
theorem textYaml_safeDump_injective : Function.Injective textYaml.safeDump := fun a b h => by
  have ha := textYaml_load_dump a
  rw [h, textYaml_load_dump] at ha
  exact (Except.ok.inj ha).symm

/-- Two app components that share one `VERSION` file. -/
def sharedVersionComponents : List ConfigComponent :=
  [⟨⟨"web", none, some "app", "VERSION", "plain", []⟩, none⟩,
    ⟨⟨"docs", none, some "app", "VERSION", "plain", []⟩, none⟩]

-- A dry run lists the shared file once per component; a `--write` run creates it once.
example : (runScript (bootstrapReleaseMetadata noLibraries textYaml sharedVersionComponents
    "manifest.yaml" "0.1.0" false) fun _ => none).1 = .ok ["VERSION", "VERSION"] := rfl

example : (runScript (bootstrapReleaseMetadata noLibraries textYaml sharedVersionComponents
    "manifest.yaml" "0.1.0" true) fun _ => none).1 = .ok ["VERSION"] := rfl

/-! ## `update_manifest.py` -/

/-- `component_manifest_entry`. The dict literal is evaluated in order: the version is read
before the source files are digested. -/
def componentManifestEntry (libs : Libraries) (sha256 : List Char → String)
    (component : ConfigComponent) : ScriptM PyVal := do
  let sourceFiles := versionSourceFiles component.toComponent
  let version ← readComponentVersion libs component.toComponent
  let digest ← digestFiles sha256 sourceFiles
  pure (.dict [("scope", optStr component.scope), ("kind", optStr component.kind),
    ("version", version), ("version_sources", .list (sourceFiles.map .str)),
    ("version_sources_digest", .str digest),
    ("artifact", .dict [("publish_dir", optStr component.publishDir)])])

/-- `s.rsplit(".", 1)[1]`: the text after the last dot, `none` for the `IndexError` of a text
without one. -/
def rsplitLast (s : String) : Option String :=
  match (s.data.splitOn '.').reverse with
  | last :: _ :: _ => some ⟨last⟩
  | _ => none

/-- `next_platform_release_id`, with today's `platform-%Y.%m.%d` as `datePrefix`. The `try`
catches the `ValueError` of `int` and the `IndexError` of the split; printing the next counter
comes after it, so its `ValueError` past `maxStrDigits` digits is raised. -/
def nextPlatformReleaseId (datePrefix : String) (existingManifest : PyVal) :
    Except PyExc String := do
  if !existingManifest.truthy then return s!"{datePrefix}.1"
  let current := pyStr (← existingManifest.get "platform_release" (.str ""))
  if !current.startsWith (datePrefix ++ ".") then return s!"{datePrefix}.1"
  match rsplitLast current >>= intOfString with
  | some currentN => do
    let next ← pyIntStr (currentN + 1)
    return s!"{datePrefix}.{next}"
  | none => return s!"{datePrefix}.1"

/-- One turn of the loop of `main`: `manifest_components[name]` for a name of the config. -/
def manifestItem (libs : Libraries) (sha256 : List Char → String)
    (components : List ConfigComponent) (name : String) : ScriptM (String × PyVal) := do
  let some component := configMap components name
    | throw ⟨.keyError, s!"'{name}'"⟩
  let entry ← componentManifestEntry libs sha256 component
  pure (name, entry)

/-- `load_yaml(output_path) if output_path.exists() else None`. -/
def loadExisting (yaml : YamlLib) (output : String) : ScriptM PyVal := do
  match (← get) output with
  | some text => liftExc (yaml.safeLoad (textRead text))
  | none => pure .none

/-- `args.platform_release or next_platform_release_id(existing)`. -/
def chooseRelease (datePrefix : String) (existing : PyVal) (platformRelease : Option String) :
    Except PyExc String :=
  match platformRelease with
  | some arg => if arg.isEmpty then nextPlatformReleaseId datePrefix existing else .ok arg
  | none => nextPlatformReleaseId datePrefix existing

/-- `main` of `update_manifest.py` from the config's components on. `generatedAt` and
`gitSha` are what the clock and `git rev-parse HEAD` give, and `platformRelease` is
`--platform-release`. -/
def updateManifest (libs : Libraries) (yaml : YamlLib) (sha256 : List Char → String)
    (datePrefix generatedAt gitSha : String) (components : List ConfigComponent)
    (output : String) (platformRelease : Option String) : ScriptM Unit := do
  let existing ← loadExisting yaml output
  let manifestComponents ← (sortedNames (components.map (·.name)).dedup).mapM
    (manifestItem libs sha256 components)
  let platformRelease ← liftExc (chooseRelease datePrefix existing platformRelease)
  writeText output (yaml.safeDump (.dict [("schema_version", .int 2),
    ("generated_at", .str generatedAt), ("platform_release", .str platformRelease),
    ("git_sha", .str gitSha), ("components", .dict manifestComponents)]))

section Update

variable {libs : Libraries} {sha256 : List Char → String} {components : List ConfigComponent}

theorem loadExisting_readOnly (yaml : YamlLib) (output : String) :
    ReadOnly (loadExisting yaml output) :=
  ReadOnly.get_bind fun r => by
    split
    · exact readOnly_liftExc _
    · exact readOnly_pure _

theorem digestFiles_readOnly (relFiles : List String) : ReadOnly (digestFiles sha256 relFiles) :=
  ReadOnly.get_bind fun _ => (readOnly_liftExc _).bind fun _ => readOnly_pure _

theorem manifestItem_readOnly (name : String) :
    ReadOnly (manifestItem libs sha256 components name) := by
  unfold manifestItem
  split
  · exact (readComponentVersion_readOnly.bind fun _ => (digestFiles_readOnly _).bind
      fun _ => readOnly_pure _).bind fun _ => readOnly_pure _
  · exact readOnly_throw _

theorem componentManifestEntry_ok {component : ConfigComponent} {entry : PyVal}
    {repo repo' : Repo}
    (h : runScript (componentManifestEntry libs sha256 component) repo = (.ok entry, repo')) :
    ∃ version rest, (runScript (readComponentVersion libs component.toComponent) repo).1 =
      .ok version ∧ entry = .dict (("scope", optStr component.scope) ::
        ("kind", optStr component.kind) :: ("version", version) :: rest) := by
  unfold componentManifestEntry at h
  obtain ⟨version, r₁, hread, h⟩ := runScript_bind_ok h
  obtain ⟨digest, r₂, -, h⟩ := runScript_bind_ok h
  rw [runScript_pure, Prod.mk.injEq, Except.ok.injEq] at h
  obtain ⟨rfl, -⟩ := h
  exact ⟨version, _, by rw [hread], rfl⟩

theorem mem_configNames {name : String} :
    name ∈ sortedNames (components.map (·.name)).dedup ↔ (configMap components name).isSome := by
  rw [sortedNames, (List.perm_insertionSort _ _).mem_iff]
  simp only [List.mem_dedup, List.mem_map, configMap, List.find?_isSome, List.mem_reverse,
    beq_iff_eq]

theorem manifestItem_ok {name : String} {item : String × PyVal} {repo repo' : Repo}
    (h : runScript (manifestItem libs sha256 components name) repo = (.ok item, repo')) :
    ∃ component, configMap components name = some component ∧ item.1 = name ∧
      runScript (componentManifestEntry libs sha256 component) repo = (.ok item.2, repo') := by
  unfold manifestItem at h
  split at h
  · next component hc =>
    obtain ⟨entry, r₁, hentry, h⟩ := runScript_bind_ok h
    rw [runScript_pure, Prod.mk.injEq, Except.ok.injEq] at h
    obtain ⟨rfl, rfl⟩ := h
    exact ⟨component, hc, rfl, hentry⟩
  · cases h

/-- After the loop of `update_manifest.py`, the first item under a name of the config was made
from that name's component on the repository the loop started with. -/
theorem find?_manifestItems {items : List (String × PyVal)} {repo : Repo} {name : String}
    (hall : ∀ x ∈ sortedNames (components.map (·.name)).dedup,
      ∃ y ∈ items, runScript (manifestItem libs sha256 components x) repo = (.ok y, repo))
    (hback : ∀ y ∈ items, ∃ x, runScript (manifestItem libs sha256 components x) repo = (.ok y, repo))
    (hname : name ∈ sortedNames (components.map (·.name)).dedup) :
    ∃ component entry, configMap components name = some component ∧
      items.find? (·.1 == name) = some (name, entry) ∧
      runScript (componentManifestEntry libs sha256 component) repo = (.ok entry, repo) := by
  obtain ⟨item, hitem, hrun⟩ := hall _ hname
  obtain ⟨-, -, hfst, -⟩ := manifestItem_ok hrun
  obtain ⟨⟨k, e⟩, hp⟩ : ∃ p, items.find? (·.1 == name) = some p :=
    Option.isSome_iff_exists.1 (List.find?_isSome.2 ⟨item, hitem, by simp [hfst]⟩)
  obtain rfl : k = name := by simpa using List.find?_some hp
  obtain ⟨x, hx⟩ := hback _ (List.mem_of_find?_eq_some hp)
  obtain ⟨comp, hcomp, rfl, hentry⟩ := manifestItem_ok hx
  exact ⟨comp, e, hcomp, hp, hentry⟩

/-- A run of `update_manifest.py` that returns: it read on the repository it started with and
wrote the manifest of the loop's items. -/
theorem updateManifest_ok {yaml : YamlLib} {datePrefix generatedAt gitSha output : String}
    {platformRelease : Option String} {repo repo' : Repo}
    (h : runScript (updateManifest libs yaml sha256 datePrefix generatedAt gitSha components output
      platformRelease) repo = (.ok (), repo')) :
    ∃ items release, repo' = Function.update repo output (some (yaml.safeDump (.dict
        [("schema_version", .int 2), ("generated_at", .str generatedAt),
          ("platform_release", .str release), ("git_sha", .str gitSha),
          ("components", .dict items)]))) ∧
      (∀ x ∈ sortedNames (components.map (·.name)).dedup,
        ∃ y ∈ items, runScript (manifestItem libs sha256 components x) repo = (.ok y, repo)) ∧
      ∀ y ∈ items, ∃ x, runScript (manifestItem libs sha256 components x) repo = (.ok y, repo) := by
  unfold updateManifest at h
  obtain ⟨existing, r₁, hex, h₁⟩ := runScript_bind_ok h
  obtain rfl : r₁ = repo := by simpa only [hex] using loadExisting_readOnly yaml output repo
  obtain ⟨items, r₂, hitems, h₂⟩ := runScript_bind_ok h₁
  obtain ⟨rfl, hpairs⟩ := runScript_mapM_forall₂ (fun _ => manifestItem_readOnly _) hitems
  obtain ⟨hall, hback⟩ := forall₂_partners hpairs
  obtain ⟨release, r₃, hrel, h₃⟩ := runScript_bind_ok h₂
  obtain ⟨-, rfl⟩ := runScript_liftExc_ok hrel
  rw [runScript_writeText, Prod.mk.injEq] at h₃
  exact ⟨items, release, h₃.2.symm, hall, fun y hy => (hback y hy).imp fun _ h => h.2⟩

/-- A run of `update_manifest.py` whose steps return writes the manifest of the loop's items and
the chosen release id. -/
theorem runScript_updateManifest {yaml : YamlLib} {datePrefix generatedAt gitSha output : String}
    {platformRelease : Option String} {repo : Repo} {existing : PyVal}
    {items : List (String × PyVal)} {release : String}
    (hex : runScript (loadExisting yaml output) repo = (.ok existing, repo))
    (hitems : runScript ((sortedNames (components.map (·.name)).dedup).mapM
      (manifestItem libs sha256 components)) repo = (.ok items, repo))
    (hrel : chooseRelease datePrefix existing platformRelease = .ok release) :
    runScript (updateManifest libs yaml sha256 datePrefix generatedAt gitSha components output
      platformRelease) repo = (.ok (), Function.update repo output (some (yaml.safeDump (.dict
        [("schema_version", .int 2), ("generated_at", .str generatedAt),
          ("platform_release", .str release), ("git_sha", .str gitSha),
          ("components", .dict items)])))) := by
  rw [updateManifest, runScript_bind_of_ok hex, runScript_bind_of_ok hitems,
    runScript_bind_of_ok ((runScript_liftExc _ _).trans (by rw [hrel]))]
  exact runScript_writeText _ _ _

end Update

/-- **The manifest records the bump**: after a `bump_component.py` run has written a version
to a component that reads back what is written to it, an `update_manifest.py` run that
returns writes a manifest whose entry for that component holds that version. -/
theorem updateManifest_records_bump (libs : Libraries) (yaml : YamlLib)
    (sha256 : List Char → String) (datePrefix generatedAt gitSha output : String)
    (platformRelease : Option String) (components : List ConfigComponent) (value bump : String)
    (repo repo₁ repo₂ : Repo) (result : BumpResult)
    (hbump : runScript (bumpComponent libs (components.map (·.toComponent)) value bump false)
      repo = (.ok result, repo₁))
    (hround : ∀ c, componentMap (components.map (·.toComponent)) result.name = some c →
      RoundTrips libs c)
    (hman : runScript (updateManifest libs yaml sha256 datePrefix generatedAt gitSha components
      output platformRelease) repo₁ = (.ok (), repo₂)) :
    ∃ manifest entry, repo₂ output = some (yaml.safeDump manifest) ∧
      (manifest.getItem "components" >>= (·.getItem result.name)) = .ok entry ∧
      entry.getItem "version" = .ok (.str result.nextVersion) := by
  obtain ⟨c, hc, hv, -, ⟨hdry, -⟩ | ⟨-, hw⟩⟩ := bumpComponent_ok hbump
  · cases hdry
  have hread := readComponentVersion_after_write (hround c hc) hv hw
  rw [componentMap_map_toComponent] at hc
  obtain ⟨cc, hcc, rfl⟩ := Option.map_eq_some'.1 hc
  obtain ⟨items, release, rfl, hall, hback⟩ := updateManifest_ok hman
  obtain ⟨comp, entry, hcomp, hp, hentry⟩ :=
    find?_manifestItems hall hback (mem_configNames.2 (by rw [hcc]; rfl))
  obtain rfl : cc = comp := Option.some.inj (hcc.symm.trans hcomp)
  obtain ⟨version, rest, hver, rfl⟩ := componentManifestEntry_ok hentry
  rw [hread] at hver
  obtain rfl := Except.ok.inj hver
  refine ⟨_, .dict (("scope", optStr cc.scope) :: ("kind", optStr cc.kind) ::
    ("version", .str result.nextVersion) :: rest), Function.update_same _ _ _, ?_, rfl⟩
  show (PyVal.dict items).getItem result.name = _
  simp only [PyVal.getItem, hp]

theorem updateManifest_records_bump_web :
    let bumped := runScript
      (bumpComponent noLibraries (appComponents.map (·.toComponent)) "web" "minor" false) appRepo
    let updated := runScript (updateManifest noLibraries textYaml String.mk "platform-2026.11.09"
      "2026-11-09T00:00:00Z" "0123abc" appComponents "manifest.yaml" none) bumped.2
    bumped = (.ok ⟨"web", none, some "app", "minor", .str "2.0.1", "2.1.0", ["web/VERSION"]⟩, bumped.2) ∧
    (∀ c, componentMap (appComponents.map (·.toComponent)) "web" = some c →
      RoundTrips noLibraries c) ∧
    updated = (.ok (), updated.2) ∧
    ∃ manifest entry, updated.2 "manifest.yaml" = some (textYaml.safeDump manifest) ∧
      (manifest.getItem "components" >>= (·.getItem "web")) = .ok entry ∧
      entry.getItem "version" = .ok (.str "2.1.0") :=
  have hbump : runScript (bumpComponent noLibraries (appComponents.map (·.toComponent)) "web"
      "minor" false) appRepo = (.ok ⟨"web", none, some "app", "minor", .str "2.0.1", "2.1.0", ["web/VERSION"]⟩, _) :=
    Prod.ext rfl rfl
  have hround : ∀ c, componentMap (appComponents.map (·.toComponent)) "web" = some c →
      RoundTrips noLibraries c := fun c hc => by
    cases hc
    exact ⟨by decide, .inr (.inl rfl)⟩
  have hman : runScript (updateManifest noLibraries textYaml String.mk "platform-2026.11.09"
      "2026-11-09T00:00:00Z" "0123abc" appComponents "manifest.yaml" none)
      (runScript (bumpComponent noLibraries (appComponents.map (·.toComponent)) "web" "minor"
        false) appRepo).2 = (.ok (), _) :=
    Prod.ext rfl rfl
  ⟨hbump, hround, hman, updateManifest_records_bump _ _ _ _ _ _ _ _ _ _ _ _ _ _ _ hbump hround hman⟩

/-! ## `validate_manifest` of `check_version_sync.py` -/

/-- `source != manifest` for a config value that is a string or missing: `None` equals only
`None`, and a string only a string of the same text. -/
def optStrNe : Option String → PyVal → Bool
  | none, .none => false
  | some s, .str t => s != t
  | _, _ => true

/-- The check `"components" not in manifest or not isinstance(manifest["components"], dict)`:
the components map, or `none` when the check fails. `in` on `None`, a boolean or a number
raises `TypeError`. A list holding the string `"components"`, or a string holding it as a
substring, passes `in`, and then `manifest["components"]` raises `TypeError`. -/
def manifestComponentsMap : PyVal → Except PyExc (Option (List (String × PyVal)))
  | .dict es => .ok (match (es.find? (·.1 == "components")).map (·.2) with
    | some (PyVal.dict cs) => some cs
    | _ => none)
  | .none => .error ⟨.typeError, "argument of type 'NoneType' is not iterable"⟩
  | .bool _ => .error ⟨.typeError, "argument of type 'bool' is not iterable"⟩
  | .int _ => .error ⟨.typeError, "argument of type 'int' is not iterable"⟩
  | .float _ => .error ⟨.typeError, "argument of type 'float' is not iterable"⟩
  | .list xs => if xs.any (·.eqStr "components") then
      .error ⟨.typeError, "list indices must be integers or slices, not str"⟩ else .ok none
  | .str s => if "components".data <:+: s.data then
      .error ⟨.typeError, "string indices must be integers, not 'str'"⟩ else .ok none

/-- The three comparisons of `validate_manifest` for a component whose manifest entry is
truthy: version, scope and kind. -/
def entryErrors (name : String) (component : ConfigComponent) (sourceVersion manifestComponent : PyVal) :
    Except PyExc (List String) := do
  let manifestVersion := pyStr (← manifestComponent.get "version" (.str ""))
  let sourceScope := optStr component.scope
  let manifestScope ← manifestComponent.get "scope" .none
  let sourceKind := optStr component.kind
  let manifestKind ← manifestComponent.get "kind" .none
  return (if sourceVersion.eqStr manifestVersion then [] else
      [s!"manifest version mismatch for {name}: source={pyStr sourceVersion}, manifest={manifestVersion}"]) ++
    (if optStrNe component.scope manifestScope then
      [s!"manifest scope mismatch for {name}: source={pyStr sourceScope}, manifest={pyStr manifestScope}"]
      else []) ++
    (if optStrNe component.kind manifestKind then
      [s!"manifest kind mismatch for {name}: source={pyStr sourceKind}, manifest={pyStr manifestKind}"]
      else [])

/-- The checks of one component in the loop of `validate_manifest`: its entry must be truthy,
then the version is read from the source and compared. -/
def manifestComponentErrors (libs : Libraries) (manifestComponents : List (String × PyVal))
    (name : String) (component : ConfigComponent) : ScriptM (List String) := do
  let manifestComponent ← liftExc ((PyVal.dict manifestComponents).get name .none)
  if !manifestComponent.truthy then return [s!"manifest missing component: {name}"]
  else
    let sourceVersion ← readComponentVersion libs component.toComponent
    liftExc (entryErrors name component sourceVersion manifestComponent)

/-- One turn of the loop of `validate_manifest`, over the sorted names of the config. -/
def manifestCheck (libs : Libraries) (components : List ConfigComponent)
    (manifestComponents : List (String × PyVal)) (name : String) : ScriptM (List String) := do
  let some component := configMap components name
    | throw ⟨.keyError, s!"'{name}'"⟩
  manifestComponentErrors libs manifestComponents name component

/-- `validate_manifest`. -/
def validateManifest (libs : Libraries) (yaml : YamlLib) (components : List ConfigComponent)
    (manifestPath : String) : ScriptM (List String) := do
  let some text := (← get) manifestPath
    | return [s!"manifest file does not exist: {manifestPath}"]
  let manifest ← liftExc (yaml.safeLoad (textRead text))
  let some manifestComponents ← liftExc (manifestComponentsMap manifest)
    | return [s!"manifest missing components map: {manifestPath}"]
  let errors ← (sortedNames (components.map (·.name)).dedup).mapM
    (manifestCheck libs components manifestComponents)
  return errors.flatten

section Validate

variable {libs : Libraries} {components : List ConfigComponent}

theorem configMap_eq_some {name : String} {c : ConfigComponent}
    (h : configMap components name = some c) : c ∈ components ∧ c.name = name :=
  ⟨List.mem_reverse.mp (List.mem_of_find?_eq_some h), by simpa using List.find?_some h⟩

theorem optStrNe_optStr (s : Option String) : optStrNe s (optStr s) = false := by
  cases s <;> simp [optStrNe, optStr]

/-- A loop whose every turn returns the same value and writes nothing. -/
theorem runScript_mapM_const {α β : Type} {f : α → ScriptM β} {b : β} {r : Repo} :
    ∀ {xs : List α}, (∀ x ∈ xs, runScript (f x) r = (.ok b, r)) →
      runScript (xs.mapM f) r = (.ok (xs.map fun _ => b), r)
  | [], _ => rfl
  | x :: xs, h => by
    rw [List.mapM_cons, runScript_bind, h x (List.mem_cons_self _ _)]
    dsimp only
    rw [runScript_bind, runScript_mapM_const fun y hy => h y (List.mem_cons_of_mem _ hy)]
    rfl

/-- A manifest entry as `update_manifest.py` makes it passes the checks, when the version read
is the string it records. -/
theorem manifestComponentErrors_entry {items : List (String × PyVal)} {name s : String}
    {component : ConfigComponent} {rest : List (String × PyVal)} {r : Repo}
    (hp : items.find? (·.1 == name) = some (name, .dict (("scope", optStr component.scope) ::
      ("kind", optStr component.kind) :: ("version", .str s) :: rest)))
    (hread : runScript (readComponentVersion libs component.toComponent) r = (.ok (.str s), r)) :
    runScript (manifestComponentErrors libs items name component) r = (.ok [], r) := by
  have hget : (PyVal.dict items).get name .none = .ok (.dict (("scope", optStr component.scope) ::
      ("kind", optStr component.kind) :: ("version", .str s) :: rest)) := by
    simp [PyVal.get, hp]
  unfold manifestComponentErrors
  rw [runScript_bind, runScript_liftExc, hget]
  dsimp only
  rw [if_neg (by simp [PyVal.truthy]), runScript_bind, hread]
  dsimp only
  rw [runScript_liftExc]
  simp [entryErrors, PyVal.get, except_ok_bind, optStrNe_optStr, pyStr]

end Validate

/-- The manifest `update_manifest.py` wrote passes `validate_manifest` when YAML reads it back,
when the component `component_map` keeps under each name reads a string version: on every
repository that holds that manifest and the version files the update read. -/
theorem validateManifest_after_update {libs : Libraries} {yaml : YamlLib}
    {sha256 : List Char → String} {datePrefix generatedAt gitSha output : String}
    {platformRelease : Option String} {components : List ConfigComponent} {repo repo' : Repo}
    (hrun : runScript (updateManifest libs yaml sha256 datePrefix generatedAt gitSha components
      output platformRelease) repo = (.ok (), repo'))
    (hstr : ∀ name c, configMap components name = some c → ∀ v,
      (runScript (readComponentVersion libs c.toComponent) repo).1 = .ok v → ∃ s, v = .str s) :
    ∃ manifest, repo' output = some (yaml.safeDump manifest) ∧
      (yaml.safeLoad (yaml.safeDump manifest) = .ok manifest → ∀ r : Repo,
        r output = repo' output → (∀ c ∈ components, r c.versionFile = repo c.versionFile) →
        runScript (validateManifest libs yaml components output) r = (.ok [], r)) := by
  obtain ⟨items, release, rfl, hall, hback⟩ := updateManifest_ok hrun
  refine ⟨_, Function.update_same _ _ _, fun hload r hr hfiles => ?_⟩
  -- Every turn of the check's loop finds the entry the update made, and reports nothing.
  have hturn : ∀ r : Repo, (∀ c ∈ components, r c.versionFile = repo c.versionFile) →
      ∀ name ∈ sortedNames (components.map (·.name)).dedup,
        runScript (manifestCheck libs components items name) r = (.ok [], r) :=
    fun r hr name hname => by
      obtain ⟨comp, entry, hcomp, hp, hentry⟩ := find?_manifestItems hall hback hname
      obtain ⟨version, rest, hver, rfl⟩ := componentManifestEntry_ok hentry
      obtain ⟨s, rfl⟩ := hstr name comp hcomp _ hver
      unfold manifestCheck
      rw [hcomp]
      refine manifestComponentErrors_entry hp (Prod.ext ?_ (readComponentVersion_readOnly _))
      rw [← hver]
      refine readComponentVersion_readsFrom _ _ fun p hp => ?_
      rw [List.mem_singleton.1 hp]
      exact hr comp (configMap_eq_some hcomp).1
  unfold validateManifest
  rw [runScript_get_bind, hr, Function.update_same]
  simp only [runScript_bind, runScript_liftExc, yaml.textRead_safeDump, hload]
  rw [show manifestComponentsMap (.dict [("schema_version", .int 2),
    ("generated_at", .str generatedAt), ("platform_release", .str release),
    ("git_sha", .str gitSha), ("components", .dict items)]) = .ok (some items) from rfl]
  dsimp only
  rw [runScript_bind, runScript_mapM_const (hturn r hfiles)]
  simp [runScript_pure]

/-- **`check_version_sync.py --manifest` accepts the manifest `update_manifest.py` wrote**,
when YAML reads it back: every component of the config is there, with its scope, its kind and
the version its version file holds. This needs every version to read as a string, which
`str(...)` in the check compares it with, and the manifest not to be a primary version file. -/
theorem updateManifest_passes_validateManifest (libs : Libraries) (yaml : YamlLib)
    (sha256 : List Char → String) (datePrefix generatedAt gitSha output : String)
    (platformRelease : Option String) (components : List ConfigComponent) (repo repo' : Repo)
    (hrun : runScript (updateManifest libs yaml sha256 datePrefix generatedAt gitSha components
      output platformRelease) repo = (.ok (), repo'))
    (hout : ∀ c ∈ components, c.versionFile ≠ output)
    (hstr : ∀ c ∈ components, ∀ v,
      (runScript (readComponentVersion libs c.toComponent) repo).1 = .ok v → ∃ s, v = .str s) :
    ∃ manifest, repo' output = some (yaml.safeDump manifest) ∧
      (yaml.safeLoad (yaml.safeDump manifest) = .ok manifest →
        runScript (validateManifest libs yaml components output) repo' = (.ok [], repo')) := by
  obtain ⟨manifest, hwritten, hpass⟩ :=
    validateManifest_after_update hrun fun _ c hc => hstr c (configMap_eq_some hc).1
  obtain ⟨items, release, hrepo, -, -⟩ := updateManifest_ok hrun
  exact ⟨manifest, hwritten, fun hload => hpass hload repo' rfl fun c hc => by
    rw [hrepo]
    exact Function.update_noteq (hout c hc) _ _⟩

theorem updateManifest_passes_validateManifest_web :
    let updated := runScript (updateManifest noLibraries textYaml String.mk "platform-2026.11.09"
      "2026-11-09T00:00:00Z" "0123abc" appComponents "manifest.yaml" none) appRepo
    updated = (.ok (), updated.2) ∧ (∀ c ∈ appComponents, c.versionFile ≠ "manifest.yaml") ∧
    (∀ c ∈ appComponents, ∀ v,
      (runScript (readComponentVersion noLibraries c.toComponent) appRepo).1 = .ok v →
        ∃ s, v = .str s) ∧
    ∃ manifest, updated.2 "manifest.yaml" = some (textYaml.safeDump manifest) ∧
      runScript (validateManifest noLibraries textYaml appComponents "manifest.yaml") updated.2 =
        (.ok [], updated.2) :=
  have hrun : runScript (updateManifest noLibraries textYaml String.mk "platform-2026.11.09"
      "2026-11-09T00:00:00Z" "0123abc" appComponents "manifest.yaml" none) appRepo =
      (.ok (), _) := Prod.ext rfl rfl
  have hout : ∀ c ∈ appComponents, c.versionFile ≠ "manifest.yaml" := by decide
  have hstr : ∀ c ∈ appComponents, ∀ v,
      (runScript (readComponentVersion noLibraries c.toComponent) appRepo).1 = .ok v →
        ∃ s, v = .str s := by
    intro c hc v hv
    rw [List.mem_singleton.1 hc] at hv
    cases hv
    exact ⟨_, rfl⟩
  let ⟨manifest, hwritten, hpass⟩ :=
    updateManifest_passes_validateManifest _ _ _ _ _ _ _ _ _ _ _ hrun hout hstr
  ⟨hrun, hout, hstr, manifest, hwritten, hpass (textYaml_load_dump manifest)⟩

end Tentacle.Release
