import Tentacle.Release.Manifest

/-!
# Platform release ids

`update_manifest.py` names every manifest with a platform release id
`platform-YYYY.MM.DD.<n>`. Without `--platform-release`, `next_platform_release_id` reads the
counter `n` of the existing manifest's id back with `int(current.rsplit(".", 1)[1])` and
writes `n + 1`, and starts every other day at `1`. The counter it writes is printed by `str`
and read by `int`, so what this module proves rests on the round trip `int(str(k)) == k`
(`intOfString_toString`), which holds for every integer of at most `maxStrDigits` digits.

The first section proves the facts about Lean's `String` functions that the models of
`str.startswith` and `str.rsplit` rest on, stated on `⟨l ++ m ++ r⟩` at byte position
`utf8Len l` in the manner of the library's own position lemmas.

## Main results

* `nextPlatformReleaseId_same_day` — after a same-day id with counter `k`, the next id has
  counter `k + 1`; at `k = 10 ^ 4300 - 1` printing the next counter raises.
* `nextPlatformReleaseId_fresh` — the next id is never the id the existing manifest holds.
* `updateManifest_fresh_release` — an `update_manifest.py` run without `--platform-release`
  writes a manifest whose release id is not the one it replaced.
-/

namespace Tentacle.Release

open String (utf8Len)

/-! ## `str.startswith` and `str.rsplit` -/

theorem substrEq_loop_of_valid (r₁ r₂ : List Char) : ∀ (l₁ l₂ m : List Char),
    String.substrEq.loop ⟨l₁ ++ m ++ r₁⟩ ⟨l₂ ++ m ++ r₂⟩ ⟨utf8Len l₁⟩ ⟨utf8Len l₂⟩
      ⟨utf8Len l₁ + utf8Len m⟩ = true
  | l₁, l₂, [] => by unfold String.substrEq.loop; simp
  | l₁, l₂, c :: m => by
    unfold String.substrEq.loop
    rw [dif_pos (by simp [Char.utf8Size_pos])]
    simp only [List.append_assoc, List.cons_append, String.get_of_valid, List.headD_cons,
      beq_self_eq_true, Bool.true_and, String.Pos.addChar_eq]
    simpa [Nat.add_assoc, Nat.add_comm (utf8Len m)] using
      substrEq_loop_of_valid r₁ r₂ (l₁ ++ [c]) (l₂ ++ [c]) m

/-- `str.startswith` holds of a text and any of its prefixes. -/
theorem startsWith_append (p q : String) : (p ++ q).startsWith p = true := by
  have h₁ := (String.validFor_toSubstring (p ++ q)).take p.length
  have h₂ := String.validFor_toSubstring p
  have htake : List.take p.length (p ++ q).data = p.data := List.take_left _ _
  rw [htake] at h₁
  show Substring.beq _ _ = true
  rw [Substring.beq, h₁.bsize, h₂.bsize, h₁.str, h₂.str, h₁.startPos, h₂.startPos]
  rw [beq_self_eq_true, Bool.true_and, String.substrEq, substrEq_loop_of_valid]
  simp

/-- Splitting a list that ends in a separator and a run without one leaves that run as the
last block, after at least one other. -/
theorem splitOnP_append_sep {α : Type} {p : α → Bool} {sep : α} (hsep : p sep = true)
    {ys : List α} (hys : ∀ y ∈ ys, p y = false) :
    ∀ xs : List α, ∃ front, (xs ++ sep :: ys).splitOnP p = front ++ [ys] ∧ front ≠ []
  | [] => ⟨[[]], by
      rw [List.nil_append, List.splitOnP_cons, if_pos hsep,
        List.splitOnP_eq_single _ _ fun y hy => by simp [hys y hy]]
      rfl, List.cons_ne_nil _ _⟩
  | x :: xs => by
    obtain ⟨front, hf, hne⟩ := splitOnP_append_sep hsep hys xs
    rw [List.cons_append, List.splitOnP_cons, hf]
    split
    · exact ⟨[] :: front, rfl, List.cons_ne_nil _ _⟩
    · obtain ⟨f, fs, rfl⟩ := List.exists_cons_of_ne_nil hne
      exact ⟨(x :: f) :: fs, rfl, List.cons_ne_nil _ _⟩

/-- `s.rsplit(".", 1)[1]` of a text ending in a dot and a dot-free tail is that tail. -/
theorem rsplitLast_append {pre t : String} (ht : '.' ∉ t.data) :
    rsplitLast (pre ++ "." ++ t) = some t := by
  obtain ⟨front, hf, hne⟩ := splitOnP_append_sep (p := (· == '.')) (beq_self_eq_true '.')
    (fun y hy => beq_false_of_ne fun h => ht (h ▸ hy)) pre.data
  obtain ⟨f, fs, hrev⟩ := List.exists_cons_of_ne_nil (List.reverse_ne_nil_iff.2 hne)
  have hdata : (pre ++ "." ++ t).data = pre.data ++ '.' :: t.data := by simp
  rw [rsplitLast, hdata, show List.splitOn '.' (pre.data ++ '.' :: t.data) = front ++ [t.data]
    from hf, List.reverse_append, hrev]
  rfl

/-- `str(k)` has no dot. -/
theorem dot_not_mem_toString : ∀ k : Int, '.' ∉ (toString k).data
  | .ofNat n => fun h => absurd ((toDigits_ten_reads n).2.1 '.' h) (by decide)
  | .negSucc m => fun h => by
    rcases List.mem_cons.1 h with h | h
    · exact absurd h (by decide)
    · exact absurd ((toDigits_ten_reads (m + 1)).2.1 '.' h) (by decide)

/-! ## Release ids -/

/-- A release id of `next_platform_release_id` reads back its own counter, when `int()`
reads a counter of that many digits. -/
theorem counter_of_release (datePrefix : String) (k : Int) :
    (rsplitLast (datePrefix ++ "." ++ toString k)).bind intOfString =
      if k.natAbs < 10 ^ maxStrDigits then some k else none := by
  rw [rsplitLast_append (dot_not_mem_toString k)]
  exact intOfString_toString k

/-- A counter below ten has fewer digits than `int()` and `str()` refuse. -/
theorem lt_limit_of_lt_ten {n : Nat} (h : n < 10) : n < 10 ^ maxStrDigits :=
  h.trans_le (Nat.le_self_pow (by decide) 10)

/-- `str(n)` returned: `n` has at most `maxStrDigits` digits. -/
theorem pyIntStr_ok {n : Int} {s : String} (h : pyIntStr n = .ok s) :
    s = toString n ∧ n.natAbs < 10 ^ maxStrDigits := by
  by_cases hn : n.natAbs < 10 ^ maxStrDigits
  · rw [pyIntStr_of_lt hn] at h
    exact ⟨(Except.ok.inj h).symm, hn⟩
  · rw [pyIntStr_of_le (Nat.not_lt.mp hn)] at h
    cases h

/-- A manifest that has `get` and records a non-empty id is truthy. -/
theorem truthy_of_get_nonempty {existing : PyVal} {s : String} (hs : s ≠ "")
    (hget : existing.get "platform_release" (.str "") = .ok (.str s)) : existing.truthy = true := by
  cases existing <;> try cases hget
  rename_i es
  cases es with
  | nil => exact absurd (PyVal.str.inj (Except.ok.inj hget)).symm hs
  | cons => rfl

/-- **The next id is fresh**: whatever the existing manifest is, the id
`next_platform_release_id` returns is not the `platform_release` it recorded. An empty manifest
records `""`; an id of another day does not start with the prefix; an id of the same day has
its counter read back and raised; an unreadable counter is replaced by `1`, which reads. -/
theorem nextPlatformReleaseId_fresh {datePrefix release : String} {existing current : PyVal}
    (hget : existing.get "platform_release" (.str "") = .ok current)
    (h : nextPlatformReleaseId datePrefix existing = .ok release) : release ≠ pyStr current := by
  have hone : datePrefix ++ ".1" = datePrefix ++ "." ++ toString (1 : Int) := by
    rw [String.append_assoc]; rfl
  have hone_reads : (rsplitLast (datePrefix ++ ".1")).bind intOfString = some 1 := by
    rw [hone, counter_of_release, if_pos (lt_limit_of_lt_ten (by decide))]
  unfold nextPlatformReleaseId at h
  simp only [toString_string, String.empty_append, String.append_empty] at h
  split at h
  · -- A falsy manifest that has `get` is the empty mapping: the old id reads as `""`.
    rename_i hfalsy
    cases existing <;> try cases hget
    rename_i es
    cases es with
    | nil =>
      cases h
      intro h
      simpa [pyStr] using congrArg String.data h
    | cons => simp [PyVal.truthy] at hfalsy
  · intro hrel
    simp only [hget, bind, Except.bind, pure, Except.pure] at h
    rw [← hrel] at h
    split at h
    · -- `P.1` starts with `P.`
      injection h with h
      rename_i hs
      rw [← h, hone, startsWith_append] at hs
      exact absurd hs (by decide)
    split at h
    · -- the old counter `n` would read back as `n + 1`
      rename_i n hn
      obtain ⟨next, hnext, h⟩ := bind_eq_ok h
      obtain ⟨rfl, hlt⟩ := pyIntStr_ok hnext
      injection h with h
      rw [← h, counter_of_release, if_pos hlt] at hn
      injection hn
      omega
    · -- `P.1` reads back the counter 1
      rename_i hn
      injection h with h
      rw [← h, hone_reads] at hn
      cases hn

/-- On a manifest that records the day's prefix, a dot and `str(k)`, `next_platform_release_id`
reads the counter back with `int()` and prints the next one with `str()`. -/
theorem nextPlatformReleaseId_of_same_day {datePrefix : String} {existing : PyVal} (k : Int)
    (hget : existing.get "platform_release" (.str "") =
      .ok (.str (datePrefix ++ "." ++ toString k))) :
    nextPlatformReleaseId datePrefix existing =
      if k.natAbs < 10 ^ maxStrDigits then
        (pyIntStr (k + 1)).map fun next => datePrefix ++ "." ++ next
      else .ok (datePrefix ++ ".1") := by
  have hne : datePrefix ++ "." ++ toString k ≠ "" := fun h => by
    have hlen := congrArg String.length h
    rw [String.length_append, String.length_append] at hlen
    exact absurd hlen (by have : ".".length = 1 := rfl; have : "".length = 0 := rfl; omega)
  unfold nextPlatformReleaseId
  simp only [truthy_of_get_nonempty hne hget, hget, toString_string, String.empty_append,
    String.append_empty, pyStr, startsWith_append, counter_of_release, bind, Except.bind, pure,
    Except.pure, Bool.not_true, Bool.false_eq_true, if_false]
  split_ifs
  · dsimp only
    cases pyIntStr (k + 1) <;> rfl
  · rfl

/-- **`next_platform_release_id` counts the releases of a day**: after a manifest whose
`platform_release` is the day's prefix with counter `k`, the next id has counter `k + 1`. A
counter of more than `maxStrDigits` digits is one `int()` refuses, and the day starts again at
`1`; at `k = 10 ^ maxStrDigits - 1` the next counter is one digit too long for `str()`, which
raises. -/
theorem nextPlatformReleaseId_same_day {datePrefix : String} {existing : PyVal} (k : Int)
    (hget : existing.get "platform_release" (.str "") =
      .ok (.str (datePrefix ++ "." ++ toString k))) :
    nextPlatformReleaseId datePrefix existing =
      if k.natAbs < 10 ^ maxStrDigits then
        (if (k + 1).natAbs < 10 ^ maxStrDigits then .ok (datePrefix ++ "." ++ toString (k + 1))
        else .error toStrLimitError)
      else .ok (datePrefix ++ ".1") := by
  rw [nextPlatformReleaseId_of_same_day k hget]
  split_ifs with hk hk₁
  · rw [pyIntStr_of_lt hk₁]
    rfl
  · rw [pyIntStr_of_le (Nat.not_lt.mp hk₁)]
    rfl
  · rfl

theorem nextPlatformReleaseId_same_day_web :
    let limit : Int := 10 ^ maxStrDigits - 1
    (PyVal.dict [("platform_release", .str "platform-2026.11.09.3")]).get "platform_release"
        (.str "") = .ok (.str ("platform-2026.11.09" ++ "." ++ toString (3 : Int))) ∧
      nextPlatformReleaseId "platform-2026.11.09"
        (.dict [("platform_release", .str "platform-2026.11.09.3")]) =
        .ok "platform-2026.11.09.4" ∧
      nextPlatformReleaseId "platform-2026.11.09"
        (.dict [("platform_release", .str ("platform-2026.11.09" ++ "." ++ toString limit))]) =
        .error toStrLimitError :=
  have hpos : 0 < 10 ^ maxStrDigits := Nat.pos_pow_of_pos _ (by decide)
  have hcast : ((10 ^ maxStrDigits : Nat) : Int) = (10 : Int) ^ maxStrDigits :=
    Nat.cast_pow 10 maxStrDigits
  have hlimit : (10 ^ maxStrDigits - 1 : Int).natAbs < 10 ^ maxStrDigits ∧
      ¬(10 ^ maxStrDigits - 1 + 1 : Int).natAbs < 10 ^ maxStrDigits := by
    refine ⟨?_, ?_⟩ <;> omega
  ⟨rfl, by
    rw [@nextPlatformReleaseId_same_day "platform-2026.11.09"
      (.dict [("platform_release", .str "platform-2026.11.09.3")]) 3 rfl,
      if_pos (lt_limit_of_lt_ten (by decide)), if_pos (lt_limit_of_lt_ten (by decide))]
    rfl,
    by rw [@nextPlatformReleaseId_same_day "platform-2026.11.09" (.dict [("platform_release",
      .str ("platform-2026.11.09" ++ "." ++ toString (10 ^ maxStrDigits - 1 : Int)))]) _ rfl,
      if_pos hlimit.1, if_neg hlimit.2]⟩

/-- **A fresh release id**: an `update_manifest.py` run with no (or an empty)
`--platform-release`, over an existing manifest that is a mapping, writes a manifest whose
`platform_release` differs from the one the existing manifest recorded. -/
theorem updateManifest_fresh_release (libs : Libraries) (yaml : YamlLib)
    (sha256 : List Char → String) (datePrefix generatedAt gitSha : String)
    (components : List ConfigComponent) (output : String) (platformRelease : Option String)
    (repo repo' : Repo) (text : String) (existing current : PyVal)
    (harg : platformRelease.all String.isEmpty = true)
    (hold : repo output = some text) (hload : yaml.safeLoad (textRead text) = .ok existing)
    (hget : existing.get "platform_release" (.str "") = .ok current)
    (hrun : runScript (updateManifest libs yaml sha256 datePrefix generatedAt gitSha components
      output platformRelease) repo = (.ok (), repo')) :
    ∃ release items, repo' output = some (yaml.safeDump (.dict [("schema_version", .int 2),
        ("generated_at", .str generatedAt), ("platform_release", .str release),
        ("git_sha", .str gitSha), ("components", .dict items)])) ∧
      release ≠ pyStr current := by
  have hex : runScript (loadExisting yaml output) repo = (.ok existing, repo) := by
    rw [loadExisting, runScript_get_bind, hold]
    exact (runScript_liftExc _ _).trans (by rw [hload])
  unfold updateManifest at hrun
  rw [runScript_bind, hex] at hrun
  obtain ⟨items, r₂, -, h₂⟩ := runScript_bind_ok hrun
  obtain ⟨release, r₃, hrel, h₃⟩ := runScript_bind_ok h₂
  obtain ⟨hchoose, rfl⟩ := runScript_liftExc_ok hrel
  rw [runScript_writeText, Prod.mk.injEq] at h₃
  refine ⟨release, items, by rw [← h₃.2, Function.update_same],
    @nextPlatformReleaseId_fresh datePrefix _ _ _ hget ?_⟩
  cases platformRelease with
  | none => exact hchoose
  | some arg => simpa [chooseRelease, show arg.isEmpty = true from harg] using hchoose

/-- The manifest of the third release of a day. -/
def sameDayManifest : PyVal := .dict [("platform_release", .str "platform-2026.11.09.3")]

/-- A repository whose manifest, in the stand-in's YAML, is `sameDayManifest`. -/
def sameDayRepo : Repo := Function.update appRepo "manifest.yaml" (some (textYaml.safeDump sameDayManifest))

theorem updateManifest_fresh_release_same_day :
    let run := runScript (updateManifest noLibraries textYaml String.mk "platform-2026.11.09"
      "2026-11-09T00:00:00Z" "0123abc" appComponents "manifest.yaml" none) sameDayRepo
    run = (.ok (), run.2) ∧
    ∃ release items, run.2 "manifest.yaml" = some (textYaml.safeDump (.dict
        [("schema_version", .int 2), ("generated_at", .str "2026-11-09T00:00:00Z"),
          ("platform_release", .str release), ("git_sha", .str "0123abc"),
          ("components", .dict items)])) ∧
      release ≠ pyStr (.str "platform-2026.11.09.3") := by
  have hload : textYaml.safeLoad (textRead (textYaml.safeDump sameDayManifest)) =
      .ok sameDayManifest := by
    rw [textYaml.textRead_safeDump, textYaml_load_dump]
  have hex : runScript (loadExisting textYaml "manifest.yaml") sameDayRepo =
      (.ok sameDayManifest, sameDayRepo) := by
    rw [loadExisting, runScript_get_bind, sameDayRepo, Function.update_same]
    exact (runScript_liftExc _ _).trans (by rw [hload])
  have hrel : chooseRelease "platform-2026.11.09" sameDayManifest none =
      .ok "platform-2026.11.09.4" := by
    rw [chooseRelease, @nextPlatformReleaseId_of_same_day "platform-2026.11.09" sameDayManifest 3
      rfl, if_pos (lt_limit_of_lt_ten (by decide)), pyIntStr_of_lt (lt_limit_of_lt_ten (by decide))]
    rfl
  obtain ⟨items, hitems⟩ : ∃ items, runScript ((sortedNames (appComponents.map (·.name)).dedup).mapM
      (manifestItem noLibraries String.mk appComponents)) sameDayRepo = (.ok items, sameDayRepo) :=
    ⟨_, Prod.ext rfl rfl⟩
  have hran : runScript (updateManifest noLibraries textYaml String.mk "platform-2026.11.09"
      "2026-11-09T00:00:00Z" "0123abc" appComponents "manifest.yaml" none) sameDayRepo =
      (.ok (), (runScript (updateManifest noLibraries textYaml String.mk "platform-2026.11.09"
        "2026-11-09T00:00:00Z" "0123abc" appComponents "manifest.yaml" none) sameDayRepo).2) := by
    rw [runScript_updateManifest hex hitems hrel]
  have hold : sameDayRepo "manifest.yaml" = some (textYaml.safeDump sameDayManifest) :=
    Function.update_same _ _ _
  exact ⟨hran, updateManifest_fresh_release noLibraries textYaml String.mk "platform-2026.11.09"
    "2026-11-09T00:00:00Z" "0123abc" appComponents "manifest.yaml" none sameDayRepo _ _
    sameDayManifest (.str "platform-2026.11.09.3") rfl hold hload rfl hran⟩

end Tentacle.Release
