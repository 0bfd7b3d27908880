import Mathlib.Data.Nat.Digits
import Tentacle.Release.Text

/-!
# Semantic versions: `ensure_semver`, `bump_semver`, `bump_rank`

`ensure_semver` strips its argument, matches `SEMVER_RE = ^(\d+)\.(\d+)\.(\d+)$` and reads
the three groups with `int`, so it accepts leading zeros, surrounding whitespace and the
decimal digits of every script (`\d` and `int` both take them). `int` refuses a group of more
than `maxStrDigits` digits, and `str` refuses to print a number of more than `maxStrDigits`
digits, so `bump_semver` raises `ValueError` when the number it bumps is `10 ^ 4300 - 1`.

* `ensureSemver_decimals` — the decimal print of three numbers below `10 ^ maxStrDigits`
  parses back to them.
* `bumpSemver_reparses` — every bump of an accepted version is accepted again, parses to
  the bumped triple and is lexicographically greater, unless the bumped number reaches
  `10 ^ maxStrDigits`; then `bump_semver` raises (`bumpSemver_patch_at_limit`).
-/

namespace Tentacle.Release

/-! ## Bumps -/

/-- The bump kinds of `VALID_BUMPS`, as `ensure_valid_bump` admits them. -/
inductive Bump where
  | patch
  | minor
  | major
  deriving DecidableEq, Repr

/-- The name a bump is written with. -/
def Bump.name : Bump → String
  | .patch => "patch"
  | .minor => "minor"
  | .major => "major"

/-- The ranks of `bump_rank`. -/
def Bump.rank : Bump → Nat
  | .patch => 1
  | .minor => 2
  | .major => 3

/-- `bump_rank`. -/
def bumpRank (bump : String) : Except PyExc Nat :=
  if bump = "patch" then .ok 1
  else if bump = "minor" then .ok 2
  else if bump = "major" then .ok 3
  else .error ⟨.valueError, s!"Unsupported bump type: {bump}"⟩

theorem bumpRank_name (b : Bump) : bumpRank b.name = .ok b.rank := by
  cases b <;> rfl

/-- Ranks tell bumps apart. -/
theorem Bump.rank_injective {a b : Bump} (h : a.rank = b.rank) : a = b := by
  cases a <;> cases b <;> first | rfl | cases h

/-! ## `ensure_semver` and `bump_semver` -/

/-- `(\d+)` and then the separator: the digits and what follows the separator. -/
def digitsThen (sep : Char) (cs : List Char) : Option (List Char × List Char) :=
  match cs.dropWhile isDecimal with
  | c :: rest => if c = sep ∧ cs.takeWhile isDecimal ≠ [] then
      some (cs.takeWhile isDecimal, rest) else none
  | [] => none

/-- `SEMVER_RE.match(s)` with `^(\d+)\.(\d+)\.(\d+)$`: the three digit groups (`$` also
matches before a final newline). -/
def semverGroups (cs : List Char) : Option (List Char × List Char × List Char) :=
  match digitsThen '.' cs with
  | some (major, afterMajor) =>
    match digitsThen '.' afterMajor with
    | some (minor, afterMinor) =>
      let patch := afterMinor.takeWhile isDecimal
      let rest := afterMinor.dropWhile isDecimal
      if patch ≠ [] ∧ (rest = [] ∨ rest = ['\n']) then some (major, minor, patch) else none
    | none => none
  | none => none

/-- `int(m.group(k))`: a group of `SEMVER_RE` is a run of decimal digits, so `int` reads its
value or refuses more than `maxStrDigits` digits. -/
def groupInt (ds : List Char) : Except PyExc Nat :=
  Int.toNat <$> (PyVal.str ⟨ds⟩).toInt

/-- `ensure_semver`: the stripped text must match `SEMVER_RE`; the groups are read by `int`,
left to right. -/
def ensureSemver (version : String) : Except PyExc (Nat × Nat × Nat) :=
  match semverGroups (stripChars version.data) with
  | some (major, minor, patch) => do
    let major ← groupInt major
    let minor ← groupInt minor
    let patch ← groupInt patch
    return (major, minor, patch)
  | none => .error ⟨.valueError, s!"Invalid semver: {version}"⟩

/-- `bump_semver`: each f-string prints its numbers with `str`, left to right. -/
def bumpSemver (version bump : String) : Except PyExc String := do
  let (major, minor, patch) ← ensureSemver version
  if bump = "major" then
    let nextMajor ← pyIntStr (major + 1 : Nat)
    return s!"{nextMajor}.0.0"
  else if bump = "minor" then
    let major ← pyIntStr major
    let nextMinor ← pyIntStr (minor + 1 : Nat)
    return s!"{major}.{nextMinor}.0"
  else if bump = "patch" then
    let major ← pyIntStr major
    let minor ← pyIntStr minor
    let nextPatch ← pyIntStr (patch + 1 : Nat)
    return s!"{major}.{minor}.{nextPatch}"
  else
    throw ⟨.valueError, s!"Unsupported bump type: {bump}"⟩

theorem groupInt_decimals {ds : List Char} (hne : ds ≠ []) (hd : ∀ c ∈ ds, isDecimal c) :
    groupInt ds = if maxStrDigits < ds.length then .error (toIntLimitError ds.length) else
      .ok (decimalValue ds) := by
  simp only [groupInt, PyVal.toInt, parseIntLiteral_decimals hne hd]
  split_ifs <;> rfl

/-- A group `int` reads has at most `maxStrDigits` digits. -/
theorem groupInt_lt {ds : List Char} {n : Nat} (h : groupInt ds = .ok n) :
    n < 10 ^ maxStrDigits := by
  simp only [groupInt, PyVal.toInt] at h
  split at h <;> cases h
  rename_i i hi
  have := parseIntLiteral_value_lt hi
  omega

theorem digitsThen_append {sep : Char} {ds : List Char} (rest : List Char) (hne : ds ≠ [])
    (hds : ∀ c ∈ ds, isDecimal c) (hsep : isDecimal sep = false) :
    digitsThen sep (ds ++ sep :: rest) = some (ds, rest) := by
  simp [digitsThen, dropWhile_append_of_all hds hsep, takeWhile_append_of_all hds hsep, hne]

/-- Three runs of decimal digits joined by dots are the groups of `SEMVER_RE`, and
`ensure_semver` reads them with `int`. -/
theorem ensureSemver_groups {v : String} {a b c : List Char} (ha : a ≠ []) (hb : b ≠ [])
    (hc : c ≠ []) (hd : ∀ x ∈ a ++ b ++ c, isDecimal x)
    (hv : v.data = a ++ '.' :: b ++ '.' :: c) :
    ensureSemver v = (do
      let major ← groupInt a
      let minor ← groupInt b
      let patch ← groupInt c
      return (major, minor, patch)) := by
  have hda : ∀ x ∈ a, isDecimal x := fun x hx => hd x (by simp [hx])
  have hdb : ∀ x ∈ b, isDecimal x := fun x hx => hd x (by simp [hx])
  have hdc : ∀ x ∈ c, isDecimal x := fun x hx => hd x (by simp [hx])
  obtain ⟨first, hfirst⟩ := Option.ne_none_iff_exists'.mp
    (by simpa [List.head?_eq_none_iff] using ha : a.head? ≠ none)
  obtain ⟨last, hlast⟩ := Option.ne_none_iff_exists'.mp
    (by simpa [List.getLast?_eq_none_iff] using hc : c.getLast? ≠ none)
  have hstrip : stripChars v.data = v.data := by
    refine stripChars_eq_self (show v.data.head? = some first by simp [hv, hfirst])
      (show v.data.getLast? = some last from ?_)
      (isPySpace_of_isDecimal (hda first (List.mem_of_mem_head? hfirst)))
      (isPySpace_of_isDecimal (hdc last (List.mem_of_mem_getLast? hlast)))
    rw [hv, show a ++ '.' :: b ++ '.' :: c = (a ++ '.' :: b ++ ['.']) ++ c by simp,
      List.getLast?_append_of_ne_nil _ hc, hlast]
  have hdot : isDecimal '.' = false := by decide
  unfold ensureSemver
  rw [hstrip, hv]
  simp only [semverGroups, List.append_assoc, List.cons_append, digitsThen_append _ ha hda hdot,
    digitsThen_append _ hb hdb hdot, List.takeWhile_eq_self_iff.mpr hdc,
    List.dropWhile_eq_nil_iff.mpr hdc]
  simp [hc]

/-- The text `major.minor.patch` written in decimals passes `ensure_semver` with its three
numbers, as long as none has more than `maxStrDigits` digits. -/
theorem ensureSemver_decimals {s : String} {major minor patch : Nat}
    (hM : major < 10 ^ maxStrDigits) (hm : minor < 10 ^ maxStrDigits)
    (hp : patch < 10 ^ maxStrDigits)
    (hs : s.data = Nat.toDigits 10 major ++ '.' :: Nat.toDigits 10 minor ++ '.' ::
      Nat.toDigits 10 patch) :
    ensureSemver s = .ok (major, minor, patch) := by
  obtain ⟨hne₁, hd₁, hv₁⟩ := toDigits_ten_reads major
  obtain ⟨hne₂, hd₂, hv₂⟩ := toDigits_ten_reads minor
  obtain ⟨hne₃, hd₃, hv₃⟩ := toDigits_ten_reads patch
  have hdec : ∀ x ∈ Nat.toDigits 10 major ++ Nat.toDigits 10 minor ++ Nat.toDigits 10 patch,
      isDecimal x := by
    intro x hx
    simp only [List.mem_append] at hx
    exact isDecimal_of_isDigit (by rcases hx with (hx | hx) | hx <;> simp_all)
  have hshort : ∀ n < 10 ^ maxStrDigits, ¬maxStrDigits < (Nat.toDigits 10 n).length :=
    fun n hn => Nat.not_lt.mpr ((toDigits_length_le_iff (by decide)).mpr hn)
  rw [ensureSemver_groups hne₁ hne₂ hne₃ hdec hs,
    groupInt_decimals hne₁ fun x hx => isDecimal_of_isDigit (hd₁ x hx),
    groupInt_decimals hne₂ fun x hx => isDecimal_of_isDigit (hd₂ x hx),
    groupInt_decimals hne₃ fun x hx => isDecimal_of_isDigit (hd₃ x hx),
    if_neg (hshort _ hM), if_neg (hshort _ hm), if_neg (hshort _ hp), hv₁, hv₂, hv₃]
  rfl

/-- The numbers of an accepted version have at most `maxStrDigits` digits. -/
theorem ensureSemver_lt {v : String} {major minor patch : Nat}
    (h : ensureSemver v = .ok (major, minor, patch)) :
    major < 10 ^ maxStrDigits ∧ minor < 10 ^ maxStrDigits ∧ patch < 10 ^ maxStrDigits := by
  unfold ensureSemver at h
  split at h
  · obtain ⟨M, hM, h⟩ := bind_eq_ok h
    obtain ⟨m, hm, h⟩ := bind_eq_ok h
    obtain ⟨p, hp, h⟩ := bind_eq_ok h
    cases h
    exact ⟨groupInt_lt hM, groupInt_lt hm, groupInt_lt hp⟩
  · cases h

theorem pyIntStr_nat {n : Nat} (h : n < 10 ^ maxStrDigits) : pyIntStr n = .ok (toString n) :=
  pyIntStr_of_lt h

theorem pyIntStr_limit {n : Nat} (h : n = 10 ^ maxStrDigits) :
    pyIntStr n = .error toStrLimitError :=
  pyIntStr_of_le (by rw [h]; rfl)

/-- What `bump_semver` makes of an accepted version: the bumped numbers, or the `ValueError`
of `str` when the bumped number reaches `maxStrDigits + 1` digits. -/
theorem bumpSemver_eq {v : String} {major minor patch : Nat}
    (h : ensureSemver v = .ok (major, minor, patch)) :
    bumpSemver v "major" = (if major + 1 < 10 ^ maxStrDigits then
      .ok s!"{major + 1}.0.0" else .error toStrLimitError) ∧
    bumpSemver v "minor" = (if minor + 1 < 10 ^ maxStrDigits then
      .ok s!"{major}.{minor + 1}.0" else .error toStrLimitError) ∧
    bumpSemver v "patch" = (if patch + 1 < 10 ^ maxStrDigits then
      .ok s!"{major}.{minor}.{patch + 1}" else .error toStrLimitError) := by
  obtain ⟨hM, hm, hp⟩ := ensureSemver_lt h
  have hlimit : ∀ n, n < 10 ^ maxStrDigits → ¬n + 1 < 10 ^ maxStrDigits →
      pyIntStr (n + 1 : Nat) = .error toStrLimitError := fun n hn hlt =>
    pyIntStr_limit (by omega)
  refine ⟨?_, ?_, ?_⟩ <;> split_ifs with hlt
  all_goals first
    | simp only [bumpSemver, h, bind, Except.bind, pure, Except.pure, pyIntStr_nat hM,
        pyIntStr_nat hm, pyIntStr_nat hlt]; rfl
    | simp only [bumpSemver, h, bind, Except.bind, pure, Except.pure, pyIntStr_nat hM,
        pyIntStr_nat hm, hlimit _ ‹_› hlt]; rfl

/-- The lexicographic order on `(major, minor, patch)`. -/
def VersionLt (a b : Nat × Nat × Nat) : Prop :=
  Prod.Lex (· < ·) (Prod.Lex (· < ·) (· < ·)) a b

theorem bumpSemver_reparses (v : String) (major minor patch : Nat)
    (h : ensureSemver v = .ok (major, minor, patch)) :
    (bumpSemver v "patch" >>= ensureSemver) = (if patch + 1 < 10 ^ maxStrDigits then
      .ok (major, minor, patch + 1) else .error toStrLimitError) ∧
    (bumpSemver v "minor" >>= ensureSemver) = (if minor + 1 < 10 ^ maxStrDigits then
      .ok (major, minor + 1, 0) else .error toStrLimitError) ∧
    (bumpSemver v "major" >>= ensureSemver) = (if major + 1 < 10 ^ maxStrDigits then
      .ok (major + 1, 0, 0) else .error toStrLimitError) ∧
    VersionLt (major, minor, patch) (major, minor, patch + 1) ∧
    VersionLt (major, minor, patch) (major, minor + 1, 0) ∧
    VersionLt (major, minor, patch) (major + 1, 0, 0) := by
  obtain ⟨hM, hm, hp⟩ := ensureSemver_lt h
  obtain ⟨hbM, hbm, hbp⟩ := bumpSemver_eq h
  have hzero : 0 < 10 ^ maxStrDigits := pow_pos (by decide) _
  refine ⟨?_, ?_, ?_, .right _ (.right _ (Nat.lt_succ_self _)),
    .right _ (.left _ _ (Nat.lt_succ_self _)), .left _ _ (Nat.lt_succ_self _)⟩
  · rw [hbp]
    split_ifs with hlt
    · rw [except_ok_bind]
      exact ensureSemver_decimals hM hm hlt (by simp [toString_data, toString_string])
    · rfl
  · rw [hbm]
    split_ifs with hlt
    · rw [except_ok_bind]
      exact ensureSemver_decimals hM hlt hzero
        (by simp [toString_data, toString_string, toDigits_zero])
    · rfl
  · rw [hbM]
    split_ifs with hlt
    · rw [except_ok_bind]
      exact ensureSemver_decimals hlt hzero hzero
        (by simp [toString_data, toString_string, toDigits_zero])
    · rfl

/-- A version with a leading zero, an Arabic-Indic digit and surrounding whitespace. -/
theorem bumpSemver_reparses_padded :
    ensureSemver " 0١.2.3\n" = .ok (1, 2, 3) ∧
    (bumpSemver " 0١.2.3\n" "patch" >>= ensureSemver) =
      (if 3 + 1 < 10 ^ maxStrDigits then .ok (1, 2, 3 + 1) else .error toStrLimitError) ∧
    (bumpSemver " 0١.2.3\n" "minor" >>= ensureSemver) =
      (if 2 + 1 < 10 ^ maxStrDigits then .ok (1, 2 + 1, 0) else .error toStrLimitError) ∧
    (bumpSemver " 0١.2.3\n" "major" >>= ensureSemver) =
      (if 1 + 1 < 10 ^ maxStrDigits then .ok (1 + 1, 0, 0) else .error toStrLimitError) ∧
    VersionLt (1, 2, 3) (1, 2, 3 + 1) ∧ VersionLt (1, 2, 3) (1, 2 + 1, 0) ∧
    VersionLt (1, 2, 3) (1 + 1, 0, 0) :=
  ⟨rfl, bumpSemver_reparses " 0١.2.3\n" 1 2 3 rfl⟩

/-- A run of `n` nines is worth `10 ^ n - 1`. -/
theorem decimalValue_nines (n : Nat) : decimalValue (List.replicate n '9') = 10 ^ n - 1 := by
  induction n with
  | zero => rfl
  | succ n ih =>
    have hpos : 0 < 10 ^ n := Nat.pos_pow_of_pos n (by decide)
    rw [List.replicate_succ', decimalValue_append, ih, Nat.pow_succ]
    show 10 * (10 ^ n - 1) + 9 = 10 ^ n * 10 - 1
    omega

/-- A patch number of `maxStrDigits` nines is accepted, but `bump_semver` cannot print the
next one. -/
theorem bumpSemver_patch_at_limit :
    ensureSemver ("0.0." ++ ⟨List.replicate 4300 '9'⟩) = .ok (0, 0, 10 ^ 4300 - 1) ∧
      bumpSemver ("0.0." ++ ⟨List.replicate 4300 '9'⟩) "patch" = .error toStrLimitError := by
  have hnines : ∀ x ∈ List.replicate 4300 '9', isDecimal x := fun x hx => by
    rw [List.eq_of_mem_replicate hx]; decide
  have hne : List.replicate 4300 '9' ≠ [] :=
    List.ne_nil_of_length_pos (by rw [List.length_replicate]; decide)
  have hv : ensureSemver ("0.0." ++ ⟨List.replicate 4300 '9'⟩) = .ok (0, 0, 10 ^ 4300 - 1) := by
    rw [ensureSemver_groups (a := ['0']) (b := ['0']) (List.cons_ne_nil _ _)
      (List.cons_ne_nil _ _) hne (fun x hx => ?_) (show ("0.0." ++ ⟨List.replicate 4300 '9'⟩
        : String).data = ['0'] ++ '.' :: ['0'] ++ '.' :: List.replicate 4300 '9' from rfl),
      groupInt_decimals (List.cons_ne_nil _ _) (by decide),
      groupInt_decimals hne hnines, List.length_replicate, decimalValue_nines]
    · rfl
    · simp only [List.mem_append, List.mem_singleton] at hx
      rcases hx with (rfl | rfl) | hx
      exacts [rfl, rfl, hnines x hx]
  have hN : maxStrDigits = 4300 := rfl
  refine ⟨hv, ?_⟩
  have hpos : 0 < 10 ^ 4300 := pow_pos (by decide) 4300
  rw [(bumpSemver_eq hv).2.2, hN]
  generalize 10 ^ 4300 = L at hpos ⊢
  rw [if_neg (by omega)]

/-! ## Version texts -/

/-- A version written exactly as `SEMVER_RE` matches it, with nothing around it: three
non-empty runs of digits separated by dots. -/
def IsSemverText (v : String) : Prop :=
  ∃ major minor patch : List Char, major ≠ [] ∧ minor ≠ [] ∧ patch ≠ [] ∧
    (∀ c ∈ major ++ minor ++ patch, c.isDigit) ∧ v.data = major ++ '.' :: minor ++ '.' :: patch

/-- A version whose groups `int` reads: none has more than `maxStrDigits` digits. -/
def FitsIntLimit (v : String) : Prop := ∀ g ∈ v.data.splitOn '.', g.length ≤ maxStrDigits

instance (v : String) : Decidable (FitsIntLimit v) :=
  inferInstanceAs (Decidable (∀ g ∈ v.data.splitOn '.', g.length ≤ maxStrDigits))

section SemverText

variable {v : String}

/-- A version text holds only digits and dots. -/
theorem IsSemverText.mem (h : IsSemverText v) {x : Char} (hx : x ∈ v.data) :
    x.isDigit ∨ x = '.' := by
  obtain ⟨a, b, c, -, -, -, hd, hv⟩ := h
  rw [hv] at hx
  simp only [List.mem_append, List.mem_cons] at hx
  rcases hx with (hx | hx | hx) | hx | hx
  all_goals first
    | exact .inr hx
    | exact .inl (hd x (by simp [hx]))

/-- A version text is a value group: non-empty and without quotes. -/
theorem IsSemverText.isValue (h : IsSemverText v) : IsValue v.data := by
  refine ⟨?_, fun x hx => ?_⟩
  · obtain ⟨a, b, c, -, -, -, -, hv⟩ := h
    simp [hv]
  · cases hq : isQuote x
    · rfl
    · simp only [isQuote, Bool.or_eq_true, beq_iff_eq] at hq
      rcases hq with rfl | rfl <;> rcases h.mem hx with hx | hx <;> exact absurd hx (by decide)

/-- A version text has no `\r`, so it reads as itself in text mode. -/
theorem IsSemverText.cr_not_mem (h : IsSemverText v) : '\r' ∉ v.data := fun hr => by
  rcases h.mem hr with hr | hr <;> exact absurd hr (by decide)

/-- A version text starts and ends with a digit. -/
theorem IsSemverText.ends (h : IsSemverText v) :
    ∃ first last, v.data.head? = some first ∧ v.data.getLast? = some last ∧
      isPySpace first = false ∧ isPySpace last = false := by
  obtain ⟨a, b, c, ha, -, hc, hd, hv⟩ := h
  obtain ⟨first, hfirst⟩ := Option.ne_none_iff_exists'.mp
    (by simpa [List.head?_eq_none_iff] using ha : a.head? ≠ none)
  obtain ⟨last, hlast⟩ := Option.ne_none_iff_exists'.mp
    (by simpa [List.getLast?_eq_none_iff] using hc : c.getLast? ≠ none)
  refine ⟨first, last, by simp [hv, hfirst], ?_,
    isPySpace_of_isDigit (hd first (by simp [List.mem_of_mem_head? hfirst])),
    isPySpace_of_isDigit (hd last (by simp [List.mem_of_mem_getLast? hlast]))⟩
  rw [hv, show a ++ '.' :: b ++ '.' :: c = (a ++ '.' :: b ++ ['.']) ++ c by simp,
    List.getLast?_append_of_ne_nil _ hc, hlast]

/-- A version text splits at its dots into its three runs of digits. -/
theorem IsSemverText.splitOn_dot {a b c : List Char} (hd : ∀ x ∈ a ++ b ++ c, x.isDigit)
    (hv : v.data = a ++ '.' :: b ++ '.' :: c) : v.data.splitOn '.' = [a, b, c] := by
  rw [hv, show a ++ '.' :: b ++ '.' :: c = ['.'].intercalate [a, b, c] by
    simp [List.intercalate]]
  refine List.splitOn_intercalate _ '.' (fun l hl hdot => absurd (hd '.' ?_) (by decide))
    (List.cons_ne_nil _ _)
  simp only [List.mem_cons, List.mem_singleton, List.not_mem_nil, or_false] at hl
  rcases hl with rfl | rfl | rfl <;> simp [hdot]

/-- A version text whose groups have at most `maxStrDigits` digits passes `ensure_semver`. -/
theorem IsSemverText.ensureSemver_ok (h : IsSemverText v) (hfit : FitsIntLimit v) :
    ∃ t, ensureSemver v = .ok t := by
  obtain ⟨a, b, c, ha, hb, hc, hd, hv⟩ := h
  have hdec : ∀ x ∈ a ++ b ++ c, isDecimal x := fun x hx => isDecimal_of_isDigit (hd x hx)
  have hsplit := IsSemverText.splitOn_dot hd hv
  have hshort : ∀ g ∈ [a, b, c], ¬maxStrDigits < g.length :=
    fun g hg => Nat.not_lt.mpr (hfit g (hsplit ▸ hg))
  refine ⟨(decimalValue a, decimalValue b, decimalValue c), ?_⟩
  rw [ensureSemver_groups ha hb hc hdec hv,
    groupInt_decimals ha fun x hx => hdec x (by simp [hx]),
    groupInt_decimals hb fun x hx => hdec x (by simp [hx]),
    groupInt_decimals hc fun x hx => hdec x (by simp [hx]),
    if_neg (hshort a (by simp)), if_neg (hshort b (by simp)), if_neg (hshort c (by simp))]
  rfl

end SemverText

/-- The decimal print of three numbers below `10 ^ maxStrDigits` is a version text whose
groups `int` reads. -/
theorem versionText_of_decimals {w : String} {a b c : Nat} (ha : a < 10 ^ maxStrDigits)
    (hb : b < 10 ^ maxStrDigits) (hc : c < 10 ^ maxStrDigits)
    (hw : w.data = Nat.toDigits 10 a ++ '.' :: Nat.toDigits 10 b ++ '.' :: Nat.toDigits 10 c) :
    IsSemverText w ∧ FitsIntLimit w := by
  obtain ⟨hna, hda, -⟩ := toDigits_ten_reads a
  obtain ⟨hnb, hdb, -⟩ := toDigits_ten_reads b
  obtain ⟨hnc, hdc, -⟩ := toDigits_ten_reads c
  have hd : ∀ x ∈ Nat.toDigits 10 a ++ Nat.toDigits 10 b ++ Nat.toDigits 10 c, x.isDigit := by
    intro x hx
    simp only [List.mem_append] at hx
    rcases hx with (hx | hx) | hx
    exacts [hda x hx, hdb x hx, hdc x hx]
  refine ⟨⟨_, _, _, hna, hnb, hnc, hd, hw⟩, fun g hg => ?_⟩
  rw [IsSemverText.splitOn_dot hd hw] at hg
  simp only [List.mem_cons, List.mem_singleton, List.not_mem_nil, or_false] at hg
  rcases hg with rfl | rfl | rfl <;> exact (toDigits_length_le_iff (by decide)).mpr ‹_›

/-- Every version `bump_semver` writes is a version text whose groups `int` reads. -/
theorem bumpSemver_versionText {v bump w : String} (h : bumpSemver v bump = .ok w) :
    IsSemverText w ∧ FitsIntLimit w := by
  cases hv : ensureSemver v with
  | error e => simp [bumpSemver, hv, bind, Except.bind] at h
  | ok t =>
    obtain ⟨major, minor, patch⟩ := t
    obtain ⟨hM, hm, hp⟩ := ensureSemver_lt hv
    obtain ⟨hbM, hbm, hbp⟩ := bumpSemver_eq hv
    have hzero : 0 < 10 ^ maxStrDigits := pow_pos (by decide) _
    by_cases h₁ : bump = "major"
    · subst h₁
      rw [hbM] at h
      split_ifs at h with hlt
      cases h
      exact versionText_of_decimals hlt hzero hzero
        (by simp [toString_data, toString_string, toDigits_zero])
    by_cases h₂ : bump = "minor"
    · subst h₂
      rw [hbm] at h
      split_ifs at h with hlt
      cases h
      exact versionText_of_decimals hM hlt hzero
        (by simp [toString_data, toString_string, toDigits_zero])
    by_cases h₃ : bump = "patch"
    · subst h₃
      rw [hbp] at h
      split_ifs at h with hlt
      cases h
      exact versionText_of_decimals hM hm hlt (by simp [toString_data, toString_string])
    simp [bumpSemver, hv, h₁, h₂, h₃, bind, Except.bind, throw, throwThe, MonadExceptOf.throw]
      at h

end Tentacle.Release
