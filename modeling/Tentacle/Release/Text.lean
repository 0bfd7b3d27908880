import Mathlib.Data.List.Basic
import Tentacle.Python

/-!
# The string operations of the release scripts

`scripts/release/_common.py` reads and rewrites version numbers with a handful of `str`
methods and three regular expressions. They are modelled here on character lists, the
way `re` and `str` scan them:

* `strip`, `lstrip` and `splitlines(keepends=True)` (`str.isspace` is `isPySpace`);
* `VERSION_ASSIGN_RE` and `SETUP_VERSION_RE`, both of the shape
  `(lit\s*=\s*["'])([^"']+)(["'])`, as `matchAssign` (anchored), `searchAssign`
  (`pattern.search`) and `subAssign` (`pattern.subn(..., count=1)`);
* the line pattern `^version\s*=\s*"[^"]+"\s*$` of `write_pyproject_version`.

Every quantifier in these patterns is greedy and followed by a character its own class
excludes, so the first way to match is the only one and the matchers need no
backtracking.

The main result is `searchAssign_subAssign`: after `subn` has replaced the value of the
first match, the first match is at the same place and carries the new value. It is what
makes a rewritten `setup.py` or `__version__` file read back the version written.
-/

namespace Tentacle.Release

/-! ## `str` methods -/

/-- No ASCII digit is whitespace. -/
theorem isPySpace_of_isDigit {c : Char} (h : c.isDigit) : isPySpace c = false :=
  isPySpace_of_isDecimal (isDecimal_of_isDigit h)

/-- `s.strip()` on the characters of `s`. -/
def stripChars (cs : List Char) : List Char :=
  ((cs.dropWhile isPySpace).reverse.dropWhile isPySpace).reverse

/-- `s.strip()`. -/
def pyStrip (s : String) : String := ⟨stripChars s.data⟩

/-- The line boundaries of `str.splitlines`. -/
def isLineBreak (c : Char) : Bool :=
  c == '\n' || c == '\r' || c == '\x0b' || c == '\x0c' || c == '\x1c' || c == '\x1d' ||
    c == '\x1e' || c == '\x85' || c == '\u2028' || c == '\u2029'

/-- `splitlines(keepends=True)`, with the line read so far as an accumulator: each line
keeps its boundary, and `\r\n` is one boundary. -/
def splitLinesFrom : List Char → List Char → List (List Char)
  | [], [] => []
  | [], line => [line]
  | '\r' :: '\n' :: rest, line => (line ++ ['\r', '\n']) :: splitLinesFrom rest []
  | c :: rest, line =>
    if isLineBreak c then (line ++ [c]) :: splitLinesFrom rest []
    else splitLinesFrom rest (line ++ [c])

/-- `s.splitlines(keepends=True)`. -/
def splitLines (cs : List Char) : List (List Char) := splitLinesFrom cs []

/-- Universal newlines, which a file opened in text mode (`read_text`, `open(path, "r")`)
applies to what it reads: `\r\n` and a lone `\r` both become `\n`. -/
def universalNewlines : List Char → List Char
  | [] => []
  | [c] => [if c = '\r' then '\n' else c]
  | c :: d :: rest =>
    if c = '\r' ∧ d = '\n' then '\n' :: universalNewlines rest
    else (if c = '\r' then '\n' else c) :: universalNewlines (d :: rest)

/-- The text a file holding `text` reads as in text mode. -/
def textRead (text : String) : String := ⟨universalNewlines text.data⟩

/-- A text read in text mode has no `\r`. -/
theorem cr_not_mem_universalNewlines (cs : List Char) : '\r' ∉ universalNewlines cs := by
  induction cs using universalNewlines.induct with
  | case1 => simp [universalNewlines]
  | case2 c =>
    by_cases h : c = '\r'
    · simp [universalNewlines, h]
    · simp [universalNewlines, h, Ne.symm h]
  | case3 c d rest h ih =>
    rw [universalNewlines, if_pos h]
    simpa using ih
  | case4 c d rest h ih =>
    rw [universalNewlines, if_neg h]
    by_cases hc : c = '\r'
    · simp [hc, ih]
    · simp [hc, Ne.symm hc, ih]

/-- A text without `\r` reads as itself. -/
theorem universalNewlines_of_cr_not_mem {cs : List Char} (h : '\r' ∉ cs) :
    universalNewlines cs = cs := by
  induction cs using universalNewlines.induct with
  | case1 => rfl
  | case2 c => simp [universalNewlines, show c ≠ '\r' from fun hc => h (by simp [hc])]
  | case3 c d rest hcd => exact absurd (by simp [hcd.1]) h
  | case4 c d rest hcd ih =>
    have hc : c ≠ '\r' := fun hc => h (by simp [hc])
    rw [universalNewlines, if_neg hcd, if_neg hc, ih fun hm => h (List.mem_cons_of_mem c hm)]

theorem cr_not_mem_textRead (text : String) : '\r' ∉ (textRead text).data :=
  cr_not_mem_universalNewlines text.data

theorem textRead_of_cr_not_mem {text : String} (h : '\r' ∉ text.data) : textRead text = text :=
  congrArg String.mk (universalNewlines_of_cr_not_mem h)

theorem dropWhile_eq_self {p : Char → Bool} {l : List Char} {c : Char} (h : l.head? = some c)
    (hc : p c = false) : l.dropWhile p = l := by
  cases l with
  | nil => cases h
  | cons x l => cases h; exact List.dropWhile_cons_of_neg (by simp [hc])

/-- A text that neither starts nor ends with whitespace, followed by a newline, strips to
itself. -/
theorem stripChars_append_newline {cs : List Char} {first last : Char}
    (hfirst : cs.head? = some first) (hlast : cs.getLast? = some last)
    (hf : isPySpace first = false) (hl : isPySpace last = false) :
    stripChars (cs ++ ['\n']) = cs := by
  have h₁ : (cs ++ ['\n']).dropWhile isPySpace = cs ++ ['\n'] :=
    dropWhile_eq_self (by simp [hfirst]) hf
  have h₂ : cs.reverse.dropWhile isPySpace = cs.reverse :=
    dropWhile_eq_self (by rw [List.head?_reverse, hlast]) hl
  unfold stripChars
  rw [h₁, List.reverse_append]
  rw [show ['\n'].reverse ++ cs.reverse = '\n' :: cs.reverse from rfl,
    List.dropWhile_cons_of_pos (by rfl), h₂, List.reverse_reverse]

/-- A text that neither starts nor ends with whitespace strips to itself. -/
theorem stripChars_eq_self {cs : List Char} {first last : Char}
    (hfirst : cs.head? = some first) (hlast : cs.getLast? = some last)
    (hf : isPySpace first = false) (hl : isPySpace last = false) : stripChars cs = cs := by
  unfold stripChars
  rw [dropWhile_eq_self hfirst hf, dropWhile_eq_self (by rw [List.head?_reverse, hlast]) hl,
    List.reverse_reverse]

/-- `s.strip(chars)`: the characters `p` holds, stripped from both ends. -/
def stripBy (p : Char → Bool) (cs : List Char) : List Char :=
  ((cs.dropWhile p).reverse.dropWhile p).reverse

theorem dropWhile_spaces_append {p : Char → Bool} {ws : List Char} (hws : ∀ x ∈ ws, p x)
    (cs : List Char) : (ws ++ cs).dropWhile p = cs.dropWhile p := by
  rw [List.dropWhile_append, List.isEmpty_iff.mpr (List.dropWhile_eq_nil_iff.mpr hws), if_pos rfl]

/-- A text strips to nothing exactly when it is all whitespace. -/
theorem stripChars_eq_nil_iff {cs : List Char} : stripChars cs = [] ↔ ∀ x ∈ cs, isPySpace x := by
  constructor
  · intro h
    have hall : ∀ x ∈ cs.dropWhile isPySpace, isPySpace x := by
      simpa [stripChars, List.dropWhile_eq_nil_iff] using h
    rw [← List.dropWhile_eq_nil_iff]
    cases hd : cs.dropWhile isPySpace with
    | nil => rfl
    | cons y t =>
      have hy := List.head_dropWhile_not isPySpace cs (by simp [hd])
      simp only [hd, List.head_cons] at hy
      simp [hd, hy] at hall
  · intro h
    simp [stripChars, List.dropWhile_eq_nil_iff.mpr h]

/-- Whitespace after a text does not change how it strips. -/
theorem stripChars_append_spaces {ws : List Char} (hws : ∀ x ∈ ws, isPySpace x) (cs : List Char) :
    stripChars (cs ++ ws) = stripChars cs := by
  unfold stripChars
  rw [List.dropWhile_append]
  split
  · next h =>
    rw [List.isEmpty_iff.mp h, List.dropWhile_eq_nil_iff.mpr hws]
  · rw [List.reverse_append, dropWhile_spaces_append (by simpa using hws)]

/-- Stripping some trailing whitespace first, as `strip("\n")` does, does not change how a
text strips. -/
theorem stripChars_stripTrailing {q : Char → Bool} (hq : ∀ x, q x → isPySpace x)
    (cs : List Char) : stripChars (cs.reverse.dropWhile q).reverse = stripChars cs := by
  conv_rhs => rw [← List.reverse_reverse cs, ← List.takeWhile_append_dropWhile q cs.reverse,
    List.reverse_append]
  exact (stripChars_append_spaces (fun x hx => hq x
    (List.mem_takeWhile_imp (List.mem_reverse.mp hx))) _).symm

/-! ## `(lit\s*=\s*["'])([^"']+)(["'])` -/

/-- The quote class `["']`. -/
def isQuote (c : Char) : Bool := c == '"' || c == '\''

/-- A match of `(lit\s*=\s*["'])([^"']+)(["'])`: the three groups and the text after it. -/
structure AssignMatch where
  opening : List Char
  value : List Char
  closing : Char
  rest : List Char
  deriving DecidableEq, Repr

/-- The characters a match consumes. -/
def AssignMatch.consumed (m : AssignMatch) : List Char := m.opening ++ m.value ++ [m.closing]

/-- The pattern tried at the start of `cs` (`pattern.match`). -/
def matchAssign (lit cs : List Char) : Option AssignMatch :=
  if lit.isPrefixOf cs then
    let afterLit := cs.drop lit.length
    match afterLit.dropWhile isPySpace with
    | eq :: afterEq =>
      match afterEq.dropWhile isPySpace with
      | q :: afterQuote =>
        match afterQuote.dropWhile (!isQuote ·) with
        | q' :: rest =>
          let value := afterQuote.takeWhile (!isQuote ·)
          if eq = '=' ∧ isQuote q ∧ value ≠ [] then
            some ⟨lit ++ afterLit.takeWhile isPySpace ++ eq :: afterEq.takeWhile isPySpace ++ [q],
              value, q', rest⟩
          else none
        | [] => none
      | [] => none
    | [] => none
  else none

/-- `pattern.search(s)`: the first position where the pattern matches, with the text
before it. -/
def searchAssign (lit : List Char) : List Char → Option (List Char × AssignMatch)
  | [] => (matchAssign lit []).map ([], ·)
  | c :: cs =>
    match matchAssign lit (c :: cs) with
    | some m => some ([], m)
    | none => (searchAssign lit cs).map fun (pre, m) => (c :: pre, m)

/-- `pattern.subn(rf"\g<1>{new}\g<3>", s, count=1)`: the value of the first match
replaced, and the number of replacements. The version is inserted as it is (a version
has no backslash for the template to interpret). -/
def subAssign (lit new cs : List Char) : List Char × Nat :=
  match searchAssign lit cs with
  | some (pre, m) => (pre ++ m.opening ++ new ++ m.closing :: m.rest, 1)
  | none => (cs, 0)

/-- The shape of group 1: the literal, blanks, `=`, blanks and a quote. -/
def IsOpening (lit opening : List Char) : Prop :=
  ∃ ws₁ ws₂ q, opening = lit ++ ws₁ ++ '=' :: ws₂ ++ [q] ∧ (∀ c ∈ ws₁, isPySpace c) ∧
    (∀ c ∈ ws₂, isPySpace c) ∧ isQuote q

/-- A value group: non-empty and quote-free. -/
def IsValue (value : List Char) : Prop := value ≠ [] ∧ ∀ c ∈ value, isQuote c = false

/-- A literal the pattern can start with: non-empty, and its last character is none of
the characters that may follow it inside group 1. -/
def LitOk (lit : List Char) : Prop :=
  ∃ c, lit.getLast? = some c ∧ isPySpace c = false ∧ c ≠ '=' ∧ isQuote c = false

theorem isPySpace_eq_false_of_isQuote {c : Char} (h : isQuote c) : isPySpace c = false := by
  simp only [isQuote, Bool.or_eq_true, beq_iff_eq] at h
  rcases h with rfl | rfl <;> rfl

theorem isPySpace_equals : isPySpace '=' = false := rfl

theorem dropWhile_append_of_all {p : Char → Bool} {xs : List Char} {c : Char} {ys : List Char}
    (hxs : ∀ x ∈ xs, p x) (hc : p c = false) : (xs ++ c :: ys).dropWhile p = c :: ys := by
  rw [List.dropWhile_append_of_pos hxs, List.dropWhile_cons_of_neg (by simp [hc])]

theorem takeWhile_append_of_all {p : Char → Bool} {xs : List Char} {c : Char} {ys : List Char}
    (hxs : ∀ x ∈ xs, p x) (hc : p c = false) : (xs ++ c :: ys).takeWhile p = xs := by
  rw [List.takeWhile_append_of_pos hxs, List.takeWhile_cons_of_neg (by simp [hc]),
    List.append_nil]

/-- The pattern matches a text built from its three groups, whatever follows. -/
theorem matchAssign_of_groups {lit opening value : List Char} {closing : Char}
    (rest : List Char) (ho : IsOpening lit opening) (hv : IsValue value)
    (hc : isQuote closing) :
    matchAssign lit (opening ++ value ++ closing :: rest) =
      some ⟨opening, value, closing, rest⟩ := by
  obtain ⟨ws₁, ws₂, q, rfl, h₁, h₂, hq⟩ := ho
  obtain ⟨hne, hvq⟩ := hv
  have hvq' : ∀ x ∈ value, (!isQuote x) = true := fun x hx => by simp [hvq x hx]
  have hc' : (!isQuote closing) = false := by simp [hc]
  have hq' := isPySpace_eq_false_of_isQuote hq
  have e : lit ++ ws₁ ++ '=' :: ws₂ ++ [q] ++ value ++ closing :: rest =
      lit ++ (ws₁ ++ '=' :: (ws₂ ++ q :: (value ++ closing :: rest))) := by simp
  rw [e]
  simp only [matchAssign, List.isPrefixOf_iff_prefix.mpr (List.prefix_append _ _), if_true,
    List.drop_left, dropWhile_append_of_all h₁ isPySpace_equals, dropWhile_append_of_all h₂ hq',
    dropWhile_append_of_all hvq' hc', takeWhile_append_of_all hvq' hc',
    takeWhile_append_of_all h₁ isPySpace_equals, takeWhile_append_of_all h₂ hq']
  simp [hq, hne]

/-- Where `dropWhile` stops: a character that fails the test, after the run `takeWhile`
keeps. -/
theorem eq_takeWhile_append_of_dropWhile {p : Char → Bool} {l r : List Char} {c : Char}
    (h : l.dropWhile p = c :: r) : p c = false ∧ l = l.takeWhile p ++ c :: r := by
  refine ⟨?_, by rw [← h, List.takeWhile_append_dropWhile]⟩
  have := List.head_dropWhile_not p l (by simp [h])
  simpa [h] using this

/-- A match is its three groups followed by the rest of the text. -/
theorem matchAssign_groups {lit cs : List Char} {m : AssignMatch}
    (h : matchAssign lit cs = some m) :
    cs = m.opening ++ m.value ++ m.closing :: m.rest ∧ IsOpening lit m.opening ∧
      IsValue m.value ∧ isQuote m.closing := by
  unfold matchAssign at h
  split at h
  case isFalse => cases h
  rename_i hlit
  obtain ⟨t, rfl⟩ := List.isPrefixOf_iff_prefix.mp hlit
  simp only [List.drop_left] at h
  split at h
  case h_2 => cases h
  rename_i eq afterEq h₁
  split at h
  case h_2 => cases h
  rename_i q afterQuote h₂
  split at h
  case h_2 => cases h
  rename_i q' rest h₃
  split at h
  case isFalse => cases h
  rename_i hcond
  obtain ⟨rfl, hq, hne⟩ := hcond
  cases h
  obtain ⟨-, e₁⟩ := eq_takeWhile_append_of_dropWhile h₁
  obtain ⟨-, e₂⟩ := eq_takeWhile_append_of_dropWhile h₂
  obtain ⟨hq', e₃⟩ := eq_takeWhile_append_of_dropWhile h₃
  refine ⟨?_, ⟨_, _, q, rfl, fun c hc => List.mem_takeWhile_imp hc,
    fun c hc => List.mem_takeWhile_imp hc, hq⟩, ⟨hne, fun c hc => ?_⟩, by simpa using hq'⟩
  · conv_lhs => rw [e₁, e₂, e₃]
    simp
  · simpa using List.mem_takeWhile_imp hc

/-! ## First matches -/

theorem getElem?_mid {l₁ l₂ l₃ : List Char} {k : Nat} (h₁ : l₁.length ≤ k)
    (h₂ : k < l₁.length + l₂.length) : ∃ x ∈ l₂, (l₁ ++ (l₂ ++ l₃))[k]? = some x := by
  rw [List.getElem?_append_right h₁, List.getElem?_append_left (by omega)]
  exact ⟨l₂.get ⟨k - l₁.length, by omega⟩, List.get_mem _ _ _, List.getElem?_eq_getElem _⟩

/-- A match that starts inside `s`, before an opening group, ends inside that group. -/
theorem matchAssign_consumed_prefix {lit s opening tail : List Char} {m : AssignMatch}
    (hlit : LitOk lit) (hs : s ≠ []) (ho : IsOpening lit opening)
    (h : matchAssign lit (s ++ opening ++ tail) = some m) :
    m.consumed <+: s ++ opening := by
  obtain ⟨c, hc, hcs, hce, hcq⟩ := hlit
  obtain ⟨ht, ⟨ws₁, ws₂, q, hop, h₁, h₂, hq⟩, ⟨-, hv⟩, -⟩ := matchAssign_groups h
  obtain ⟨ws₁', ws₂', q', rfl, -, -, hq'⟩ := ho
  have hn : 0 < s.length := List.length_pos.mpr hs
  have hL : 0 < lit.length := List.length_pos.mpr (by rintro rfl; cases hc)
  -- The match's group 1 ends before the last character of the literal that follows `s`.
  have hc' : (s ++ (lit ++ ((ws₁' ++ '=' :: ws₂' ++ [q']) ++ tail)))[s.length + lit.length - 1]? =
      some c := by
    rw [List.getElem?_append_right (by omega), List.getElem?_append_left (by omega),
      ← hc, List.getLast?_eq_getElem?]
    congr 1; omega
  have hz : m.opening.length ≤ s.length + lit.length - 1 := by
    by_contra hlt
    obtain ⟨x, hx, hxT⟩ := @getElem?_mid lit (ws₁ ++ '=' :: ws₂ ++ [q])
      (m.value ++ m.closing :: m.rest) (s.length + lit.length - 1) (by omega)
      (by simp only [hop, List.length_append] at hlt ⊢; omega)
    rw [show lit ++ (ws₁ ++ '=' :: ws₂ ++ [q] ++ (m.value ++ m.closing :: m.rest)) =
      s ++ (lit ++ ((ws₁' ++ '=' :: ws₂' ++ [q']) ++ tail)) by simpa [hop] using ht.symm, hc'] at hxT
    cases hxT
    simp only [List.mem_append, List.mem_cons, List.not_mem_nil, or_false] at hx
    rcases hx with (hx | rfl | hx) | rfl
    · simp [h₁ _ hx] at hcs
    · exact hce rfl
    · simp [h₂ _ hx] at hcs
    · simp [hq] at hcq
  -- Its value ends before the quote that closes the opening after `s`.
  have hq'T : (s ++ (lit ++ ws₁' ++ '=' :: ws₂') ++ (q' :: tail))[s.length +
      (lit ++ ws₁' ++ '=' :: ws₂').length]? = some q' := by
    rw [List.getElem?_append_right (by simp)]; simp
  have hvl : m.opening.length + m.value.length ≤ s.length + (lit ++ ws₁' ++ '=' :: ws₂').length := by
    by_contra hlt
    obtain ⟨x, hx, hxT⟩ := @getElem?_mid m.opening m.value (m.closing :: m.rest)
      (s.length + (lit ++ ws₁' ++ '=' :: ws₂').length) (by simp; omega) (by omega)
    rw [show m.opening ++ (m.value ++ m.closing :: m.rest) =
      s ++ (lit ++ ws₁' ++ '=' :: ws₂') ++ (q' :: tail) by simpa using ht.symm,
      hq'T] at hxT
    cases hxT
    simp [hv _ hx] at hq'
  refine List.prefix_of_prefix_length_le ⟨m.rest, ?_⟩ ⟨tail, rfl⟩ ?_
  · rw [ht]; simp [AssignMatch.consumed]
  · simp only [AssignMatch.consumed, List.length_append, List.length_cons, List.length_singleton,
      List.length_nil] at hvl ⊢
    omega

/-- A match depends only on the characters it consumes. -/
theorem matchAssign_consumed_append {lit cs : List Char} {m : AssignMatch}
    (h : matchAssign lit cs = some m) (rest : List Char) :
    matchAssign lit (m.consumed ++ rest) = some { m with rest } := by
  obtain ⟨-, ho, hv, hc⟩ := matchAssign_groups h
  simpa [AssignMatch.consumed] using matchAssign_of_groups rest ho hv hc

/-- No match starts at a position of `pre`, in the text `pre ++ u`. -/
def NoMatchBefore (lit pre u : List Char) : Prop :=
  ∀ k < pre.length, matchAssign lit (pre.drop k ++ u) = none

theorem searchAssign_some {lit : List Char} :
    ∀ {t pre : List Char} {m : AssignMatch}, searchAssign lit t = some (pre, m) →
      ∃ u, t = pre ++ u ∧ matchAssign lit u = some m ∧ NoMatchBefore lit pre u
  | [], pre, m, h => by
    simp only [searchAssign, Option.map_eq_some', Prod.mk.injEq] at h
    obtain ⟨m', hm, rfl, rfl⟩ := h
    exact ⟨[], rfl, hm, fun k hk => absurd hk (by simp)⟩
  | c :: t, pre, m, h => by
    unfold searchAssign at h
    split at h
    · cases h
      exact ⟨c :: t, rfl, by assumption, fun k hk => absurd hk (by simp)⟩
    · rename_i hnone
      simp only [Option.map_eq_some', Prod.mk.injEq, Prod.exists] at h
      obtain ⟨pre', m', hs, rfl, rfl⟩ := h
      obtain ⟨u, rfl, hu, hmin⟩ := searchAssign_some hs
      refine ⟨u, rfl, hu, fun k hk => ?_⟩
      cases k with
      | zero => simpa using hnone
      | succ k => simpa using hmin k (by simpa using hk)

/-- What `subn` writes is made of the text and the new value. -/
theorem mem_subAssign {lit new cs : List Char} {c : Char} (h : c ∈ (subAssign lit new cs).1) :
    c ∈ cs ∨ c ∈ new := by
  unfold subAssign at h
  split at h
  · rename_i pre m hs
    obtain ⟨u, rfl, hu, -⟩ := searchAssign_some hs
    rw [(matchAssign_groups hu).1]
    simp only [List.mem_append, List.mem_cons] at h ⊢
    tauto
  · exact .inl h

theorem searchAssign_of_match {lit u : List Char} {m : AssignMatch}
    (hu : matchAssign lit u = some m) :
    ∀ {pre : List Char}, NoMatchBefore lit pre u → searchAssign lit (pre ++ u) = some (pre, m)
  | [], _ => by
    cases u with
    | nil => simp [searchAssign, hu]
    | cons c u => simp [searchAssign, hu]
  | c :: pre, hmin => by
    have h0 : matchAssign lit (c :: (pre ++ u)) = none := by simpa using hmin 0 (by simp)
    have ih := @searchAssign_of_match lit u m hu pre fun k hk => by
      simpa using hmin (k + 1) (by simpa using hk)
    simp [searchAssign, h0, ih]

/-- After `subn` has replaced the first match's value by a value, the first match is at the
same place, with the new value. -/
theorem searchAssign_subAssign {lit new t pre : List Char} {m : AssignMatch}
    (hlit : LitOk lit) (hnew : IsValue new) (h : searchAssign lit t = some (pre, m)) :
    subAssign lit new t = (pre ++ m.opening ++ new ++ m.closing :: m.rest, 1) ∧
      searchAssign lit (pre ++ m.opening ++ new ++ m.closing :: m.rest) =
        some (pre, { m with value := new }) := by
  refine ⟨by simp [subAssign, h], ?_⟩
  obtain ⟨u, rfl, hu, hmin⟩ := searchAssign_some h
  obtain ⟨rfl, ho, -, hc⟩ := matchAssign_groups hu
  rw [show pre ++ m.opening ++ new ++ m.closing :: m.rest =
    pre ++ (m.opening ++ new ++ m.closing :: m.rest) by simp]
  refine searchAssign_of_match (matchAssign_of_groups m.rest ho hnew hc) fun k hk => ?_
  -- a match starting at position `k` would end inside group 1, so it was there before
  cases hm₂ : matchAssign lit (pre.drop k ++ (m.opening ++ new ++ m.closing :: m.rest)) with
  | none => rfl
  | some m₂ =>
    have hs : pre.drop k ≠ [] := by simpa using hk
    obtain ⟨w, hw⟩ := matchAssign_consumed_prefix hlit hs ho
      (by simpa only [List.append_assoc] using hm₂)
    have := matchAssign_consumed_append hm₂ (w ++ (m.value ++ m.closing :: m.rest))
    rw [← List.append_assoc, hw] at this
    have hold := hmin k hk
    rw [show pre.drop k ++ (m.opening ++ m.value ++ m.closing :: m.rest) =
      pre.drop k ++ m.opening ++ (m.value ++ m.closing :: m.rest) by simp, this] at hold
    cases hold


/-! ## The two patterns of `_common.py` -/

/-- The literal of `SETUP_VERSION_RE`. -/
def setupVersionLit : List Char := "version".data

/-- The literal of `VERSION_ASSIGN_RE`. -/
def versionAssignLit : List Char := "__version__".data

theorem setupVersionLit_ok : LitOk setupVersionLit := ⟨'n', rfl, rfl, by decide, rfl⟩

theorem versionAssignLit_ok : LitOk versionAssignLit := ⟨'_', rfl, rfl, by decide, rfl⟩

/-- `re.match(r'^version\s*=\s*"[^"]+"\s*$', s)`: after the closing quote only whitespace
may follow (`$` also matches before a final newline, which `\s*` takes anyway). -/
def isProjectVersionLine (s : List Char) : Bool :=
  "version".data.isPrefixOf s &&
    match (s.drop 7).dropWhile isPySpace with
    | '=' :: afterEq =>
      match afterEq.dropWhile isPySpace with
      | '"' :: afterQuote =>
        match afterQuote.dropWhile (· != '"') with
        | '"' :: rest => !(afterQuote.takeWhile (· != '"')).isEmpty && rest.all isPySpace
        | _ => false
      | _ => false
    | _ => false

end Tentacle.Release
