import Mathlib.Data.Rat.Floor
import Mathlib.Data.Nat.Digits

/-!
# Python values, exceptions and the builtins the tools call

The two tools receive their `arguments` as parsed JSON and read a few fields of a
context map, so the value type below is the image of `json.loads`: `None`, booleans,
arbitrary-precision integers, floats, strings, lists and objects. Floats keep their
non-finite members, because `json.loads` does produce them (`1e400` parses to `inf`)
and `int(inf)` is one of the ways a tool call can raise.

Finite floats are exact rationals here: nothing below depends on binary rounding, and exact
arithmetic makes the clamping and rounding facts statable. The builtins modelled are the
ones the tools and the release scripts apply to such values: truthiness (`bool(x)`, `not x`,
`x or y`), `str.lower()`, `str.isspace()`, item access and assignment `d[k]`, `d.get(k, v)`,
iteration, `round(x, 2)`, and the conversions between `int` and `str`. Those read and print
the decimal digits of every script that Unicode 14 lists, and keep to CPython's default
limit of 4300 digits (`sys.get_int_max_str_digits()`): `int()` refuses a longer literal and
`str()` a longer number, both with `ValueError`.
-/

namespace Tentacle

/-- A Python `float` as `json.loads` can produce it. -/
inductive PyFloat where
  /-- A finite value, kept exact. -/
  | finite (q : ℚ)
  /-- `float("inf")`, also what `json.loads` gives for an overflowing literal such as `1e400`. -/
  | inf
  /-- `float("-inf")`. -/
  | negInf
  /-- `float("nan")`. -/
  | nan
  deriving DecidableEq, Repr

/-- A JSON-shaped Python value. -/
inductive PyVal where
  | none
  | bool (b : Bool)
  | int (i : Int)
  | float (f : PyFloat)
  | str (s : String)
  | list (xs : List PyVal)
  /-- A `dict` with string keys, in insertion order. -/
  | dict (entries : List (String × PyVal))
  deriving Repr

namespace PyVal

/-- `bool(x)`: `None`, `False`, zero, and empty strings and containers are falsy. -/
def truthy : PyVal → Bool
  | .none => false
  | .bool b => b
  | .int i => i != 0
  | .float (.finite q) => q != 0
  | .float _ => true
  | .str s => !s.isEmpty
  | .list xs => !xs.isEmpty
  | .dict es => !es.isEmpty

/-- `x or d`: `x` when it is truthy, else `d`. -/
def orElse (x d : PyVal) : PyVal := if x.truthy then x else d

/-- `x == s` for a `str` `s`: a string equals only a string with the same text. -/
def eqStr : PyVal → String → Bool
  | .str t, s => t == s
  | _, _ => false

@[simp] theorem truthy_str (s : String) : (PyVal.str s).truthy = !s.isEmpty := rfl
@[simp] theorem truthy_none : PyVal.none.truthy = false := rfl
@[simp] theorem eqStr_str (t s : String) : (PyVal.str t).eqStr s = (t == s) := rfl

theorem orElse_truthy {x d : PyVal} (h : x.truthy = true) : x.orElse d = x := by
  simp [orElse, h]

theorem orElse_falsy {x d : PyVal} (h : x.truthy = false) : x.orElse d = d := by
  simp [orElse, h]

end PyVal

/-- `s.lower()`, a character at a time; `Char.toLower` maps only ASCII letters, where
Python also lowers the rest of Unicode. -/
def pyLower (s : String) : String := ⟨s.data.map Char.toLower⟩

/-! ## Exceptions -/

/-- The exception classes the tools raise or catch by name; `other` is anything a
backend raises. -/
inductive ExcKind where
  | typeError
  | valueError
  | overflowError
  | keyError
  | attributeError
  /-- `subprocess.CalledProcessError`, of a child process that failed under `check=True`. -/
  | calledProcessError
  | other
  deriving DecidableEq, Repr

/-- A raised exception: its class and `str(e)`. -/
structure PyExc where
  kind : ExcKind
  message : String
  deriving DecidableEq, Repr

/-- The `AttributeError` of reading a missing attribute `name` (CPython prefixes the
object's class name, which the model does not track). -/
def PyExc.attributeError (name : String) : PyExc :=
  ⟨.attributeError, s!"object has no attribute {name}"⟩

/-- `getattr`-free attribute access `obj.name` on a duck-typed snapshot: `none` stands
for an object without that attribute. -/
def attr {α : Type} (name : String) : Option α → Except PyExc α
  | some a => .ok a
  | none => .error (PyExc.attributeError name)

@[simp] theorem attr_some {α : Type} (name : String) (a : α) : attr name (some a) = .ok a := rfl
@[simp] theorem attr_none {α : Type} (name : String) :
    attr name (none : Option α) = .error (PyExc.attributeError name) := rfl

/-! ## Characters -/

/-- The code points of `str.isspace()` (Unicode 14.0, the database of Python 3.11): the ASCII
whitespace `\t\n\v\f\r` (9-13), the separators `\x1c`-`\x1f` and the space (28-32), and
U+0085, U+00A0, U+1680, U+2000-U+200A, U+2028, U+2029, U+202F, U+205F, U+3000. -/
def isSpaceCodePoint (n : Nat) : Bool :=
  (9 ≤ n && n ≤ 13) || (28 ≤ n && n ≤ 32) || n == 0x85 || n == 0xa0 || n == 0x1680 ||
    (0x2000 ≤ n && n ≤ 0x200a) || n == 0x2028 || n == 0x2029 || n == 0x202f || n == 0x205f ||
    n == 0x3000

/-- `c.isspace()`: what `str.strip()` removes and what `\s` matches in a `str` pattern. -/
def isPySpace (c : Char) : Bool := isSpaceCodePoint c.toNat

/-- The whitespace `int()` skips around a literal. CPython keeps an ASCII character as it is
and tests it with C's `isspace`, and turns only the other Unicode whitespace into a space, so
the separators `\x1c`-`\x1f` are not skipped. -/
def isIntSpace (c : Char) : Bool := isPySpace c && !(28 ≤ c.toNat && c.toNat ≤ 31)

/-- The first code point of each block of ten decimal digits (general category `Nd`) of
Unicode 14.0; each block holds the digits 0 to 9 in order. -/
def decimalZeros : List Nat :=
  [0x30, 0x660, 0x6f0, 0x7c0, 0x966, 0x9e6, 0xa66, 0xae6, 0xb66, 0xbe6, 0xc66, 0xce6, 0xd66,
    0xde6, 0xe50, 0xed0, 0xf20, 0x1040, 0x1090, 0x17e0, 0x1810, 0x1946, 0x19d0, 0x1a80,
    0x1a90, 0x1b50, 0x1bb0, 0x1c40, 0x1c50, 0xa620, 0xa8d0, 0xa900, 0xa9d0, 0xa9f0, 0xaa50,
    0xabf0, 0xff10, 0x104a0, 0x10d30, 0x11066, 0x110f0, 0x11136, 0x111d0, 0x112f0, 0x11450,
    0x114d0, 0x11650, 0x116c0, 0x11730, 0x118e0, 0x11950, 0x11c50, 0x11d50, 0x11da0, 0x16a60,
    0x16ac0, 0x16b50, 0x1d7ce, 0x1d7d8, 0x1d7e2, 0x1d7ec, 0x1d7f6, 0x1e140, 0x1e2f0, 0x1e950,
    0x1fbf0]

/-- `unicodedata.decimal(c, None)`: the value of a decimal digit of any script. These are the
characters `\d` matches in a `str` pattern and the digits `int()` reads. -/
def decimalDigit? (c : Char) : Option Nat :=
  (decimalZeros.find? fun z => z ≤ c.toNat && c.toNat < z + 10).map (c.toNat - ·)

/-- `c.isdecimal()`. -/
def isDecimal (c : Char) : Bool := (decimalDigit? c).isSome

/-- The value of a run of decimal digits, most significant first; leading zeros are allowed. -/
def decimalValue (ds : List Char) : Nat :=
  ds.foldl (fun n d => 10 * n + (decimalDigit? d).getD 0) 0

theorem decimalDigit?_lt {c : Char} {d : Nat} (h : decimalDigit? c = some d) : d < 10 := by
  obtain ⟨z, hz, rfl⟩ := Option.map_eq_some'.mp h
  have hrange := List.find?_some hz
  simp only [Bool.and_eq_true, decide_eq_true_eq] at hrange
  omega

/-- The ASCII digits are the first block. -/
theorem decimalDigit?_of_isDigit {c : Char} (h : c.isDigit) :
    decimalDigit? c = some (c.toNat - 48) := by
  have hc : 48 ≤ c.toNat ∧ c.toNat ≤ 57 := by
    simpa only [Char.isDigit, Bool.and_eq_true, decide_eq_true_eq, ge_iff_le, UInt32.le_def,
      BitVec.le_def] using h
  have hfirst : (48 ≤ c.toNat && c.toNat < 48 + 10) = true := by
    simp only [Bool.and_eq_true, decide_eq_true_eq]; omega
  have hzeros : decimalZeros = 48 :: decimalZeros.tail := rfl
  rw [decimalDigit?, hzeros, List.find?_cons_of_pos _ (by exact hfirst)]
  rfl

theorem isDecimal_of_isDigit {c : Char} (h : c.isDigit) : isDecimal c := by
  simp [isDecimal, decimalDigit?_of_isDigit h]

/-- Where the blocks of decimal digits lie: above the ASCII whitespace, and clear of every
other whitespace code point. -/
theorem decimalZeros_apart : decimalZeros.all (fun z => 32 < z &&
    ([0x85, 0xa0, 0x1680, 0x2028, 0x2029, 0x202f, 0x205f, 0x3000].all fun s =>
      s < z || z + 10 ≤ s) && (z + 10 ≤ 0x2000 || 0x200a < z)) := by
  decide

/-- No decimal digit is whitespace. -/
theorem isPySpace_of_isDecimal {c : Char} (h : isDecimal c) : isPySpace c = false := by
  obtain ⟨d, hd⟩ := Option.isSome_iff_exists.mp h
  obtain ⟨z, hz, -⟩ := Option.map_eq_some'.mp hd
  have hrange := List.find?_some hz
  have hblock := List.all_eq_true.mp decimalZeros_apart z (List.mem_of_find?_eq_some hz)
  simp only [Bool.and_eq_true, decide_eq_true_eq, List.all_cons, List.all_nil, Bool.or_eq_true,
    Bool.and_true] at hrange hblock
  simp only [isPySpace, isSpaceCodePoint, Bool.or_eq_false_iff, Bool.and_eq_false_iff,
    decide_eq_false_iff_not, beq_eq_false_iff_ne, ne_eq]
  omega

theorem isIntSpace_of_isDecimal {c : Char} (h : isDecimal c) : isIntSpace c = false := by
  simp [isIntSpace, isPySpace_of_isDecimal h]

theorem decimalValue_append (ds : List Char) (d : Char) :
    decimalValue (ds ++ [d]) = 10 * decimalValue ds + (decimalDigit? d).getD 0 := by
  simp [decimalValue, List.foldl_append]

/-- A run of `k` digits is worth less than `10 ^ k`. -/
theorem decimalValue_lt (ds : List Char) : decimalValue ds < 10 ^ ds.length := by
  induction ds using List.reverseRecOn with
  | nil => decide
  | append_singleton ds d ih =>
    have hd : (decimalDigit? d).getD 0 < 10 := by
      cases h : decimalDigit? d
      · decide
      · exact decimalDigit?_lt h
    rw [decimalValue_append, List.length_append, List.length_singleton, Nat.pow_succ]
    omega

/-! ## `str(n)` -/

/-- `Nat.toDigits` with enough fuel is the decimal of its argument, in front of the
accumulator. -/
theorem toDigitsCore_ten (fuel : Nat) :
    ∀ n ds, n < fuel → Nat.toDigitsCore 10 fuel n ds = Nat.toDigits 10 n ++ ds := by
  induction fuel using Nat.strong_induction_on with
  | _ fuel ih =>
    intro n ds hn
    obtain ⟨f, rfl⟩ : ∃ f, fuel = f + 1 := ⟨fuel - 1, by omega⟩
    unfold Nat.toDigits
    simp only [Nat.toDigitsCore]
    split
    · rfl
    · rw [ih f (by omega) _ _ (by omega), ih n (by omega) _ _ (by omega)]
      simp

/-- The last digit comes off the end. -/
theorem toDigits_ten (n : Nat) :
    Nat.toDigits 10 n =
      (if n < 10 then [] else Nat.toDigits 10 (n / 10)) ++ [Nat.digitChar (n % 10)] := by
  conv_lhs => unfold Nat.toDigits
  simp only [Nat.toDigitsCore]
  split
  · rename_i h; rw [if_pos (by omega)]; rfl
  · rename_i h; rw [if_neg (by omega), toDigitsCore_ten n _ _ (by omega)]

theorem digitChar_lt_ten : ∀ d < 10, (Nat.digitChar d).isDigit ∧
    (decimalDigit? (Nat.digitChar d)).getD 0 = d := by
  decide

/-- The decimal of a number is a non-empty run of ASCII digits that reads back as the
number. -/
theorem toDigits_ten_reads (n : Nat) :
    Nat.toDigits 10 n ≠ [] ∧ (∀ c ∈ Nat.toDigits 10 n, c.isDigit) ∧
      decimalValue (Nat.toDigits 10 n) = n := by
  induction n using Nat.strong_induction_on with
  | _ n ih =>
    obtain ⟨hdig, hval⟩ := digitChar_lt_ten (n % 10) (Nat.mod_lt _ (by omega))
    rw [toDigits_ten]
    split
    · refine ⟨by simp, by simpa using hdig, ?_⟩
      rw [decimalValue_append, hval, show decimalValue [] = 0 from rfl]
      omega
    · obtain ⟨-, hall, hv⟩ := ih (n / 10) (by omega)
      refine ⟨by simp, fun c hc => ?_, ?_⟩
      · simp only [List.mem_append, List.mem_singleton] at hc
        rcases hc with hc | rfl
        · exact hall c hc
        · exact hdig
      · rw [decimalValue_append, hv, hval]
        omega

/-- The decimal of `n` has at most `k` digits exactly when `n < 10 ^ k`. -/
theorem toDigits_length_le_iff {n k : Nat} (hk : 0 < k) :
    (Nat.toDigits 10 n).length ≤ k ↔ n < 10 ^ k := by
  obtain ⟨-, -, hval⟩ := toDigits_ten_reads n
  refine ⟨fun h => ?_, fun h => Nat.repr_length n k hk h⟩
  calc n = decimalValue (Nat.toDigits 10 n) := hval.symm
    _ < 10 ^ (Nat.toDigits 10 n).length := decimalValue_lt _
    _ ≤ 10 ^ k := Nat.pow_le_pow_right (by decide) h

theorem toString_data (n : Nat) : (toString n).data = Nat.toDigits 10 n := rfl

theorem toString_string (s : String) : toString s = s := rfl

theorem toDigits_zero : Nat.toDigits 10 0 = ['0'] := rfl

/-- `sys.get_int_max_str_digits()` at its default: the most digits `int()` reads and `str()`
prints. -/
def maxStrDigits : Nat := 4300

/-- The `ValueError` of `str()` on an `int` of more than `maxStrDigits` digits. -/
def toStrLimitError : PyExc :=
  ⟨.valueError, s!"Exceeds the limit ({maxStrDigits} digits) for integer string conversion; " ++
    "use sys.set_int_max_str_digits() to increase the limit"⟩

/-- `str(n)` for an `int`, which is also how an f-string prints it: CPython writes the
digits and refuses them when there are more than `maxStrDigits`, the sign not counted. -/
def pyIntStr (n : Int) : Except PyExc String :=
  if maxStrDigits < (Nat.toDigits 10 n.natAbs).length then .error toStrLimitError
  else .ok (toString n)

theorem pyIntStr_of_lt {n : Int} (h : n.natAbs < 10 ^ maxStrDigits) :
    pyIntStr n = .ok (toString n) :=
  if_neg (Nat.not_lt.mpr ((toDigits_length_le_iff (by decide)).mpr h))

theorem pyIntStr_of_le {n : Int} (h : 10 ^ maxStrDigits ≤ n.natAbs) :
    pyIntStr n = .error toStrLimitError :=
  if_pos (Nat.lt_of_not_le (mt (toDigits_length_le_iff (by decide)).mp (Nat.not_lt.mpr h)))

/-! ## `int(s)` -/

/-- What `int(s)` makes of a `str` in base 10. -/
inductive IntLiteral where
  | value (i : Int)
  /-- `ValueError: invalid literal for int() with base 10`. -/
  | invalid
  /-- `ValueError: Exceeds the limit`, with the number of digits of the literal. -/
  | tooLong (digits : Nat)
  deriving DecidableEq, Repr

/-- An optional sign: whether it is a minus, and the text after it. -/
def signOf : List Char → Bool × List Char
  | c :: rest => if c = '-' then (true, rest) else if c = '+' then (false, rest) else
      (false, c :: rest)
  | [] => (false, [])

/-- A character of the run `int()` reads: a decimal digit or an underscore. -/
def isDigitOrUnderscore (c : Char) : Bool := isDecimal c || c == '_'

/-- The literal after its sign, checked in the order of CPython's `PyLong_FromString`: the
longest run of digits and underscores is read first; an underscore must stand between two
digits (a run with none fails here too); a run of more than `maxStrDigits` digits is refused
before anything after it is looked at; then only whitespace may follow. -/
def readDigits (negative : Bool) (body : List Char) : IntLiteral :=
  let run := body.takeWhile isDigitOrUnderscore
  let digits := run.filter isDecimal
  if (run.splitOn '_').any List.isEmpty then .invalid
  else if maxStrDigits < digits.length then .tooLong digits.length
  else if (body.dropWhile isDigitOrUnderscore).all isIntSpace then
    .value (if negative then -(decimalValue digits : Int) else decimalValue digits)
  else .invalid

/-- `int(s)` for a `str`: whitespace, an optional sign, then the digits. -/
def parseIntLiteral (s : String) : IntLiteral :=
  let (negative, body) := signOf (s.data.dropWhile isIntSpace)
  readDigits negative body

/-- `int(s)`, with both of its `ValueError`s caught. -/
def intOfString (s : String) : Option Int :=
  match parseIntLiteral s with
  | .value i => some i
  | _ => none

/-- The `ValueError` of `int()` on a literal of more than `maxStrDigits` digits. -/
def toIntLimitError (digits : Nat) : PyExc :=
  ⟨.valueError, s!"Exceeds the limit ({maxStrDigits} digits) for integer string conversion: " ++
    s!"value has {digits} digits; use sys.set_int_max_str_digits() to increase the limit"⟩

/-- `int(x)`. Floats truncate toward zero; infinities overflow; `nan`, malformed or too long
strings and non-numbers are rejected. CPython quotes a rejected literal with `repr` and cuts
it at 200 characters; the model keeps its text as it is. -/
def PyVal.toInt : PyVal → Except PyExc Int
  | .bool b => .ok (if b then 1 else 0)
  | .int i => .ok i
  | .float (.finite q) => .ok (q.num.tdiv q.den)
  | .float .inf | .float .negInf =>
    .error ⟨.overflowError, "cannot convert float infinity to integer"⟩
  | .float .nan => .error ⟨.valueError, "cannot convert float NaN to integer"⟩
  | .str s => match parseIntLiteral s with
    | .value i => .ok i
    | .tooLong digits => .error (toIntLimitError digits)
    | .invalid => .error ⟨.valueError, s!"invalid literal for int() with base 10: {s}"⟩
  | .none | .list _ | .dict _ =>
    .error ⟨.typeError, "int() argument must be a string, a bytes-like object or a real number"⟩

/-- `int(x)` raises `TypeError` or `ValueError`, or `OverflowError` on an infinite float. -/
theorem PyVal.toInt_error {v : PyVal} {e : PyExc} (h : v.toInt = .error e) :
    e.kind = .typeError ∨ e.kind = .valueError ∨
      (e.kind = .overflowError ∧ (v = .float .inf ∨ v = .float .negInf)) := by
  unfold PyVal.toInt at h
  split at h <;> (try split at h) <;> cases h <;> simp [toIntLimitError]

/-- `int()` returns no number of more than `maxStrDigits` digits. -/
theorem parseIntLiteral_value_lt {s : String} {i : Int} (h : parseIntLiteral s = .value i) :
    i.natAbs < 10 ^ maxStrDigits := by
  simp only [parseIntLiteral, readDigits] at h
  split_ifs at h with _ hlong <;> injection h with h <;> subst h <;>
    simp only [Int.natAbs_neg, Int.natAbs_ofNat] <;>
    exact (decimalValue_lt _).trans_le (Nat.pow_le_pow_right (by decide) (Nat.not_lt.mp hlong))

/-- A non-empty run of decimal digits reads as its value, unless it is too long. -/
theorem readDigits_decimals (negative : Bool) {ds : List Char} (hne : ds ≠ [])
    (hd : ∀ c ∈ ds, isDecimal c) :
    readDigits negative ds = if maxStrDigits < ds.length then .tooLong ds.length else
      .value (if negative then -(decimalValue ds : Int) else decimalValue ds) := by
  have hrun : ∀ c ∈ ds, isDigitOrUnderscore c := fun c hc => by
    simp [isDigitOrUnderscore, hd c hc]
  have hsplit : ds.splitOn '_' = [ds] := List.splitOnP_eq_single _ _ fun c hc h =>
    absurd (hd c hc) (by rw [eq_of_beq h]; decide)
  simp [readDigits, List.takeWhile_eq_self_iff.mpr hrun, List.dropWhile_eq_nil_iff.mpr hrun,
    List.filter_eq_self.mpr hd, hsplit, hne]

theorem parseIntLiteral_decimals {ds : List Char} (hne : ds ≠ []) (hd : ∀ c ∈ ds, isDecimal c) :
    parseIntLiteral ⟨ds⟩ = if maxStrDigits < ds.length then .tooLong ds.length else
      .value (decimalValue ds) := by
  obtain ⟨c, cs, rfl⟩ := List.exists_cons_of_ne_nil hne
  have hc := hd c (List.mem_cons_self c cs)
  have hsign : c ≠ '-' ∧ c ≠ '+' := by
    constructor <;> rintro rfl <;> exact absurd hc (by decide)
  simp [parseIntLiteral, isIntSpace_of_isDecimal hc, signOf, hsign, readDigits_decimals false hne hd]

theorem parseIntLiteral_neg_decimals {ds : List Char} (hne : ds ≠ [])
    (hd : ∀ c ∈ ds, isDecimal c) :
    parseIntLiteral ⟨'-' :: ds⟩ = if maxStrDigits < ds.length then .tooLong ds.length else
      .value (-(decimalValue ds : Int)) := by
  have hminus : isIntSpace '-' = false := by decide
  simp [parseIntLiteral, hminus, signOf, readDigits_decimals true hne hd]

/-- **`int(str(k)) == k`** for every integer that `str` prints; one it refuses has more than
`maxStrDigits` digits, and `int()` refuses its decimal too. -/
theorem intOfString_toString : ∀ k : Int,
    intOfString (toString k) = if k.natAbs < 10 ^ maxStrDigits then some k else none
  | .ofNat n => by
    obtain ⟨hne, hdig, hval⟩ := toDigits_ten_reads n
    have hlen := @toDigits_length_le_iff n maxStrDigits (by decide)
    rw [show toString (Int.ofNat n) = ⟨Nat.toDigits 10 n⟩ from rfl, intOfString,
      parseIntLiteral_decimals hne fun c hc => isDecimal_of_isDigit (hdig c hc), hval]
    have habs : (Int.ofNat n).natAbs = n := rfl
    by_cases h : n < 10 ^ maxStrDigits
    · rw [if_neg (Nat.not_lt.mpr (hlen.mpr h)), habs, if_pos h]; rfl
    · rw [if_pos (Nat.not_le.mp (mt hlen.mp h)), habs, if_neg h]
  | .negSucc m => by
    obtain ⟨hne, hdig, hval⟩ := toDigits_ten_reads (m + 1)
    have hlen := @toDigits_length_le_iff (m + 1) maxStrDigits (by decide)
    rw [show toString (Int.negSucc m) = ⟨'-' :: Nat.toDigits 10 (m + 1)⟩ from rfl, intOfString,
      parseIntLiteral_neg_decimals hne fun c hc => isDecimal_of_isDigit (hdig c hc), hval]
    have habs : (Int.negSucc m).natAbs = m + 1 := rfl
    by_cases h : m + 1 < 10 ^ maxStrDigits
    · rw [if_neg (Nat.not_lt.mpr (hlen.mpr h)), habs, if_pos h]; rfl
    · rw [if_pos (Nat.not_le.mp (mt hlen.mp h)), habs, if_neg h]

/-! ## `d[k] = v` -/

/-- Item assignment `d[k] = v` for a `str` key: a `dict` gains or overwrites the key, any
other value raises `TypeError`. -/
def PyVal.setItem (d : PyVal) (k : String) (v : PyVal) : Except PyExc PyVal :=
  match d with
  | .dict es =>
    if es.any (·.1 == k) then .ok (.dict (es.map fun e => if e.1 == k then (k, v) else e))
    else .ok (.dict (es ++ [(k, v)]))
  | .list _ => .error ⟨.typeError, "list indices must be integers or slices, not str"⟩
  | .str _ => .error ⟨.typeError, "'str' object does not support item assignment"⟩
  | .none => .error ⟨.typeError, "'NoneType' object does not support item assignment"⟩
  | .bool _ => .error ⟨.typeError, "'bool' object does not support item assignment"⟩
  | .int _ => .error ⟨.typeError, "'int' object does not support item assignment"⟩
  | .float _ => .error ⟨.typeError, "'float' object does not support item assignment"⟩

/-- Item assignment on a `dict` never raises. -/
theorem PyVal.setItem_dict (entries : List (String × PyVal)) (k : String) (v : PyVal) :
    ∃ d, (PyVal.dict entries).setItem k v = .ok d := by
  simp only [PyVal.setItem]; split_ifs <;> exact ⟨_, rfl⟩

/-! ## `d[k]` -/

/-- `d[k]` for a `str` key: a `dict` gives the key's value or raises `KeyError`; any other
value raises `TypeError`. -/
def PyVal.getItem (d : PyVal) (k : String) : Except PyExc PyVal :=
  match d with
  | .dict es =>
    match es.find? (·.1 == k) with
    | .some (_, v) => .ok v
    | .none => .error ⟨.keyError, s!"'{k}'"⟩
  | .list _ => .error ⟨.typeError, "list indices must be integers or slices, not str"⟩
  | .str _ => .error ⟨.typeError, "string indices must be integers, not 'str'"⟩
  | .none => .error ⟨.typeError, "'NoneType' object is not subscriptable"⟩
  | .bool _ => .error ⟨.typeError, "'bool' object is not subscriptable"⟩
  | .int _ => .error ⟨.typeError, "'int' object is not subscriptable"⟩
  | .float _ => .error ⟨.typeError, "'float' object is not subscriptable"⟩

/-- `d.get(k, default)`: a `dict` gives the key's value or `default`; other values have no
`get`. -/
def PyVal.get (d : PyVal) (k : String) (default : PyVal) : Except PyExc PyVal :=
  match d with
  | .dict es => .ok (((es.find? (·.1 == k)).map (·.2)).getD default)
  | _ => .error (PyExc.attributeError "get")

/-- `for x in v`: a list gives its elements, a dict its keys and a string its characters;
the other values are not iterable. -/
def PyVal.iter : PyVal → Except PyExc (List PyVal)
  | .list xs => .ok xs
  | .dict es => .ok (es.map fun e => .str e.1)
  | .str s => .ok (s.data.map fun c => .str (String.singleton c))
  | .none => .error ⟨.typeError, "'NoneType' object is not iterable"⟩
  | .bool _ => .error ⟨.typeError, "'bool' object is not iterable"⟩
  | .int _ => .error ⟨.typeError, "'int' object is not iterable"⟩
  | .float _ => .error ⟨.typeError, "'float' object is not iterable"⟩

theorem find?_map_setKey (es : List (String × PyVal)) (k : String) (v : PyVal) :
    (es.map fun e => if e.1 == k then (k, v) else e).find? (·.1 == k) =
      if es.any (·.1 == k) then some (k, v) else none := by
  induction es with
  | nil => rfl
  | cons e es ih =>
    cases h : e.1 == k
    · simp only [List.map_cons, h, Bool.false_eq_true, if_false, List.find?_cons, ih,
        List.any_cons, Bool.false_or]
    · simp only [List.map_cons, h, if_true, List.find?_cons, beq_self_eq_true, List.any_cons,
        Bool.true_or]

/-- A key just assigned reads back as the value assigned. -/
theorem PyVal.getItem_of_setItem {d d' : PyVal} {k : String} {v : PyVal}
    (h : d.setItem k v = .ok d') : d'.getItem k = .ok v := by
  cases d <;> simp only [PyVal.setItem] at h <;> try cases h
  rename_i es
  split_ifs at h with hk <;> cases h
  · simp only [PyVal.getItem, find?_map_setKey, hk, if_true]
  · have hnone : es.find? (·.1 == k) = Option.none := List.find?_eq_none.mpr fun e he hek =>
      hk (List.any_eq_true.mpr ⟨e, he, hek⟩)
    simp [PyVal.getItem, List.find?_append, hnone]

/-! ## Sequencing -/

/-- A bound computation that returned: its first step returned too. -/
theorem bind_eq_ok {ε α β : Type} {x : Except ε α} {f : α → Except ε β} {b : β}
    (h : x >>= f = .ok b) : ∃ a, x = .ok a ∧ f a = .ok b := by
  cases x with
  | error e => cases h
  | ok a => exact ⟨a, rfl, h⟩

theorem except_ok_bind {ε α β : Type} (a : α) (f : α → Except ε β) :
    (Except.ok a >>= f) = f a :=
  rfl

/-! ## `round(x, 2)` -/

/-- Round half to even, the rule of Python's `round`. -/
def roundHalfEven (q : ℚ) : ℤ :=
  let n := ⌊q⌋
  let r := q - n
  if r < 1 / 2 then n
  else if 1 / 2 < r then n + 1
  else if n % 2 = 0 then n else n + 1

/-- `round(q, 2)`. -/
def round2 (q : ℚ) : ℚ := (roundHalfEven (q * 100) : ℚ) / 100

/-- Rounding to an integer stays between integer bounds. -/
theorem roundHalfEven_mem {q : ℚ} {a b : ℤ} (ha : (a : ℚ) ≤ q) (hb : q ≤ b) :
    a ≤ roundHalfEven q ∧ roundHalfEven q ≤ b := by
  have hfa : a ≤ ⌊q⌋ := Int.le_floor.mpr ha
  have hfb : ⌊q⌋ ≤ b := Int.floor_le_iff.mpr (by linarith)
  have hup : (⌊q⌋ : ℚ) < q → ⌊q⌋ + 1 ≤ b := fun h =>
    Int.lt_iff_add_one_le.mp (by exact_mod_cast h.trans_le hb)
  have hfl : (⌊q⌋ : ℚ) ≤ q := Int.floor_le q
  dsimp only [roundHalfEven]
  split_ifs <;> first
    | exact ⟨hfa, hfb⟩
    | exact ⟨by omega, hup (by linarith)⟩

/-- Rounding to two decimals stays in `[0, 100]`. -/
theorem round2_mem {q : ℚ} (h0 : 0 ≤ q) (h100 : q ≤ 100) : 0 ≤ round2 q ∧ round2 q ≤ 100 := by
  obtain ⟨h1, h2⟩ := roundHalfEven_mem (q := q * 100) (a := 0) (b := 10000) (by push_cast; linarith)
    (by push_cast; linarith)
  unfold round2
  constructor
  · positivity
  · rw [div_le_iff₀ (by norm_num)]; exact_mod_cast h2.trans (by norm_num)

end Tentacle
