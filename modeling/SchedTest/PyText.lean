import Mathlib.Data.List.Basic
import Mathlib.Data.List.Infix
import Mathlib.Algebra.Order.Field.Rat
import Mathlib.Algebra.Order.Field.Power
import Mathlib.Data.Nat.Digits

/-!
# Python text primitives

Everything the harness learns about the scheduler arrives as text, and it reads that text
with a handful of Python 2 operations: `string.split`, `str.split(sep)`, the regular
expression `notblank = re.compile('\s*\d+')`, `int()`, `float()` and `str()` of an integer.
This module gives each of them as a function on `String`, computed on the character list so
that it evaluates, and proves the facts the later modules use: `str()` of a natural number
reads back under `int()`, and `str()` of a natural number is never split apart.

`float()` is modelled by the exact value of the decimal it reads (`pyFloat`): the harness only
adds, compares and divides the values it reads, and what is proved of them holds in exact
arithmetic, which Python's doubles approximate.  Where a verdict of the harness turns on how
doubles round, in the stuck check of the torture test, `Binary64` computes as the machine
does: `float()` and `+` round each exact result to the nearest double, ties to even.
-/

namespace SchedTest

/-! ### Splitting -/

/-- Whitespace for `str.split()` and for `\s`: space, tab, newline, return, vertical tab and
form feed. -/
def isSpace (c : Char) : Bool :=
  c = ' ' || c = '\t' || c = '\n' || c = '\r' || c = '\x0b' || c = '\x0c'

/-- `string.split(s)`: the maximal runs of non-whitespace characters of `s`, in order. -/
def split (s : String) : List String :=
  ((s.data.splitOnP isSpace).filter (fun w => !w.isEmpty)).map String.mk

/-- `s.split(sep)` for a one-character separator: the fields between the occurrences of
`sep`, empty fields included. -/
def splitBy (s : String) (sep : Char) : List String :=
  (s.data.splitOn sep).map String.mk

/-- `notblank.match(line)` for `notblank = re.compile('\s*\d+')`: after its leading
whitespace the line has a digit. -/
def notblank (line : String) : Bool :=
  match line.data.dropWhile isSpace with
  | c :: _ => c.isDigit
  | [] => false

/-- `s.find(sub) >= 0`: `sub` occurs in `s`. -/
def contains (s sub : String) : Bool :=
  decide (sub.data <:+: s.data)

/-! ### Numbers -/

/-- The value of a list of decimal digits, most significant first. -/
def digitsValue (ds : List Char) : Nat :=
  ds.foldl (fun n c => 10 * n + (c.toNat - '0'.toNat)) 0

/-- `cs` without its leading and trailing whitespace, as `int()` and `float()` read it. -/
def strip (cs : List Char) : List Char :=
  ((cs.dropWhile isSpace).reverse.dropWhile isSpace).reverse

/-- An optional sign in front of `cs`: whether it is `-`, and what follows it. -/
def sign : List Char → Bool × List Char
  | '-' :: cs => (true, cs)
  | '+' :: cs => (false, cs)
  | cs => (false, cs)

/-- The value of `ds` when it is a non-empty run of decimal digits. -/
def natValue (ds : List Char) : Option Nat :=
  if ds ≠ [] ∧ ds.all Char.isDigit then some (digitsValue ds) else none

/-- A signed integer: an optional sign, then one or more digits. -/
def intValue (cs : List Char) : Option Int :=
  let (neg, ds) := sign cs
  (natValue ds).map fun n => if neg then -(n : Int) else n

/-- Python's `int(s)` on a string. -/
def pyInt (s : String) : Except String Int :=
  match intValue (strip s.data) with
  | some i => pure i
  | none => throw "ValueError: invalid literal for int() with base 10"

/-- Python's `float(s)` on a string in decimal notation: an optional sign, digits with an
optional fraction, and an optional exponent.  `inf` and `nan` have no exact value and are
refused. -/
def pyFloat (s : String) : Except String ℚ :=
  let (neg, cs) := sign (strip s.data)
  let whole := cs.takeWhile Char.isDigit
  let (frac, rest) := match cs.dropWhile Char.isDigit with
    | '.' :: r => (r.takeWhile Char.isDigit, r.dropWhile Char.isDigit)
    | r => ([], r)
  let exp : Option Int := match rest with
    | [] => some 0
    | e :: r => if e = 'e' ∨ e = 'E' then intValue r else none
  match exp with
  | some x =>
    if whole = [] ∧ frac = [] then throw "ValueError: invalid literal for float()"
    else
      let m : ℚ := digitsValue (whole ++ frac) * (10 : ℚ) ^ (x - frac.length)
      pure (if neg then -m else m)
  | none => throw "ValueError: invalid literal for float()"

/-! ### Doubles -/

/-- The number of binary digits of `n`, counting at most `fuel` of them. -/
def bitsOf : Nat → Nat → Nat
  | 0, _ => 0
  | fuel + 1, n => if n = 0 then 0 else bitsOf fuel (n / 2) + 1

/-- `2 ^ e` for an integer exponent. -/
def twoPow (e : Int) : ℚ :=
  if 0 ≤ e then ((2 ^ e.toNat : Nat) : ℚ) else ((2 ^ (-e).toNat : Nat) : ℚ)⁻¹

/-- `⌊log₂ q⌋` of a positive rational, from the binary digits of its numerator and
denominator, whose difference is that or one more. -/
def floorLog2 (q : ℚ) : Int :=
  let k : Int := (bitsOf q.num.natAbs q.num.natAbs : Int) - bitsOf q.den q.den
  if q < twoPow k then k - 1 else k

/-- `x` rounded to the nearest integer, ties to the even one. -/
def roundHalfEven (x : ℚ) : Int :=
  if x - x.floor < 1 / 2 then x.floor
  else if 1 / 2 < x - x.floor then x.floor + 1
  else if x.floor % 2 = 0 then x.floor else x.floor + 1

/-- The IEEE 754 double nearest to `q`, ties to even: `q` rounded to 53 significant bits, and
below `2 ^ -1022` to a multiple of `2 ^ -1074`.  Values beyond the largest double, which
round to infinity, are not modelled. -/
def roundDouble (q : ℚ) : ℚ :=
  if q = 0 then 0
  else
    let ulp := twoPow (max (floorLog2 |q|) (-1022) - 52)
    roundHalfEven (q / ulp) * ulp

/-- A Python float as the machine holds it: the value of an IEEE 754 double, which `+` rounds
to the nearest double. -/
structure Binary64 where
  val : ℚ

instance : Add Binary64 :=
  ⟨fun a b => ⟨roundDouble (a.val + b.val)⟩⟩

@[simp] theorem Binary64.add_val (a b : Binary64) : (a + b).val = roundDouble (a.val + b.val)
  := rfl

/-- The double nearest to `q`. -/
def Binary64.ofRat (q : ℚ) : Binary64 :=
  ⟨roundDouble q⟩

/-- `float(s)` as the machine computes it: the double nearest to the decimal `s` denotes. -/
def pyDouble (s : String) : Except String Binary64 :=
  Binary64.ofRat <$> pyFloat s

/-- `a / b` on Python 2 integers: floor division. -/
def pyIntDiv (a b : Int) : Except String Int :=
  if b = 0 then throw "ZeroDivisionError: integer division or modulo by zero"
  else pure (a.fdiv b)

@[simp] theorem except_pure {ε α : Type} (a : α) :
  (pure a : Except ε α) = .ok a
  := rfl

@[simp] theorem except_throw {ε α : Type} (e : ε) :
  (throw e : Except ε α) = .error e
  := rfl

@[simp] theorem except_ok_bind {ε α β : Type} (a : α) (f : α → Except ε β) :
  (Except.ok a >>= f) = f a
  := rfl

@[simp] theorem except_error_bind {ε α β : Type} (e : ε) (f : α → Except ε β) :
  (Except.error e >>= f) = Except.error e
  := rfl

@[simp] theorem except_map_ok {ε α β : Type} (f : α → β) (a : α) :
  Except.map f (Except.ok a : Except ε α) = .ok (f a)
  := rfl

/-! ### `str()` of a natural number reads back -/

private theorem toDigitsCore_append (fuel n : Nat) (ds : List Char) :
  Nat.toDigitsCore 10 fuel n ds = Nat.toDigitsCore 10 fuel n [] ++ ds
  := by
  induction fuel generalizing n ds with
  | zero => rfl
  | succ fuel ih =>
    simp only [Nat.toDigitsCore]
    split
    · rfl
    · rw [ih _ (_ :: ds), ih _ [_]]
      simp

private theorem digitChar_value {d : Nat} (h : d < 10) :
  (Nat.digitChar d).toNat - '0'.toNat = d ∧ (Nat.digitChar d).isDigit
  := by
  revert d
  decide

private theorem toDigitsCore_spec (fuel n : Nat) (h : n < fuel) :
  digitsValue (Nat.toDigitsCore 10 fuel n []) = n
    ∧ ∀ c ∈ Nat.toDigitsCore 10 fuel n [], c.isDigit
  := by
  induction fuel generalizing n with
  | zero => omega
  | succ fuel ih =>
    have hd := digitChar_value (Nat.mod_lt n (by decide : 10 > 0))
    simp only [Nat.toDigitsCore]
    split
    · simp only [digitsValue, List.foldl, List.mem_singleton, forall_eq]
      exact ⟨by omega, hd.2⟩
    · obtain ⟨hv, hc⟩ := ih (n / 10) (by omega)
      rw [toDigitsCore_append]
      simp only [digitsValue, List.foldl_append, List.foldl, List.mem_append,
        List.mem_singleton] at hv ⊢
      refine ⟨by omega, fun c hc' => ?_⟩
      rcases hc' with hc' | rfl
      exacts [hc c hc', hd.2]

/-- The digits of `str(n)`: decimal digits whose value is `n`. -/
theorem toString_digits (n : Nat) :
  digitsValue (toString n).data = n ∧ ∀ c ∈ (toString n).data, c.isDigit
  := toDigitsCore_spec (n + 1) n (by omega)

theorem toString_ne_nil (n : Nat) :
  (toString n).data ≠ []
  := by
  simp only [toString, Nat.repr, Nat.toDigits, List.asString, String.data]
  simp only [Nat.toDigitsCore]
  split
  · simp
  · simp [toDigitsCore_append _ _ [_]]

theorem natValue_toString (n : Nat) :
  natValue (toString n).data = some n
  := by
  obtain ⟨hv, hc⟩ := toString_digits n
  rw [natValue, if_pos ⟨toString_ne_nil n, List.all_eq_true.2 hc⟩, hv]

theorem toString_injective {m n : Nat} (h : toString m = toString n) :
  m = n
  := by
  have := natValue_toString m
  rwa [h, natValue_toString, Option.some_inj, eq_comm] at this

theorem not_isSpace_of_isDigit {c : Char} (h : c.isDigit) :
  isSpace c = false
  := by
  revert h
  simp only [Char.isDigit, isSpace, Bool.and_eq_true, decide_eq_true_eq]
  rintro ⟨h1, h2⟩
  simp only [Bool.or_eq_false_iff, decide_eq_false_iff_not]
  refine ⟨⟨⟨⟨⟨?_, ?_⟩, ?_⟩, ?_⟩, ?_⟩, ?_⟩ <;> rintro rfl <;> simp_all

theorem strip_toString (n : Nat) :
  strip (toString n).data = (toString n).data
  := by
  have hc := (toString_digits n).2
  have hs : ∀ c ∈ (toString n).data, isSpace c = false :=
    fun c h => not_isSpace_of_isDigit (hc c h)
  have keep : ∀ l : List Char, (∀ c ∈ l, isSpace c = false) → l.dropWhile isSpace = l := by
    rintro (_ | ⟨c, l⟩) h
    · rfl
    · simp [List.dropWhile, h c (List.mem_cons_self c l)]
  rw [strip, keep _ hs, keep _ (by simpa using hs), List.reverse_reverse]

/-- `int(str(n)) = n`. -/
theorem pyInt_toString (n : Nat) :
  pyInt (toString n) = .ok n
  := by
  have hsign : sign (toString n).data = (false, (toString n).data) := by
    obtain ⟨hv, hc⟩ := toString_digits n
    match h : (toString n).data, hc with
    | [], _ => rfl
    | c :: cs, hc =>
      have := hc c (by simp)
      unfold sign
      split <;> simp_all [Char.isDigit]
  simp only [pyInt, intValue, strip_toString, hsign, natValue_toString]
  rfl

end SchedTest
