import Mathlib.Data.Int.Log
import NimbusMesh.Foundation.Decimal
import Mathlib.Data.Sign.Basic

namespace Foundation.Doubles

open Foundation.Decimal

section Rounding

/-- The distance of the doubles around a number: 52 binary digits follow the leading one, and the smallest
    exponent is that of the subnormal numbers. -/
def exponent (x : ℚ) : ℤ := max (Int.log 2 |x| - 52) (-1074)

def spacing (x : ℚ) : ℚ := 2 ^ exponent x

/-- The nearest double, were there no largest one. -/
def nearestDouble (x : ℚ) : ℚ := roundHalfEven (x / spacing x) * spacing x

variable {x y : ℚ}

theorem spacing_pos (x : ℚ) : 0 < spacing x := by
  unfold spacing
  exact zpow_pos two_pos _

theorem nearestDouble_zero : nearestDouble 0 = 0 := by
  simp [nearestDouble, roundHalfEven]

theorem nearestDouble_neg (x : ℚ) : nearestDouble (-x) = -nearestDouble x := by
  have same : spacing (-x) = spacing x := by rw [spacing, spacing, exponent, exponent, abs_neg]
  rw [nearestDouble, nearestDouble, same, neg_div, roundHalfEven_neg]
  push_cast
  ring

theorem abs_lt_spacing (x : ℚ) : |x| < 2 ^ 53 * spacing x := by
  have power : (2 : ℚ) ^ 53 * spacing x = 2 ^ (exponent x + 53) := by
    rw [spacing, zpow_add₀ two_ne_zero, mul_comm]
    rfl
  have digits : Int.log 2 |x| + 1 ≤ exponent x + 53 := by
    unfold exponent
    omega
  rw [power]
  calc |x| < (2 : ℚ) ^ (Int.log 2 |x| + 1) := Int.lt_zpow_succ_log_self one_lt_two _
    _ ≤ 2 ^ (exponent x + 53) := zpow_le_zpow_right₀ one_le_two digits

theorem spacing_le_abs (nonzero : x ≠ 0) (normal : -1074 < exponent x) : 2 ^ 52 * spacing x ≤ |x| := by
  have power : (2 : ℚ) ^ 52 * spacing x = 2 ^ (exponent x + 52) := by
    rw [spacing, zpow_add₀ two_ne_zero, mul_comm]
    rfl
  have digits : exponent x + 52 = Int.log 2 |x| := by
    unfold exponent at normal ⊢
    omega
  rw [power, digits]
  exact Int.zpow_log_le_self one_lt_two (abs_pos.mpr nonzero)

theorem exponent_mono (positive : 0 < x) (le : x ≤ y) : exponent x ≤ exponent y := by
  have digits : Int.log 2 |x| ≤ Int.log 2 |y| := by
    rw [abs_of_pos positive, abs_of_pos (positive.trans_le le)]
    exact Int.log_mono_right positive le
  unfold exponent
  omega

theorem nearestDouble_le {n : ℤ} (le : x ≤ n * spacing x) : nearestDouble x ≤ n * spacing x := by
  have scaled : x / spacing x ≤ n := (div_le_iff₀ (spacing_pos x)).mpr le
  have rounded := roundHalfEven_mono scaled
  rw [roundHalfEven_intCast] at rounded
  unfold nearestDouble
  exact mul_le_mul_of_nonneg_right (by exact_mod_cast rounded) (spacing_pos x).le

theorem le_nearestDouble {n : ℤ} (le : n * spacing x ≤ x) : n * spacing x ≤ nearestDouble x := by
  have scaled : n ≤ x / spacing x := (le_div_iff₀ (spacing_pos x)).mpr le
  have rounded := roundHalfEven_mono scaled
  rw [roundHalfEven_intCast] at rounded
  unfold nearestDouble
  exact mul_le_mul_of_nonneg_right (by exact_mod_cast rounded) (spacing_pos x).le

theorem nearestDouble_nonneg (nonneg : 0 ≤ x) : 0 ≤ nearestDouble x := by
  have least := @le_nearestDouble x 0 (by simpa using nonneg)
  simpa using least

theorem nearestDouble_mono_of_pos (positive : 0 < x) (le : x ≤ y) : nearestDouble x ≤ nearestDouble y := by
  rcases (exponent_mono positive le).eq_or_lt with same | below
  · have spaced : spacing x = spacing y := by rw [spacing, spacing, same]
    have scaled : x / spacing y ≤ y / spacing y := div_le_div_of_nonneg_right le (spacing_pos y).le
    unfold nearestDouble
    rw [spaced]
    exact mul_le_mul_of_nonneg_right (by exact_mod_cast roundHalfEven_mono scaled) (spacing_pos y).le
  · -- A power of two lies between the two numbers, and it is a double in either range.
    have normal : -1074 < exponent y := lt_of_le_of_lt (le_max_right _ _) below
    have larger := positive.trans_le le
    have most : x ≤ ((2 ^ 53 : ℤ) : ℚ) * spacing x := by
      have less := abs_lt_spacing x
      rw [abs_of_pos positive] at less
      push_cast
      exact less.le
    have least : ((2 ^ 52 : ℤ) : ℚ) * spacing y ≤ y := by
      have full := spacing_le_abs larger.ne' normal
      rw [abs_of_pos larger] at full
      push_cast
      exact full
    have doubled : 2 * spacing x ≤ spacing y := by
      have step : (2 : ℚ) * spacing x = 2 ^ (exponent x + 1) := by
        rw [spacing, zpow_add₀ two_ne_zero, mul_comm]
        rfl
      rw [step]
      exact zpow_le_zpow_right₀ one_le_two (by omega)
    calc nearestDouble x ≤ ((2 ^ 53 : ℤ) : ℚ) * spacing x := nearestDouble_le most
      _ = ((2 ^ 52 : ℤ) : ℚ) * (2 * spacing x) := by push_cast; ring
      _ ≤ ((2 ^ 52 : ℤ) : ℚ) * spacing y := mul_le_mul_of_nonneg_left doubled (by positivity)
      _ ≤ nearestDouble y := le_nearestDouble least

theorem nearestDouble_mono (le : x ≤ y) : nearestDouble x ≤ nearestDouble y := by
  rcases lt_trichotomy x 0 with negative | rfl | positive
  · rcases le_or_gt 0 y with nonneg | below
    · have mirrored := nearestDouble_nonneg (neg_nonneg.mpr negative.le)
      rw [nearestDouble_neg] at mirrored
      have least := nearestDouble_nonneg nonneg
      linarith
    · have mirrored := nearestDouble_mono_of_pos (neg_pos.mpr below) (neg_le_neg le)
      rw [nearestDouble_neg, nearestDouble_neg] at mirrored
      exact neg_le_neg_iff.mp mirrored
  · rw [nearestDouble_zero]
    exact nearestDouble_nonneg le
  · exact nearestDouble_mono_of_pos positive le

theorem nearestDouble_of_multiple {n : ℤ} {e : ℤ} (least : exponent (n * 2 ^ e) ≤ e) :
    nearestDouble (n * 2 ^ e) = n * 2 ^ e := by
  obtain ⟨more, finer⟩ := Int.le.dest least
  have whole : (n : ℚ) * 2 ^ e / spacing (n * 2 ^ e) = ((n * 2 ^ more : ℤ) : ℚ) := by
    rw [div_eq_iff (spacing_pos _).ne', spacing]
    nth_rewrite 1 [← finer]
    rw [zpow_add₀ two_ne_zero, zpow_natCast]
    push_cast
    ring
  rw [nearestDouble, whole, roundHalfEven_intCast, ← whole, div_mul_cancel₀ _ (spacing_pos _).ne']

theorem exponent_le {e : ℤ} (nonzero : x ≠ 0) (small : |x| < 2 ^ (e + 53)) (least : -1074 ≤ e) :
    exponent x ≤ e := by
  have digits : Int.log 2 |x| < e + 53 := (Int.lt_zpow_iff_log_lt one_lt_two (abs_pos.mpr nonzero)).mp small
  unfold exponent
  omega

/-- A number of at most 53 binary digits above the lowest exponent is a double. -/
theorem nearestDouble_eq {n e : ℤ} (digits : |n| ≤ 2 ^ 53) (least : -1074 ≤ e) :
    nearestDouble (n * 2 ^ e) = n * 2 ^ e := by
  have power : (2 : ℚ) ^ (e + 53) = 2 ^ 53 * 2 ^ e := by
    rw [zpow_add₀ two_ne_zero, mul_comm]
    rfl
  have positive : (0 : ℚ) < 2 ^ e := zpow_pos two_pos _
  by_cases zero : n = 0
  · rw [zero, Int.cast_zero, zero_mul, nearestDouble_zero]
  have nonzero : (n : ℚ) * 2 ^ e ≠ 0 := mul_ne_zero (by exact_mod_cast zero) positive.ne'
  have size : |(n : ℚ) * 2 ^ e| = (|n| : ℤ) * 2 ^ e := by rw [abs_mul, abs_of_pos positive, Int.cast_abs]
  rcases digits.lt_or_eq with below | top
  · apply nearestDouble_of_multiple
    apply exponent_le nonzero _ least
    rw [size, power]
    exact mul_lt_mul_of_pos_right (by exact_mod_cast below) positive
  · -- The power of two at the top has one digit: half of it, at the next exponent, is a whole number.
    have half : ∃ m : ℤ, n = 2 * m := by
      rcases (abs_eq (by positivity)).mp top with rfl | rfl
      · exact ⟨2 ^ 52, by norm_num⟩
      · exact ⟨-2 ^ 52, by norm_num⟩
    obtain ⟨m, rfl⟩ := half
    have shifted : ((2 * m : ℤ) : ℚ) * 2 ^ e = m * 2 ^ (e + 1) := by
      rw [zpow_add₀ two_ne_zero]
      push_cast
      ring
    rw [shifted] at nonzero size ⊢
    apply nearestDouble_of_multiple
    apply exponent_le nonzero _ (by omega)
    have larger : (2 : ℚ) ^ (e + 1 + 53) = 2 * (2 ^ 53 * 2 ^ e) := by
      rw [add_right_comm, zpow_add₀ two_ne_zero, power]
      ring
    rw [size, top, larger]
    push_cast
    linarith [mul_pos (show (0 : ℚ) < 2 ^ 53 by positivity) positive]

theorem nearestDouble_idempotent (x : ℚ) : nearestDouble (nearestDouble x) = nearestDouble x := by
  have less : |x / spacing x| ≤ 2 ^ 53 := by
    rw [abs_div, abs_of_pos (spacing_pos x), div_le_iff₀ (spacing_pos x)]
    exact (abs_lt_spacing x).le
  have bounds := abs_le.mp less
  have low := roundHalfEven_mono (show ((-2 ^ 53 : ℤ) : ℚ) ≤ x / spacing x by push_cast; exact bounds.1)
  have high := roundHalfEven_mono (show x / spacing x ≤ ((2 ^ 53 : ℤ) : ℚ) by push_cast; exact bounds.2)
  rw [roundHalfEven_intCast] at low high
  exact nearestDouble_eq (abs_le.mpr ⟨low, high⟩) (le_max_right _ _)

theorem nearestDouble_one : nearestDouble 1 = 1 := by
  have exact := @nearestDouble_eq 1 0 (by norm_num) (by norm_num)
  simpa using exact

theorem abs_nearestDouble_sub_le (x : ℚ) : |nearestDouble x - x| ≤ |x| / 2 ^ 53 + 1 / 2 ^ 1075 := by
  by_cases zero : x = 0
  · rw [zero, nearestDouble_zero, sub_self, abs_zero]
    positivity
  have rounded : |nearestDouble x - x| ≤ 1 / 2 * spacing x := by
    have split : nearestDouble x - x = (roundHalfEven (x / spacing x) - x / spacing x) * spacing x := by
      rw [nearestDouble, sub_mul, div_mul_cancel₀ _ (spacing_pos x).ne']
    rw [split, abs_mul, abs_of_pos (spacing_pos x)]
    exact mul_le_mul_of_nonneg_right (abs_roundHalfEven_sub_le _) (spacing_pos x).le
  rcases (show -1074 ≤ exponent x from le_max_right _ _).eq_or_lt with low | normal
  · have lowest : spacing x = 2 * (1 / 2 ^ 1075) := by
      rw [spacing, ← low, show (1074 : ℤ) = ((1074 : ℕ) : ℤ) from rfl, zpow_neg, zpow_natCast]
      rw [show (2 : ℚ) ^ 1075 = 2 ^ 1074 * 2 from pow_succ 2 1074]
      field_simp
    rw [lowest] at rounded
    have nonneg : 0 ≤ |x| / 2 ^ 53 := by positivity
    generalize (1 : ℚ) / 2 ^ 1075 = step at rounded ⊢
    linarith
  · have digits := spacing_le_abs zero normal
    have relative : 1 / 2 * spacing x ≤ |x| / 2 ^ 53 := by
      rw [le_div_iff₀ (by positivity)]
      linarith
    exact (rounded.trans relative).trans (le_add_of_nonneg_right (by positivity))

end Rounding

/-- A number of a format with infinities. The sign of a zero is left out: no comparison sees it. -/
inductive Double where
  | finite (value : ℚ)
  | inf
  | negInf
  | nan
  deriving DecidableEq, Repr

namespace Double

def sign : Double → SignType
  | finite value => SignType.sign value
  | inf => 1
  | negInf => -1
  | nan => 0

def infinite : SignType → Double
  | .pos => inf
  | .neg => negInf
  | .zero => nan

protected def Lt : Double → Double → Prop
  | finite x, finite y => x < y
  | finite _, inf => True
  | negInf, finite _ => True
  | negInf, inf => True
  | _, _ => False

instance : ∀ x y : Double, Decidable (x.Lt y)
  | finite x, finite y => inferInstanceAs (Decidable (x < y))
  | finite _, inf => .isTrue trivial
  | negInf, finite _ => .isTrue trivial
  | negInf, inf => .isTrue trivial
  | finite _, negInf => .isFalse id
  | finite _, nan => .isFalse id
  | negInf, negInf => .isFalse id
  | negInf, nan => .isFalse id
  | inf, _ => .isFalse id
  | nan, _ => .isFalse id

protected def Le (x y : Double) : Prop := x.Lt y ∨ (x = y ∧ x ≠ nan)

instance (x y : Double) : Decidable (x.Le y) := inferInstanceAs (Decidable (_ ∨ _))

/-- The first of two numbers, unless the second one is greater. -/
protected def max (x y : Double) : Double := if x.Lt y then y else x

/-- The first of two numbers, unless the second one is less. -/
protected def min (x y : Double) : Double := if y.Lt x then y else x

@[simp] theorem finite_lt {x y : ℚ} : (finite x).Lt (finite y) ↔ x < y := Iff.rfl

@[simp] theorem finite_le {x y : ℚ} : (finite x).Le (finite y) ↔ x ≤ y := by
  simp [Double.Le, le_iff_lt_or_eq]

@[simp] theorem max_finite (x y : ℚ) : (finite x).max (finite y) = finite (max x y) := by
  rw [Double.max]
  split
  · rename_i less
    rw [max_eq_right (finite_lt.mp less).le]
  · rename_i more
    rw [max_eq_left (not_lt.mp more)]

@[simp] theorem min_finite (x y : ℚ) : (finite x).min (finite y) = finite (min x y) := by
  rw [Double.min]
  split
  · rename_i less
    rw [min_eq_right (finite_lt.mp less).le]
  · rename_i more
    rw [min_eq_left (not_lt.mp more)]

theorem infinite_of_pos {x : ℚ} (positive : 0 < x) : infinite (SignType.sign x) = inf := by
  rw [sign_pos positive]
  rfl

theorem finite_lt_iff {x : ℚ} {y : Double} : (finite x).Lt y ↔ y = inf ∨ ∃ value, y = finite value ∧ x < value := by
  cases y <;> simp [Double.Lt]

theorem max_cases (x : ℚ) (y : Double) :
    (finite x).max y = inf ∨ ∃ value, (finite x).max y = finite value ∧ x ≤ value := by
  rw [Double.max]
  split
  · rename_i less
    rcases finite_lt_iff.mp less with rfl | ⟨value, rfl, more⟩
    · exact .inl rfl
    · exact .inr ⟨value, rfl, more.le⟩
  · exact .inr ⟨x, rfl, le_refl x⟩

end Double

/-- How a format rounds: to the nearest of its numbers, and from a limit on to an infinity. -/
structure Arithmetic where
  nearest : ℚ → ℚ
  limit : Option ℚ

namespace Arithmetic

def binary64 : Arithmetic := ⟨nearestDouble, some (2 ^ 1024)⟩

def exact : Arithmetic := ⟨id, none⟩

def Overflows (arithmetic : Arithmetic) (value : ℚ) : Prop := ∃ bound ∈ arithmetic.limit, bound ≤ |value|

instance (arithmetic : Arithmetic) (value : ℚ) : Decidable (arithmetic.Overflows value) :=
  match found : arithmetic.limit with
  | none => .isFalse (by rintro ⟨bound, member, _⟩; rw [found] at member; cases member)
  | some bound => decidable_of_iff (bound ≤ |value|) (by simp [Overflows, found])

section Operations

variable (arithmetic : Arithmetic)

def round (x : ℚ) : Double :=
  if arithmetic.Overflows (arithmetic.nearest x) then .infinite (SignType.sign x)
  else .finite (arithmetic.nearest x)

def literal (x : ℚ) : Double := .finite (arithmetic.nearest x)

def sub : Double → Double → Double
  | .nan, _ => .nan
  | _, .nan => .nan
  | .finite x, .finite y => arithmetic.round (x - y)
  | x, .finite _ => x
  | .inf, .inf => .nan
  | .negInf, .negInf => .nan
  | _, .inf => .negInf
  | _, .negInf => .inf

def mul : Double → Double → Double
  | .nan, _ => .nan
  | _, .nan => .nan
  | .finite x, .finite y => arithmetic.round (x * y)
  | x, y => .infinite (x.sign * y.sign)

/-- Division, which has no value where the divisor is a zero. -/
def div : Double → Double → Option Double
  | x, .finite y =>
    if y = 0 then none
    else match x with
      | .finite x => some (arithmetic.round (x / y))
      | .nan => some .nan
      | x => some (.infinite (x.sign * SignType.sign y))
  | .finite _, .nan => some .nan
  | .finite _, _ => some (.finite 0)
  | _, _ => some .nan

def ofInt (n : ℤ) : Option Double :=
  if arithmetic.Overflows (arithmetic.nearest n) then none else some (.finite (arithmetic.nearest n))

def roundTo (digits : ℕ) : Double → Double
  | .finite x => arithmetic.round (Decimal.roundTo digits x)
  | x => x

/-- What the results below need of a format: rounding keeps the order and the numbers that it gives, and its error is
    small. -/
structure Accurate : Prop where
  mono : ∀ {x y : ℚ}, x ≤ y → arithmetic.nearest x ≤ arithmetic.nearest y
  idempotent : ∀ x, arithmetic.nearest (arithmetic.nearest x) = arithmetic.nearest x
  zero : arithmetic.nearest 0 = 0
  one : arithmetic.nearest 1 = 1
  error : ∀ x, |arithmetic.nearest x - x| ≤ |x| / 2 ^ 53 + 1 / 2 ^ 200

end Operations

theorem accurate_binary64 : Accurate binary64 where
  mono := nearestDouble_mono
  idempotent := nearestDouble_idempotent
  zero := nearestDouble_zero
  one := nearestDouble_one
  error := fun x => by
    have finer : (1 : ℚ) / 2 ^ 1075 ≤ 1 / 2 ^ 200 := one_div_pow_le_one_div_pow_of_le one_le_two (by omega)
    exact (abs_nearestDouble_sub_le x).trans (add_le_add_right finer _)

section Exact

theorem not_overflows_exact (x : ℚ) : ¬ exact.Overflows x := by
  rintro ⟨_, limit, _⟩
  cases limit

@[simp] theorem round_exact (x : ℚ) : exact.round x = .finite x := if_neg (not_overflows_exact x)

@[simp] theorem literal_exact (x : ℚ) : exact.literal x = .finite x := rfl

@[simp] theorem ofInt_exact (n : ℤ) : exact.ofInt n = some (.finite n) := if_neg (not_overflows_exact n)

end Exact

section Results

variable {arithmetic : Arithmetic} (accurate : arithmetic.Accurate) {x y : ℚ}

theorem round_of_not_overflows (fits : ¬ arithmetic.Overflows (arithmetic.nearest x)) :
    arithmetic.round x = .finite (arithmetic.nearest x) := if_neg fits

theorem round_cases_of_pos (positive : 0 < x) :
    arithmetic.round x = .inf ∨ arithmetic.round x = .finite (arithmetic.nearest x) := by
  rw [round]
  split
  · exact .inl (Double.infinite_of_pos positive)
  · exact .inr rfl

theorem Overflows.mono (overflows : arithmetic.Overflows x) (le : |x| ≤ |y|) : arithmetic.Overflows y := by
  obtain ⟨bound, limit, reached⟩ := overflows
  exact ⟨bound, limit, reached.trans le⟩

include accurate

theorem Accurate.nonneg (nonneg : 0 ≤ x) : 0 ≤ arithmetic.nearest x := by
  have rounded := accurate.mono nonneg
  rwa [accurate.zero] at rounded

theorem Accurate.le_one (most : x ≤ 1) : arithmetic.nearest x ≤ 1 := by
  have rounded := accurate.mono most
  rwa [accurate.one] at rounded

theorem Accurate.near_of_le_one (nonneg : 0 ≤ x) (most : x ≤ 1) :
    x - 1 / 10 ^ 15 ≤ arithmetic.nearest x ∧ arithmetic.nearest x ≤ x + 1 / 10 ^ 15 := by
  have error := abs_le.mp (accurate.error x)
  rw [abs_of_nonneg nonneg] at error
  have relative : x / 2 ^ 53 ≤ 1 / 2 ^ 53 := by gcongr
  norm_num at error relative ⊢
  constructor <;> linarith

theorem Accurate.abs_nearest_mul_le (nonneg : 0 ≤ y) (most : y ≤ 1) :
    |arithmetic.nearest (arithmetic.nearest x * y)| ≤ |arithmetic.nearest x| := by
  rcases le_total 0 (arithmetic.nearest x) with above | below
  · have share := accurate.mono (mul_le_of_le_one_right above most)
    rw [accurate.idempotent] at share
    rwa [abs_of_nonneg (accurate.nonneg (mul_nonneg above nonneg)), abs_of_nonneg above]
  · have share := accurate.mono (show arithmetic.nearest x ≤ arithmetic.nearest x * y by nlinarith)
    have least := accurate.mono (mul_nonpos_of_nonpos_of_nonneg below nonneg)
    rw [accurate.idempotent] at share
    rw [accurate.zero] at least
    rw [abs_of_nonpos least, abs_of_nonpos below]
    linarith

theorem Accurate.mul_share (fits : ¬ arithmetic.Overflows (arithmetic.nearest x)) (nonneg : 0 ≤ y) (most : y ≤ 1) :
    arithmetic.mul (.finite (arithmetic.nearest x)) (.finite y) =
      .finite (arithmetic.nearest (arithmetic.nearest x * y)) :=
  round_of_not_overflows (fun overflows => fits (overflows.mono (accurate.abs_nearest_mul_le nonneg most)))

end Results

theorem not_overflows_binary64 {x : ℚ} (least : 0 ≤ x) (most : x ≤ 1) : ¬ binary64.Overflows x := by
  rintro ⟨bound, limit, reached⟩
  cases limit
  rw [abs_of_nonneg least] at reached
  exact absurd (reached.trans most) (not_le_of_gt (one_lt_pow₀ one_lt_two (by omega)))

theorem roundTo_binary64 (digits : ℕ) {x : ℚ} (least : 0 ≤ Decimal.roundTo digits x)
    (most : Decimal.roundTo digits x ≤ 1) :
    binary64.roundTo digits (.finite x) = .finite (nearestDouble (Decimal.roundTo digits x)) :=
  round_of_not_overflows (not_overflows_binary64 (accurate_binary64.nonneg least) (accurate_binary64.le_one most))

end Arithmetic

end Foundation.Doubles
