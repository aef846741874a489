import Mathlib.Algebra.Order.Field.Power
import Mathlib.Algebra.Order.Field.Rat
import Mathlib.Tactic.FieldSimp
import Mathlib.Tactic.Linarith
import Mathlib.Tactic.NormNum
import Mathlib.Tactic.Positivity
import Mathlib.Tactic.Ring
import SheetSchema.Proofs.Number.Digits

/-!
# Rounding to the nearest double

Around every finite double other than zero lies an interval of ratios that are nearer to it than to
any other double. Rounding gives every ratio of the interval that double, so a decimal reads as a
double as soon as it lies in its interval, however it is spelled.
-/

namespace SheetSchema

/-! ## Powers -/

/-- A power with a positive exponent over one with a negative exponent: the power itself. -/
theorem pow_toNat_div_pow_toNat (base : ℚ) (nonzero : base ≠ 0) (n : ℤ) :
    base ^ n.toNat / base ^ (-n).toNat = base ^ n := by
  rw [← zpow_natCast, ← zpow_natCast, ← zpow_sub₀ nonzero]
  congr 1
  omega

/-- A scale may be negative, so a number is the ratio of two powers. -/
theorem twoPow_toNat_div (n : ℤ) : (twoPow n.toNat : ℚ) / twoPow (-n).toNat = 2 ^ n := by
  have hpow := pow_toNat_div_pow_toNat 2 (by norm_num) n
  unfold twoPow
  exact_mod_cast hpow

theorem tenPow_toNat_div (n : ℤ) : (tenPow n.toNat : ℚ) / tenPow (-n).toNat = 10 ^ n := by
  have hpow := pow_toNat_div_pow_toNat 10 (by norm_num) n
  unfold tenPow
  exact_mod_cast hpow

namespace Binary64

/-! ## Parts of a number -/

/-- The absolute value of a finite number. -/
def size (x : Binary64) : ℚ := x.significand * 2 ^ x.scale

/-- The magnitude of a number, put together from its scale and its significand. -/
theorem magnitude_eq (x : Binary64) :
    x.magnitude = (x.scale + 1074).toNat * exponentBit + x.significand := by
  have hparts : exponentBit * x.exponentField + x.fractionField = x.magnitude :=
    Nat.div_add_mod x.magnitude exponentBit
  unfold scale significand
  by_cases hfield : x.exponentField = 0
  · rw [if_pos hfield, if_pos hfield]
    rw [hfield, Nat.mul_zero] at hparts
    simp only [Int.reduceNeg, Int.reduceAdd, Int.toNat_zero, Nat.zero_mul]
    omega
  · rw [if_neg hfield, if_neg hfield]
    obtain ⟨field, hsucc⟩ := Nat.exists_eq_succ_of_ne_zero hfield
    rw [hsucc] at hparts ⊢
    have hexponent : (((field.succ : ℕ) : ℤ) - 1075 + 1074).toNat = field := by omega
    rw [hexponent, ← hparts, Nat.succ_eq_add_one, Nat.mul_add, Nat.mul_comm field]
    omega

theorem significand_lt (x : Binary64) : x.significand < 2 * exponentBit := by
  have hfraction : x.fractionField < exponentBit := Nat.mod_lt _ (by decide)
  unfold significand
  split <;> omega

theorem le_scale (x : Binary64) : -1074 ≤ x.scale := by
  unfold scale
  split <;> omega

/-- Above the smallest scale the leading bit of a significand is set. -/
theorem exponentBit_le_significand {x : Binary64} (above : -1074 < x.scale) :
    exponentBit ≤ x.significand := by
  unfold scale at above
  unfold significand
  split at above
  · omega
  · next hfield => rw [if_neg hfield]; omega

theorem scale_le {x : Binary64} (finite : x.isFinite = true) : x.scale ≤ 971 := by
  have hmagnitude : x.magnitude < infinityMagnitude := by simpa [isFinite] using finite
  have hfield : x.exponentField ≤ 2046 := by
    unfold exponentField infinityMagnitude at *
    unfold exponentBit
    omega
  unfold scale
  split <;> omega

theorem significand_pos {x : Binary64} (nonzero : x.isZero = false) : 0 < x.significand := by
  have hmagnitude : x.magnitude ≠ 0 := by simpa [isZero] using nonzero
  have hparts := x.magnitude_eq
  by_contra hnone
  by_cases habove : -1074 < x.scale
  · have hbit := exponentBit_le_significand habove
    unfold exponentBit at hbit
    omega
  · have hscale : (x.scale + 1074).toNat = 0 := by omega
    rw [hscale] at hparts
    omega

/-! ## The interval of a number -/

/-- Quarters of a unit down to the end of the interval: half a unit, but half of that where the
units below are half as large. -/
def gapBelow (x : Binary64) : ℕ := if x.fractionField = 0 && 1 < x.exponentField then 1 else 2

/-- A ratio in the interval of a number; its ends belong to it if the significand is even. -/
structure Covers (x : Binary64) (ratio : ℚ) : Prop where
  lower : (x.significand - x.gapBelow / 4) * 2 ^ x.scale ≤ ratio
  upper : ratio ≤ (x.significand + 1 / 2) * 2 ^ x.scale
  strict : x.significand % 2 = 1 →
    (x.significand - x.gapBelow / 4) * 2 ^ x.scale < ratio ∧
      ratio < (x.significand + 1 / 2) * 2 ^ x.scale

theorem gapBelow_le (x : Binary64) : x.gapBelow ≤ 2 := by
  unfold gapBelow
  split <;> omega

/-- Below the least significand of a scale the units are half as large. -/
theorem gapBelow_eq_one {x : Binary64} (least : x.significand = exponentBit)
    (above : -1074 < x.scale) : x.gapBelow = 1 := by
  unfold significand at least
  unfold scale at above
  by_cases hfield : x.exponentField = 0
  · rw [if_pos hfield] at above
    omega
  · rw [if_neg hfield] at least above
    unfold gapBelow
    rw [if_pos]
    simp only [Bool.and_eq_true, decide_eq_true_eq]
    omega

/-- The interval of a number that is not zero is positive. -/
theorem Covers.pos {x : Binary64} {ratio : ℚ} (covers : x.Covers ratio)
    (nonzero : x.isZero = false) : 0 < ratio := by
  have hsignificand : (1 : ℚ) ≤ x.significand := by exact_mod_cast significand_pos nonzero
  have hgap : (x.gapBelow : ℚ) ≤ 2 := by exact_mod_cast x.gapBelow_le
  refine lt_of_lt_of_le (mul_pos ?_ ?_) covers.lower
  · linarith
  · positivity

/-- An interval ends below the next power of two. -/
theorem Covers.lt {x : Binary64} {ratio : ℚ} (covers : x.Covers ratio) :
    ratio < 2 ^ (x.scale + 53) := by
  have hsignificand : (x.significand : ℚ) + 1 ≤ 2 ^ 53 := by
    have hlt := x.significand_lt
    unfold exponentBit at hlt
    exact_mod_cast hlt
  have hunit : (0 : ℚ) < 2 ^ x.scale := by positivity
  calc ratio ≤ (x.significand + 1 / 2) * 2 ^ x.scale := covers.upper
    _ < 2 ^ 53 * 2 ^ x.scale := mul_lt_mul_of_pos_right (by linarith) hunit
    _ = 2 ^ (x.scale + 53) := by rw [zpow_add₀ (by norm_num), mul_comm]; norm_num

/-! ## Whole numbers -/

/-- A whole number at most half a unit away is the nearest one, and a tie goes to an even one. -/
theorem roundHalfEven_eq {num den whole : ℕ} (pos : 0 < den)
    (lower : 2 * (whole * den) ≤ 2 * num + den) (upper : 2 * num ≤ 2 * (whole * den) + den)
    (ties : whole % 2 = 1 → 2 * (whole * den) < 2 * num + den ∧ 2 * num < 2 * (whole * den) + den) :
    roundHalfEven num den = whole := by
  have hparts : den * (num / den) + num % den = num := Nat.div_add_mod num den
  have hrest : num % den < den := Nat.mod_lt num pos
  -- the number lies next to the quotient
  have hquotient : num / den ≤ whole := by
    by_contra habove
    have hmul : (whole + 1) * den ≤ num / den * den := Nat.mul_le_mul_right den (by omega)
    rw [Nat.add_mul, Nat.one_mul, Nat.mul_comm (num / den)] at hmul
    omega
  have hnext : whole ≤ num / den + 1 := by
    by_contra habove
    have hmul : (num / den + 2) * den ≤ whole * den := Nat.mul_le_mul_right den (by omega)
    rw [Nat.add_mul, Nat.mul_comm (num / den)] at hmul
    omega
  unfold roundHalfEven
  rcases Nat.eq_or_lt_of_le hquotient with hsame | hless
  · subst hsame
    rw [Nat.mul_comm (num / den)] at lower upper ties
    simp only
    split_ifs <;> omega
  · obtain rfl : whole = num / den + 1 := by omega
    rw [Nat.add_mul, Nat.one_mul, Nat.mul_comm (num / den)] at lower upper ties
    simp only
    split_ifs <;> omega

/-- The same for a ratio in units of a power of two. -/
theorem roundHalfEven_scaled {num den whole : ℕ} {unit : ℤ} (pos : 0 < den)
    (lower : ((whole : ℚ) - 1 / 2) * 2 ^ unit ≤ (num : ℚ) / den)
    (upper : (num : ℚ) / den ≤ ((whole : ℚ) + 1 / 2) * 2 ^ unit)
    (ties : whole % 2 = 1 → ((whole : ℚ) - 1 / 2) * 2 ^ unit < (num : ℚ) / den ∧
      (num : ℚ) / den < ((whole : ℚ) + 1 / 2) * 2 ^ unit) :
    roundHalfEven (num * twoPow (-unit).toNat) (den * twoPow unit.toNat) = whole := by
  have hden : (0 : ℚ) < den := by exact_mod_cast pos
  have hup : (0 : ℚ) < twoPow unit.toNat := by exact_mod_cast twoPow_pos _
  have hdown : (0 : ℚ) < twoPow (-unit).toNat := by exact_mod_cast twoPow_pos _
  have hall : (0 : ℚ) < den * twoPow unit.toNat := mul_pos hden hup
  rw [← twoPow_toNat_div, mul_div_assoc', div_le_div_iff₀ hdown hden] at lower
  rw [← twoPow_toNat_div, mul_div_assoc', div_le_div_iff₀ hden hdown] at upper
  simp only [← twoPow_toNat_div, mul_div_assoc', div_lt_div_iff₀ hdown hden,
    div_lt_div_iff₀ hden hdown] at ties
  refine roundHalfEven_eq (Nat.mul_pos pos (twoPow_pos _)) ?_ ?_ ?_
  · have h : 2 * ((whole : ℚ) * (den * twoPow unit.toNat)) ≤
        2 * (num * twoPow (-unit).toNat) + den * twoPow unit.toNat := by linarith
    exact_mod_cast h
  · have h : 2 * ((num : ℚ) * twoPow (-unit).toNat) ≤
        2 * (whole * (den * twoPow unit.toNat)) + den * twoPow unit.toNat := by linarith
    exact_mod_cast h
  · intro hodd
    obtain ⟨hlower, hupper⟩ := ties hodd
    have hl : 2 * ((whole : ℚ) * (den * twoPow unit.toNat)) <
        2 * (num * twoPow (-unit).toNat) + den * twoPow unit.toNat := by linarith
    have hu : 2 * ((num : ℚ) * twoPow (-unit).toNat) <
        2 * (whole * (den * twoPow unit.toNat)) + den * twoPow unit.toNat := by linarith
    exact ⟨by exact_mod_cast hl, by exact_mod_cast hu⟩

/-! ## The exponent of a ratio -/

/-- The logarithm of a number bounds it from below. -/
theorem two_zpow_log2_le {n : ℕ} (pos : 0 < n) : (2 : ℚ) ^ (n.log2 : ℤ) ≤ n := by
  rw [zpow_natCast]
  exact_mod_cast Nat.log2_self_le (by omega)

/-- One more than the logarithm of a number bounds it from above. -/
theorem lt_two_zpow_log2 (n : ℕ) : (n : ℚ) < 2 ^ ((n.log2 : ℤ) + 1) := by
  have h : n < 2 ^ (n.log2 + 1) := Nat.lt_log2_self
  have hpow : (2 : ℚ) ^ ((n.log2 : ℤ) + 1) = ((2 ^ (n.log2 + 1) : ℕ) : ℚ) := by
    rw [← Int.natCast_succ, zpow_natCast]
    norm_cast
  rw [hpow]
  exact_mod_cast h

/-- The lengths of both sides of a ratio leave two possibilities for its exponent. -/
theorem log2_sub_log2_bounds {num den : ℕ} (numPos : 0 < num) (denPos : 0 < den) :
    (2 : ℚ) ^ ((num.log2 : ℤ) - den.log2 - 1) ≤ (num : ℚ) / den ∧
      (num : ℚ) / den < 2 ^ ((num.log2 : ℤ) - den.log2 + 1) := by
  have hden : (0 : ℚ) < den := by exact_mod_cast denPos
  have htwo : (2 : ℚ) ≠ 0 := by norm_num
  constructor
  · rw [le_div_iff₀ hden]
    calc (2 : ℚ) ^ ((num.log2 : ℤ) - den.log2 - 1) * den
        ≤ 2 ^ ((num.log2 : ℤ) - den.log2 - 1) * 2 ^ ((den.log2 : ℤ) + 1) :=
          mul_le_mul_of_nonneg_left (lt_two_zpow_log2 den).le (by positivity)
      _ = 2 ^ (num.log2 : ℤ) := by rw [← zpow_add₀ htwo]; congr 1; omega
      _ ≤ num := two_zpow_log2_le numPos
  · rw [div_lt_iff₀ hden]
    calc (num : ℚ) < 2 ^ ((num.log2 : ℤ) + 1) := lt_two_zpow_log2 num
      _ = 2 ^ ((num.log2 : ℤ) - den.log2 + 1) * 2 ^ (den.log2 : ℤ) := by
          rw [← zpow_add₀ htwo]; congr 1; omega
      _ ≤ 2 ^ ((num.log2 : ℤ) - den.log2 + 1) * den :=
          mul_le_mul_of_nonneg_left (two_zpow_log2_le denPos) (by positivity)

/-- A ratio is compared with a power of two by whole numbers. -/
theorem mul_twoPow_le_iff {num den : ℕ} (denPos : 0 < den) (exponent : ℤ) :
    den * twoPow exponent.toNat ≤ num * twoPow (-exponent).toNat ↔
      (2 : ℚ) ^ exponent ≤ (num : ℚ) / den := by
  have hden : (0 : ℚ) < den := by exact_mod_cast denPos
  have hdown : (0 : ℚ) < twoPow (-exponent).toNat := by exact_mod_cast twoPow_pos _
  rw [← twoPow_toNat_div, div_le_div_iff₀ hdown hden, Nat.mul_comm den]
  exact_mod_cast Iff.rfl

/-- The binary exponent bounds a ratio by two powers of two. -/
theorem binaryExponent_bounds {num den : ℕ} (numPos : 0 < num) (denPos : 0 < den) :
    (2 : ℚ) ^ binaryExponent num den ≤ (num : ℚ) / den ∧
      (num : ℚ) / den < 2 ^ (binaryExponent num den + 1) := by
  obtain ⟨hbelow, habove⟩ := log2_sub_log2_bounds numPos denPos
  unfold binaryExponent
  simp only [mul_twoPow_le_iff denPos]
  split
  · next hge => exact ⟨hge, habove⟩
  · next hlt =>
    refine ⟨hbelow, ?_⟩
    rw [sub_add_cancel]
    exact not_le.1 hlt

/-- A ratio between two powers of two has the exponent of the lower one. -/
theorem binaryExponent_eq {num den : ℕ} {exponent : ℤ} (numPos : 0 < num) (denPos : 0 < den)
    (lower : (2 : ℚ) ^ exponent ≤ (num : ℚ) / den)
    (upper : (num : ℚ) / den < 2 ^ (exponent + 1)) : binaryExponent num den = exponent := by
  obtain ⟨hlower, hupper⟩ := binaryExponent_bounds numPos denPos
  have hone : (1 : ℚ) < 2 := by norm_num
  have hle := (zpow_lt_zpow_iff_right₀ hone).1 (lower.trans_lt hupper)
  have hge := (zpow_lt_zpow_iff_right₀ hone).1 (hlower.trans_lt upper)
  omega

/-! ## Ratios -/

/-- A ratio is rounded to a whole number of units of its scale. -/
theorem ofRatio_eq {num den whole : ℕ} {unit : ℤ} {x : Binary64} (numPos : 0 < num)
    (finite : x.isFinite = true)
    (scale : max (binaryExponent num den - 52) (-1074) = unit)
    (rounded : roundHalfEven (num * twoPow (-unit).toNat) (den * twoPow unit.toNat) = whole)
    (magnitude : x.magnitude = (unit + 1074).toNat * exponentBit + whole) :
    ofRatio x.negative num den = x := by
  have hmagnitude : x.magnitude < infinityMagnitude := by simpa [isFinite] using finite
  rw [magnitude] at hmagnitude
  unfold ofRatio
  rw [if_neg (by omega)]
  simp only [scale, rounded]
  rw [dif_pos hmagnitude]
  cases x
  simp_all

section

variable {num den : ℕ} {x : Binary64}

/-- A ratio in the interval of a number that is not zero is not zero. -/
theorem Covers.num_pos (covers : x.Covers ((num : ℚ) / den)) (nonzero : x.isZero = false) :
    0 < num := by
  have hratio := covers.pos nonzero
  rcases Nat.eq_zero_or_pos num with rfl | hpos
  · simp at hratio
  · exact hpos

/-- Where the units do not change, a ratio of the interval is rounded in the unit of the number. -/
theorem ofRatio_of_covers_inside (denPos : 0 < den) (finite : x.isFinite = true)
    (nonzero : x.isZero = false) (covers : x.Covers ((num : ℚ) / den))
    (inside : x.scale = -1074 ∨ (2 : ℚ) ^ (x.scale + 52) ≤ (num : ℚ) / den) :
    ofRatio x.negative num den = x := by
  have hone : (1 : ℚ) < 2 := by norm_num
  have numPos := covers.num_pos nonzero
  obtain ⟨hlow, hhigh⟩ := binaryExponent_bounds numPos denPos
  have htop : binaryExponent num den < x.scale + 53 :=
    (zpow_lt_zpow_iff_right₀ hone).1 (hlow.trans_lt covers.lt)
  have hbottom : x.scale = -1074 ∨ x.scale + 52 ≤ binaryExponent num den := by
    rcases inside with hleast | hge
    · exact Or.inl hleast
    · have hlt := (zpow_lt_zpow_iff_right₀ hone).1 (hge.trans_lt hhigh)
      exact Or.inr (by omega)
  have hscale := x.le_scale
  refine ofRatio_eq numPos finite (by omega) ?_ x.magnitude_eq
  have hhalf : ((x.significand : ℚ) - 1 / 2) * 2 ^ x.scale ≤
      (x.significand - x.gapBelow / 4) * 2 ^ x.scale := by
    have hgap : (x.gapBelow : ℚ) ≤ 2 := by exact_mod_cast x.gapBelow_le
    exact mul_le_mul_of_nonneg_right (by linarith) (by positivity)
  refine roundHalfEven_scaled denPos (hhalf.trans covers.lower) covers.upper ?_
  intro hodd
  exact ⟨hhalf.trans_lt (covers.strict hodd).1, (covers.strict hodd).2⟩

theorem two_zpow_add_52 (unit : ℤ) : (2 : ℚ) ^ (unit + 52) = exponentBit * 2 ^ unit := by
  rw [zpow_add₀ (by norm_num : (2 : ℚ) ≠ 0), mul_comm]
  norm_num [exponentBit]

/-- Only the least number of a scale has an interval that reaches below the scale. -/
theorem significand_eq_exponentBit {ratio : ℚ} (covers : x.Covers ratio) (above : -1074 < x.scale)
    (below : ratio < 2 ^ (x.scale + 52)) : x.significand = exponentBit := by
  have hfewer : (x.significand : ℚ) - x.gapBelow / 4 < exponentBit := by
    rw [two_zpow_add_52] at below
    exact lt_of_mul_lt_mul_right (covers.lower.trans_lt below) (by positivity)
  have hgap : (x.gapBelow : ℚ) ≤ 2 := by exact_mod_cast x.gapBelow_le
  have hrational : (x.significand : ℚ) < exponentBit + 1 := by linarith
  have hlt : x.significand < exponentBit + 1 := by exact_mod_cast hrational
  have hge := exponentBit_le_significand above
  omega

/-- The least number of a scale is twice as many units of the scale below. -/
theorem magnitude_eq_of_least (least : x.significand = exponentBit) (above : -1074 < x.scale) :
    x.magnitude = (x.scale - 1 + 1074).toNat * exponentBit + 2 * exponentBit := by
  obtain ⟨field, hfield⟩ : ∃ field : ℕ, (x.scale + 1074).toNat = field + 1 :=
    ⟨(x.scale + 1073).toNat, by omega⟩
  have hless : (x.scale - 1 + 1074).toNat = field := by omega
  rw [x.magnitude_eq, least, hfield, hless]
  unfold exponentBit
  omega

/-- Below the least number of a scale the unit is half as large, and a ratio of the interval is
rounded up to that number. -/
theorem ofRatio_of_covers_below (denPos : 0 < den) (finite : x.isFinite = true)
    (nonzero : x.isZero = false) (covers : x.Covers ((num : ℚ) / den)) (above : -1074 < x.scale)
    (below : (num : ℚ) / den < 2 ^ (x.scale + 52)) : ofRatio x.negative num den = x := by
  have numPos := covers.num_pos nonzero
  have hleast := significand_eq_exponentBit covers above below
  -- from here on everything is counted in the smaller unit
  have hhalf : (2 : ℚ) ^ x.scale = 2 * 2 ^ (x.scale - 1) := by
    rw [zpow_sub_one₀ (by norm_num)]
    ring
  have hunit : (0 : ℚ) < 2 ^ (x.scale - 1) := by positivity
  have hlower : ((2 * exponentBit : ℕ) - 1 / 2 : ℚ) * 2 ^ (x.scale - 1) ≤ (num : ℚ) / den := by
    have hends := covers.lower
    rw [gapBelow_eq_one hleast above, hleast, hhalf] at hends
    refine le_trans (le_of_eq ?_) hends
    push_cast
    ring
  have hupper : (num : ℚ) / den < (2 * exponentBit : ℕ) * 2 ^ (x.scale - 1) := by
    rw [two_zpow_add_52, hhalf] at below
    refine lt_of_lt_of_eq below ?_
    push_cast
    ring
  have hexponent : binaryExponent num den = x.scale + 51 := by
    refine binaryExponent_eq numPos denPos (le_trans ?_ hlower) (lt_of_lt_of_eq below ?_)
    · rw [show x.scale + 51 = x.scale - 1 + 52 by omega, two_zpow_add_52]
      refine mul_le_mul_of_nonneg_right ?_ hunit.le
      norm_num [exponentBit]
    · congr 1
      omega
  have hrounded : roundHalfEven (num * twoPow (-(x.scale - 1)).toNat)
      (den * twoPow (x.scale - 1).toNat) = 2 * exponentBit :=
    roundHalfEven_scaled denPos hlower (by linarith) (by omega)
  exact ofRatio_eq numPos finite (by omega) hrounded (magnitude_eq_of_least hleast above)

/-- A ratio in the interval of a number is rounded to it. -/
theorem ofRatio_of_covers (denPos : 0 < den) (finite : x.isFinite = true)
    (nonzero : x.isZero = false) (covers : x.Covers ((num : ℚ) / den)) :
    ofRatio x.negative num den = x := by
  have hscale := x.le_scale
  by_cases hcase : x.scale = -1074 ∨ (2 : ℚ) ^ (x.scale + 52) ≤ (num : ℚ) / den
  · exact ofRatio_of_covers_inside denPos finite nonzero covers hcase
  · rw [not_or, not_le] at hcase
    exact ofRatio_of_covers_below denPos finite nonzero covers (by omega) hcase.2

end

end Binary64

/-! ## Decimals -/

/-- The absolute value of a decimal. -/
def Decimal.size (d : Decimal) : ℚ := d.digits * 10 ^ d.exponent

/-- A decimal as the ratio that rounding starts from. -/
theorem Decimal.size_eq_div (d : Decimal) :
    d.size = ((d.digits * tenPow d.exponent.toNat : ℕ) : ℚ) / (tenPow (-d.exponent).toNat : ℕ) := by
  rw [size, ← tenPow_toNat_div, Nat.cast_mul, mul_div_assoc]

namespace Binary64

/-- A positive decimal lies between the powers of ten around its first digit. -/
theorem size_bounds {d : Decimal} (pos : 0 < d.digits) :
    (10 : ℚ) ^ ((digitCount d.digits : ℤ) + d.exponent - 1) ≤ d.size ∧
      d.size < 10 ^ ((digitCount d.digits : ℤ) + d.exponent) := by
  have hten : (10 : ℚ) ≠ 0 := by norm_num
  have hunit : (0 : ℚ) < 10 ^ d.exponent := by positivity
  have hcount : 0 < digitCount d.digits := Nat.length_toDigits_pos
  obtain ⟨hlow, hhigh⟩ := digitCount_bounds pos
  unfold Decimal.size
  constructor
  · rw [show (digitCount d.digits : ℤ) + d.exponent - 1 =
      ((digitCount d.digits - 1 : ℕ) : ℤ) + d.exponent by omega, zpow_add₀ hten, zpow_natCast]
    exact mul_le_mul_of_nonneg_right (by exact_mod_cast hlow) hunit.le
  · rw [zpow_add₀ hten, zpow_natCast]
    exact mul_lt_mul_of_pos_right (by exact_mod_cast hhigh) hunit

/-- Powers of two and ten compare like their logarithms, however large they are. -/
theorem two_pow_lt_ten_pow (n m k : ℕ) (positive : k ≠ 0) (less : 2 ^ n < 10 ^ m) :
    (2 : ℚ) ^ ((n * k : ℕ) : ℤ) < 10 ^ ((m * k : ℕ) : ℤ) := by
  rw [zpow_natCast, zpow_natCast, pow_mul, pow_mul]
  exact pow_lt_pow_left₀ (by exact_mod_cast less) (by positivity) positive

/-- The interval of a finite number lies within the powers of ten that rounding computes. -/
theorem Covers.bounds {x : Binary64} {ratio : ℚ} (covers : x.Covers ratio)
    (finite : x.isFinite = true) (nonzero : x.isZero = false) :
    (10 : ℚ) ^ (-330 : ℤ) < ratio ∧ ratio < 10 ^ (310 : ℤ) := by
  have htwo : (1 : ℚ) ≤ 2 := by norm_num
  constructor
  · have hsignificand : (1 : ℚ) ≤ x.significand := by exact_mod_cast significand_pos nonzero
    have hgap : (x.gapBelow : ℚ) ≤ 2 := by exact_mod_cast x.gapBelow_le
    have hpower : (10 : ℚ) ^ (-330 : ℤ) < 2 ^ (-1075 : ℤ) := by
      rw [zpow_neg, zpow_neg]
      exact inv_strictAnti₀ (by positivity) (two_pow_lt_ten_pow 215 66 5 (by decide) (by norm_num))
    calc (10 : ℚ) ^ (-330 : ℤ) < 2 ^ (-1075 : ℤ) := hpower
      _ = 1 / 2 * 2 ^ (-1074 : ℤ) := by
        rw [show (-1075 : ℤ) = -1 + -1074 by omega, zpow_add₀ (by norm_num)]
        norm_num only
      _ ≤ 1 / 2 * 2 ^ x.scale :=
        mul_le_mul_of_nonneg_left (zpow_le_zpow_right₀ htwo x.le_scale) (by norm_num)
      _ ≤ (x.significand - x.gapBelow / 4) * 2 ^ x.scale :=
        mul_le_mul_of_nonneg_right (by linarith) (by positivity)
      _ ≤ ratio := covers.lower
  · have hscale := scale_le finite
    calc ratio < 2 ^ (x.scale + 53) := covers.lt
      _ ≤ 2 ^ (1025 : ℤ) := zpow_le_zpow_right₀ htwo (by omega)
      _ < 10 ^ (310 : ℤ) := two_pow_lt_ten_pow 205 62 5 (by decide) (by norm_num)

/-- A decimal in the interval of a number is read as that number. -/
theorem ofDecimal_of_covers {d : Decimal} {x : Binary64} (finite : x.isFinite = true)
    (nonzero : x.isZero = false) (sign : d.negative = x.negative) (covers : x.Covers d.size) :
    ofDecimal d = x := by
  have hten : (1 : ℚ) < 10 := by norm_num
  have hdigits : 0 < d.digits := by
    have hsize := covers.pos nonzero
    unfold Decimal.size at hsize
    by_contra hnone
    rw [Nat.eq_zero_of_not_pos hnone] at hsize
    simp at hsize
  obtain ⟨hleast, hgreatest⟩ := covers.bounds finite nonzero
  obtain ⟨hlow, hhigh⟩ := size_bounds hdigits
  have hsmall := (zpow_lt_zpow_iff_right₀ hten).1 (hleast.trans hhigh)
  have hlarge := (zpow_lt_zpow_iff_right₀ hten).1 (hlow.trans_lt hgreatest)
  unfold ofDecimal
  rw [if_neg, if_neg (by omega), sign]
  · refine ofRatio_of_covers (tenPow_pos _) finite nonzero ?_
    rwa [← Decimal.size_eq_div]
  · simp only [Bool.or_eq_true, decide_eq_true_eq, not_or]
    omega

end Binary64

end SheetSchema
