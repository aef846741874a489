import Mathlib.Data.Nat.Cast.Order.Field
import SheetSchema.Proofs.Number.Rounding

/-!
# Shortest decimals read back

The decimal that is chosen for a double lies in the interval of the double. Some grid of at most
seventeen digits has a decimal there, as its step is then smaller than the interval is wide.
-/

namespace SheetSchema.Binary64

variable {x : Binary64}

/-! ## Steps of a grid -/

/-- Numerator of a quarter of a unit, in steps of a grid. -/
def quarterNum (x : Binary64) (unit : ℤ) : ℕ :=
  twoPow (x.scale - 2).toNat * tenPow (-unit).toNat

/-- Denominator of a quarter of a unit, in steps of a grid. -/
def quarterDen (x : Binary64) (unit : ℤ) : ℕ := tenPow unit.toNat * twoPow (2 - x.scale).toNat

theorem quarterDen_pos (x : Binary64) (unit : ℤ) : 0 < x.quarterDen unit :=
  Nat.mul_pos (tenPow_pos _) (twoPow_pos _)

/-- A quarter of a unit, in steps of a grid. -/
theorem quarter_eq (x : Binary64) (unit : ℤ) :
    (x.quarterNum unit : ℚ) / x.quarterDen unit * 10 ^ unit = 2 ^ x.scale / 4 := by
  have htwo := twoPow_toNat_div (x.scale - 2)
  have hten := tenPow_toNat_div unit
  have hpos : (0 : ℚ) < tenPow unit.toNat := by exact_mod_cast tenPow_pos _
  have hneg : (0 : ℚ) < tenPow (-unit).toNat := by exact_mod_cast tenPow_pos _
  have hscale : (0 : ℚ) < twoPow (2 - x.scale).toNat := by exact_mod_cast twoPow_pos _
  rw [show -(x.scale - 2) = 2 - x.scale by omega, zpow_sub₀ (by norm_num)] at htwo
  rw [← hten, show (2 : ℚ) ^ x.scale / 4 = 2 ^ x.scale / 2 ^ (2 : ℤ) by norm_num, ← htwo]
  unfold quarterNum quarterDen
  push_cast
  field_simp

/-- A number of quarters, in steps of a grid. -/
theorem quarters_eq (x : Binary64) (unit : ℤ) (quarters : ℕ) :
    (quarters : ℚ) / 4 * 2 ^ x.scale =
      quarters * x.quarterNum unit / x.quarterDen unit * 10 ^ unit := by
  rw [mul_div_assoc, mul_assoc, x.quarter_eq unit]
  ring

/-- Comparing a decimal of a grid with a number of quarters. -/
theorem quarters_le_iff (unit : ℤ) (quarters n : ℕ) :
    quarters * x.quarterNum unit ≤ n * x.quarterDen unit ↔
      (quarters : ℚ) / 4 * 2 ^ x.scale ≤ n * 10 ^ unit := by
  have hden : (0 : ℚ) < x.quarterDen unit := by exact_mod_cast x.quarterDen_pos unit
  have hstep : (0 : ℚ) < 10 ^ unit := by positivity
  rw [x.quarters_eq unit, mul_le_mul_iff_of_pos_right hstep, div_le_iff₀ hden]
  exact_mod_cast Iff.rfl

theorem le_quarters_iff (unit : ℤ) (quarters n : ℕ) :
    n * x.quarterDen unit ≤ quarters * x.quarterNum unit ↔
      n * 10 ^ unit ≤ (quarters : ℚ) / 4 * 2 ^ x.scale := by
  have hden : (0 : ℚ) < x.quarterDen unit := by exact_mod_cast x.quarterDen_pos unit
  have hstep : (0 : ℚ) < 10 ^ unit := by positivity
  rw [x.quarters_eq unit, mul_le_mul_iff_of_pos_right hstep, le_div_iff₀ hden]
  exact_mod_cast Iff.rfl

/-! ## Decimals next to a number -/

/-- The test that the search makes on a decimal of a grid. -/
def onGrid (x : Binary64) (unit : ℤ) (n : ℕ) : Bool :=
  let value := 4 * x.significand * x.quarterNum unit
  let low := value - x.gapBelow * x.quarterNum unit
  let high := value + 2 * x.quarterNum unit
  if x.significand % 2 = 0 then
    low ≤ n * x.quarterDen unit && n * x.quarterDen unit ≤ high
  else low < n * x.quarterDen unit && n * x.quarterDen unit < high

/-- The search looks at the two decimals around the number. -/
theorem nearestOnGrid?_eq (x : Binary64) (unit : ℤ) :
    x.nearestOnGrid? unit =
      (let value := 4 * x.significand * x.quarterNum unit
       let den := x.quarterDen unit
       let below := value / den
       let above := below + 1
       match x.onGrid unit below, x.onGrid unit above with
       | true, true =>
         let downward := value - below * den
         let upward := above * den - value
         if downward < upward || (downward == upward && below % 2 == 0) then some below
         else some above
       | true, false => some below
       | false, true => some above
       | false, false => none) := rfl

/-- The test in whole numbers says whether a decimal lies in the interval. -/
theorem onGrid_iff (nonzero : x.isZero = false) {unit : ℤ} {n : ℕ} :
    x.onGrid unit n = true ↔ x.Covers (n * 10 ^ unit) := by
  have hpos := significand_pos nonzero
  have hgap := x.gapBelow_le
  have hlow : 4 * x.significand * x.quarterNum unit - x.gapBelow * x.quarterNum unit =
      (4 * x.significand - x.gapBelow) * x.quarterNum unit := (Nat.sub_mul _ _ _).symm
  have hhigh : 4 * x.significand * x.quarterNum unit + 2 * x.quarterNum unit =
      (4 * x.significand + 2) * x.quarterNum unit := (Nat.add_mul _ _ _).symm
  have hlowCast : ((4 * x.significand - x.gapBelow : ℕ) : ℚ) / 4 * 2 ^ x.scale =
      (x.significand - x.gapBelow / 4) * 2 ^ x.scale := by
    rw [Nat.cast_sub (by omega)]
    push_cast
    ring
  have hhighCast : ((4 * x.significand + 2 : ℕ) : ℚ) / 4 * 2 ^ x.scale =
      (x.significand + 1 / 2) * 2 ^ x.scale := by
    push_cast
    ring
  unfold onGrid
  simp only [hlow, hhigh]
  split
  · next heven =>
    rw [Bool.and_eq_true, decide_eq_true_eq, decide_eq_true_eq, quarters_le_iff, le_quarters_iff,
      hlowCast, hhighCast]
    constructor
    · intro h
      exact ⟨h.1, h.2, by omega⟩
    · intro h
      exact ⟨h.lower, h.upper⟩
  · next hodd =>
    rw [Bool.and_eq_true, decide_eq_true_eq, decide_eq_true_eq, ← not_le, ← not_le,
      le_quarters_iff, quarters_le_iff, hlowCast, hhighCast, not_le, not_le]
    constructor
    · intro h
      exact ⟨h.1.le, h.2.le, fun _ => h⟩
    · intro h
      exact h.strict (by omega)

/-- What the search finds lies in the interval. -/
theorem covers_of_nearestOnGrid? (nonzero : x.isZero = false) {unit : ℤ} {n : ℕ}
    (found : x.nearestOnGrid? unit = some n) : x.Covers (n * 10 ^ unit) := by
  rw [nearestOnGrid?_eq] at found
  rw [← onGrid_iff nonzero]
  simp only at found
  split at found
  · next hbelow habove => split at found <;> simp_all
  · next hbelow habove => simp_all
  · next hbelow habove => simp_all
  · contradiction

/-! ## A grid that suffices -/

/-- A short gap lies only below the least significand of a scale. -/
theorem significand_of_gapBelow (short : x.gapBelow ≠ 2) : x.significand = exponentBit := by
  unfold gapBelow at short
  split at short
  · next hpower =>
    simp only [Bool.and_eq_true, decide_eq_true_eq] at hpower
    unfold significand
    rw [if_neg (by omega)]
    omega
  · contradiction

/-- Between the ends of the interval every number lies in it, whichever significand it has. -/
theorem covers_of_lt {ratio : ℚ}
    (lower : ((x.significand : ℚ) - x.gapBelow / 4) * 2 ^ x.scale < ratio)
    (upper : ratio < ((x.significand : ℚ) + 1 / 2) * 2 ^ x.scale) : x.Covers ratio :=
  ⟨lower.le, upper.le, fun _ => ⟨lower, upper⟩⟩

/-- A decimal less than half a unit above a number lies in its interval. -/
theorem covers_above {ratio : ℚ} (above : x.size < ratio)
    (near : ratio - x.size < 1 / 2 * 2 ^ x.scale) : x.Covers ratio := by
  have hunit : (0 : ℚ) < 2 ^ x.scale := by positivity
  have hgap : (0 : ℚ) ≤ x.gapBelow / 4 * 2 ^ x.scale := by positivity
  unfold size at above near
  apply covers_of_lt
  · rw [sub_mul]
    linarith
  · rw [add_mul]
    linarith

/-- So does one less than half a unit below it, where the gap is not short. -/
theorem covers_below (wide : x.gapBelow = 2) {ratio : ℚ}
    (below : ratio ≤ x.size) (near : x.size - ratio < 1 / 2 * 2 ^ x.scale) : x.Covers ratio := by
  have hunit : (0 : ℚ) < 2 ^ x.scale := by positivity
  unfold size at below near
  apply covers_of_lt
  · rw [wide, sub_mul]
    push_cast
    linarith
  · rw [add_mul]
    linarith

/-- The decimals around a number on a grid. -/
theorem around (x : Binary64) (unit : ℤ) :
    let below := 4 * x.significand * x.quarterNum unit / x.quarterDen unit
    (below : ℚ) * 10 ^ unit ≤ x.size ∧ x.size < ((below + 1 : ℕ) : ℚ) * 10 ^ unit := by
  intro below
  have hsize : ((4 * x.significand : ℕ) : ℚ) / 4 * 2 ^ x.scale = x.size := by
    unfold size
    push_cast
    ring
  constructor
  · rw [← hsize, ← le_quarters_iff]
    exact Nat.div_mul_le_self _ _
  · rw [← hsize, ← not_le, ← le_quarters_iff, not_le]
    rw [Nat.mul_comm (below + 1)]
    exact Nat.lt_mul_div_succ _ (x.quarterDen_pos unit)

/-- The search finds something if one of the two decimals is in the interval. -/
theorem nearestOnGrid?_ne_none_of_onGrid {unit : ℤ}
    (hit : x.onGrid unit (4 * x.significand * x.quarterNum unit / x.quarterDen unit) = true ∨
      x.onGrid unit (4 * x.significand * x.quarterNum unit / x.quarterDen unit + 1) = true) :
    x.nearestOnGrid? unit ≠ none := by
  rw [nearestOnGrid?_eq]
  intro hnone
  simp only at hnone
  split at hnone
  · split at hnone <;> contradiction
  · contradiction
  · contradiction
  · simp_all

/-- The step of a fine grid, compared with the unit of the number. -/
theorem step_lt {unit : ℤ} {share : ℚ} (fine : (10 : ℚ) ^ 16 * 10 ^ unit ≤ x.size)
    (few : (x.significand : ℚ) < 10 ^ 16 * share) : (10 : ℚ) ^ unit < share * 2 ^ x.scale := by
  have hunit : (0 : ℚ) < 2 ^ x.scale := by positivity
  have hless : (10 : ℚ) ^ 16 * 10 ^ unit < 10 ^ 16 * (share * 2 ^ x.scale) := by
    refine fine.trans_lt ?_
    unfold size
    rw [← mul_assoc]
    exact mul_lt_mul_of_pos_right few hunit
  exact lt_of_mul_lt_mul_left hless (by norm_num)

/-- A grid whose step goes at least `10 ^ 16` times into a number has a decimal in its interval. -/
theorem nearestOnGrid?_ne_none (nonzero : x.isZero = false) {unit : ℤ}
    (fine : (10 : ℚ) ^ 16 * 10 ^ unit ≤ x.size) : x.nearestOnGrid? unit ≠ none := by
  obtain ⟨hbelow, habove⟩ := x.around unit
  refine nearestOnGrid?_ne_none_of_onGrid ?_
  rw [onGrid_iff nonzero, onGrid_iff nonzero]
  set below := 4 * x.significand * x.quarterNum unit / x.quarterDen unit
  have hnext : ((below + 1 : ℕ) : ℚ) * 10 ^ unit = below * 10 ^ unit + 10 ^ unit := by
    push_cast
    ring
  by_cases hgap : x.gapBelow = 2
  · -- one of the two is at most half a step away, which is less than half a unit
    have hfew : (x.significand : ℚ) < 10 ^ 16 * 1 := by
      have hlt := x.significand_lt
      unfold exponentBit at hlt
      exact_mod_cast hlt.trans (by norm_num)
    have hstep := step_lt fine hfew
    by_cases hnear : x.size - below * 10 ^ unit < 1 / 2 * 2 ^ x.scale
    · exact Or.inl (covers_below hgap hbelow hnear)
    · exact Or.inr (covers_above habove (by linarith))
  · -- below a power of two the decimal above it is near enough
    have hfew : (x.significand : ℚ) < 10 ^ 16 * (1 / 2) := by
      rw [significand_of_gapBelow hgap]
      norm_num [exponentBit]
    have hstep := step_lt fine hfew
    exact Or.inr (covers_above habove (by linarith))

/-! ## The search -/

/-- The number of digits bounds a number from both sides. -/
theorem digitCount_zpow_bounds {n : ℕ} (pos : 0 < n) :
    (10 : ℚ) ^ ((digitCount n : ℤ) - 1) ≤ n ∧ (n : ℚ) + 1 ≤ 10 ^ (digitCount n : ℤ) := by
  have hcount : 0 < digitCount n := Nat.length_toDigits_pos
  obtain ⟨hlow, hhigh⟩ := digitCount_bounds pos
  constructor
  · rw [show (digitCount n : ℤ) - 1 = ((digitCount n - 1 : ℕ) : ℤ) by omega, zpow_natCast]
    exact_mod_cast hlow
  · rw [zpow_natCast]
    exact_mod_cast hhigh

theorem ten_zpow_one_sub {count : ℕ} (pos : 0 < count) :
    (10 : ℚ) ^ (1 - (count : ℤ)) = 1 / tenPow (count - 1) := by
  rw [show 1 - (count : ℤ) = -((count - 1 : ℕ) : ℤ) by omega, zpow_neg, zpow_natCast, one_div]
  unfold tenPow
  norm_cast

/-- The decimal exponent bounds a ratio from below. -/
theorem decimalExponent_le {num den : ℕ} (numPos : 0 < num) (denPos : 0 < den) :
    (10 : ℚ) ^ decimalExponent num den ≤ (num : ℚ) / den := by
  have hnum : (0 : ℚ) < num := by exact_mod_cast numPos
  have hden : (0 : ℚ) < den := by exact_mod_cast denPos
  unfold decimalExponent
  split
  · next hge =>
    refine (digitCount_zpow_bounds (Nat.div_pos hge denPos)).1.trans ?_
    exact Nat.cast_div_le
  · next hlt =>
    -- below one the exponent is that of the reciprocal, which may be a power of ten itself
    have hquotient : 0 < den / num := Nat.div_pos (by omega) numPos
    simp only
    split
    · next hexact =>
      have hpos : (0 : ℚ) < tenPow (digitCount (den / num) - 1) := by exact_mod_cast tenPow_pos _
      have hcast : (num : ℚ) * tenPow (digitCount (den / num) - 1) = den := by exact_mod_cast hexact
      have hcount : 0 < digitCount (den / num) := Nat.length_toDigits_pos
      rw [ten_zpow_one_sub hcount, div_le_div_iff₀ hpos hden, ← hcast]
      linarith
    · have hhigh := (digitCount_zpow_bounds hquotient).2
      have hless : (den : ℚ) ≤ num * 10 ^ (digitCount (den / num) : ℤ) := by
        have hfloor : den ≤ num * (den / num + 1) := (Nat.lt_mul_div_succ den numPos).le
        calc (den : ℚ) ≤ num * ((den / num : ℕ) + 1) := by exact_mod_cast hfloor
          _ ≤ num * 10 ^ (digitCount (den / num) : ℤ) := mul_le_mul_of_nonneg_left hhigh hnum.le
      rw [zpow_neg, ← one_div, div_le_div_iff₀ (by positivity) hden]
      linarith

/-- Dropping zeros at the end changes the exponent, not the value. -/
theorem stripZeros_size (fuel digits : ℕ) (exponent : ℤ) :
    ((stripZeros fuel digits exponent).1 : ℚ) * 10 ^ (stripZeros fuel digits exponent).2 =
      digits * 10 ^ exponent := by
  induction fuel generalizing digits exponent with
  | zero => rfl
  | succ fuel ih =>
    unfold stripZeros
    split
    · next hzero =>
      have hdigits : (digits : ℚ) = (digits / 10 : ℕ) * 10 := by
        exact_mod_cast (Nat.div_mul_cancel (Nat.dvd_of_mod_eq_zero hzero)).symm
      rw [ih, zpow_add_one₀ (by norm_num), hdigits]
      ring
    · rfl

/-- The shortest decimal of a number lies in its interval. -/
theorem shortest_covers (nonzero : x.isZero = false) :
    x.Covers (x.shortest.1 * 10 ^ x.shortest.2) := by
  have hpos := significand_pos nonzero
  set top := decimalExponent (x.significand * twoPow x.scale.toNat) (twoPow (-x.scale).toNat)
    with htop
  have hsize : (10 : ℚ) ^ top ≤ x.size := by
    refine (decimalExponent_le (Nat.mul_pos hpos (twoPow_pos _)) (twoPow_pos _)).trans_eq ?_
    rw [Nat.cast_mul, mul_div_assoc, twoPow_toNat_div, size]
  -- the finest grid has a hit, so the search does not come back without one
  have hfine : (10 : ℚ) ^ 16 * 10 ^ (top - 16) ≤ x.size := by
    rw [zpow_sub₀ (by norm_num), show (10 : ℚ) ^ (16 : ℤ) = 10 ^ 16 from zpow_natCast 10 16]
    rwa [mul_div_cancel₀ _ (by norm_num)]
  unfold shortest
  simp only [← htop]
  split
  · next digits unit hhit =>
    rw [stripZeros_size]
    obtain ⟨more, -, hmore⟩ := List.exists_of_findSome?_eq_some hhit
    obtain ⟨found, hfound, heq⟩ := Option.map_eq_some_iff.1 hmore
    rw [Prod.mk.injEq] at heq
    obtain ⟨rfl, rfl⟩ := heq
    exact covers_of_nearestOnGrid? nonzero hfound
  · next hnone =>
    rw [List.findSome?_eq_none_iff] at hnone
    exact absurd (Option.map_eq_none_iff.1 (hnone 16 (by decide)))
      (nearestOnGrid?_ne_none nonzero hfine)

end SheetSchema.Binary64
