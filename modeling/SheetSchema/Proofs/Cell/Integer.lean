import SheetSchema.Cell.Coercion
import SheetSchema.Proofs.Cell.Number

/-!
# Integers in cells

An integer stands in a cell as a JSON number without fraction and exponent, or as a text of digits
with a sign. Whichever way it is given, it is read as an integer, and exactly if it has 64 bits. A
JSON number outside of 64 bits is kept as a double, which need not be the same number but is whole,
as all doubles of that size are.
-/

namespace SheetSchema

/-! ## Large doubles -/

namespace Binary64

/-- From the 53rd power of two on, doubles have no fractional bits. -/
theorem isWhole_ofRatio {num : ℕ} (large : 2 ^ 53 ≤ num) (negative : Bool) :
    (ofRatio negative num 1).isWhole = true := by
  have hpos : 0 < num := by omega
  have hexponent : 53 ≤ binaryExponent num 1 := by
    have hlow : (2 : ℚ) ^ (53 : ℤ) ≤ (num : ℚ) / (1 : ℕ) := by
      rw [Nat.cast_one, div_one]
      exact_mod_cast large
    have hhigh := (binaryExponent_bounds hpos Nat.one_pos).2
    have hlt := (zpow_lt_zpow_iff_right₀ (by norm_num)).1 (hlow.trans_lt hhigh)
    omega
  -- the unit is at least 2, and rounding up can only make it larger
  have hmagnitude : 1075 * exponentBit ≤ (ofRatio negative num 1).magnitude := by
    unfold ofRatio
    simp only [if_neg hpos.ne']
    split
    · dsimp only
      refine le_trans (Nat.mul_le_mul_right exponentBit ?_) (Nat.le_add_right _ _)
      omega
    · exact (by decide : 1075 * exponentBit ≤ infinityMagnitude)
  have hfield : 1075 ≤ (ofRatio negative num 1).exponentField :=
    (Nat.le_div_iff_mul_le (by decide)).2 hmagnitude
  have hscale : 0 ≤ (ofRatio negative num 1).scale := by
    unfold scale
    rw [if_neg (by omega)]
    omega
  simp [isWhole, hscale]

theorem isWhole_zero (negative : Bool) : (zero negative).isWhole = true := by
  simp [isWhole, significand, exponentField, fractionField, zero]

/-- A finite double that a large whole number is read as is whole. -/
theorem isWhole_ofDecimal {magnitude : ℕ} {negative : Bool}
    (size : magnitude = 0 ∨ 2 ^ 53 ≤ magnitude)
    (finite : (ofDecimal ⟨negative, magnitude, 0⟩).isFinite = true) :
    (ofDecimal ⟨negative, magnitude, 0⟩).isWhole = true := by
  unfold ofDecimal at finite ⊢
  simp only at finite ⊢
  split at finite
  · next hzero =>
    rw [if_pos hzero]
    exact isWhole_zero negative
  · next hnonzero =>
    split at finite
    · exact absurd finite (by cases negative <;> decide)
    · next hbounded =>
      rw [if_neg hnonzero, if_neg hbounded]
      have hlarge : 2 ^ 53 ≤ magnitude := by
        rcases size with rfl | hlarge
        · simp at hnonzero
        · exact hlarge
      simpa [tenPow_zero] using isWhole_ofRatio hlarge negative

end Binary64

namespace Cell

/-! ## Integers as they are given -/

/-- A sign in front of digits; plus may be left out. -/
inductive Sign : Bool → List Char → Prop
  | none : Sign false []
  | plus : Sign false ['+']
  | minus : Sign true ['-']

/-- A cell gives an integer. -/
inductive Gives : Cell → ℤ → Prop
  /-- A JSON number that is written without fraction and exponent. -/
  | json {room : ℕ} {literal : String} {cell : Cell} {negative : Bool} {magnitude : ℕ}
      (spelled : literal.toList = Numeral.signChars negative ++ Nat.toDigits 10 magnitude)
      (read : ofJson? room (.number literal) = some cell) : Gives cell (signed negative magnitude)
  /-- A text of digits behind an optional sign, up to blanks around it. -/
  | text {value : String} {negative : Bool} {sign digits : List Char}
      (spelled : (Text.trim value).toList = sign ++ digits) (signs : Sign negative sign)
      (some : digits ≠ []) (all : ∀ c ∈ digits, c.isDigit = true) :
      Gives (.text value) (signed negative (Decimal.digitsValue digits))

/-! ## JSON numbers -/

namespace Number

theorem integer_of_ofInt? {n : ℤ} {number : Number} (read : ofInt? n = some number) :
    (Cell.number number).integer = .ok n := by
  unfold ofInt? at read
  split at read
  · next hnatural =>
    split at read
    · obtain rfl := Option.some.inj read
      simp [integer, Int.toNat_of_nonneg hnatural]
    · contradiction
  · next hnegative =>
    split at read
    · obtain rfl := Option.some.inj read
      have habs : -(n.natAbs : ℤ) = n := by omega
      simp only [integer, habs]
    · contradiction

/-- Integers outside of 64 bits are no integers in cells. -/
theorem outside_of_ofInt? {n : ℤ} (unread : ofInt? n = none) : n < -2 ^ 63 ∨ 2 ^ 64 ≤ n := by
  unfold ofInt? at unread
  split at unread
  · split at unread
    · contradiction
    · omega
  · split at unread
    · contradiction
    · omega

end Number

/-! ## Reading -/

theorem integer_of_whole {value : Binary64} (finite : value.isFinite = true)
    (whole : value.isWhole = true) :
    (Cell.number (.real value finite)).integer = .ok (clampInteger value.truncate) := by
  simp [integer, wholeInteger?, finite, whole]

theorem clampInteger_truncate_zero (negative : Bool) :
    clampInteger (Binary64.ofDecimal ⟨negative, 0, 0⟩).truncate = 0 := by
  have hzero : Binary64.ofDecimal ⟨negative, 0, 0⟩ = .zero negative := by simp [Binary64.ofDecimal]
  have htruncate : (Binary64.zero negative).truncate = 0 := by
    simp [Binary64.truncate, Binary64.significand, Binary64.exponentField, Binary64.fractionField,
      Binary64.zero]
  rw [hzero, htruncate]
  decide

/-- A literal of digits is read as an integer, and exactly if it has 64 bits. -/
theorem exists_integer_of_literal {literal : String} {negative : Bool} {magnitude : ℕ}
    {number : Number}
    (spelled : literal.toList = Numeral.signChars negative ++ Nat.toDigits 10 magnitude)
    (read : Number.ofLiteral? literal = some number) :
    ∃ n, (Cell.number number).integer = .ok n ∧
      (-2 ^ 63 ≤ signed negative magnitude → signed negative magnitude < 2 ^ 64 →
        n = signed negative magnitude) := by
  rw [Number.ofLiteral?_digits spelled, Option.or_eq_some_iff] at read
  rcases read with hinteger | ⟨hnone, hreal⟩
  · split at hinteger
    · contradiction
    · exact ⟨_, Number.integer_of_ofInt? hinteger, fun _ _ => rfl⟩
  · -- minus zero is kept as a double, and so is what lies outside of 64 bits
    have hsize : magnitude = 0 ∨ 2 ^ 53 ≤ magnitude ∧
        (signed negative magnitude < -2 ^ 63 ∨ 2 ^ 64 ≤ signed negative magnitude) := by
      split at hnone
      · next hzero =>
        rw [Bool.and_eq_true, beq_iff_eq] at hzero
        exact Or.inl hzero.2
      · have houtside := Number.outside_of_ofInt? hnone
        refine Or.inr ⟨?_, houtside⟩
        unfold signed at houtside
        cases negative with
        | true => rw [if_pos rfl] at houtside; omega
        | false => rw [if_neg Bool.false_ne_true] at houtside; omega
    unfold Number.ofReal? at hreal
    split at hreal
    · next hfinite =>
      obtain rfl := Option.some.inj hreal
      have hwhole := Binary64.isWhole_ofDecimal (hsize.imp_right And.left) hfinite
      refine ⟨_, integer_of_whole hfinite hwhole, ?_⟩
      intro hleast hgreatest
      rcases hsize with rfl | ⟨-, houtside⟩
      · rw [clampInteger_truncate_zero]
        simp [signed]
      · omega
    · contradiction

theorem readInteger?_sign {sign digits : List Char} {negative : Bool} (signs : Sign negative sign)
    (some : digits ≠ []) (all : ∀ c ∈ digits, c.isDigit = true) :
    Decimal.readInteger? (sign ++ digits) =
      .some (signed negative (Decimal.digitsValue digits)) := by
  have hcut : Decimal.takeSign (sign ++ digits) = (negative, digits) := by
    cases signs with
    | plus => rfl
    | minus => rfl
    | none =>
      obtain ⟨digit, rest, rfl⟩ := List.exists_cons_of_ne_nil some
      have hdigit := all digit List.mem_cons_self
      unfold Decimal.takeSign
      split
      · next heq =>
        obtain ⟨rfl, -⟩ := List.cons.inj heq
        exact absurd hdigit (by decide)
      · next heq =>
        obtain ⟨rfl, -⟩ := List.cons.inj heq
        exact absurd hdigit (by decide)
      · rfl
  have hempty : digits.isEmpty = false := List.isEmpty_eq_false_iff.2 some
  have hdigits : digits.all Char.isDigit = true := List.all_eq_true.2 all
  unfold Decimal.readInteger? signed
  simp [hcut, hempty, hdigits]

variable {cell : Cell} {n : ℤ}

/-- A given integer is read, and exactly if it has 64 bits. -/
theorem Gives.exists_integer (gives : cell.Gives n)
    (fits : leastInteger ≤ n ∧ n ≤ greatestInteger) :
    ∃ m, cell.integer = .ok m ∧ (-2 ^ 63 ≤ n → n < 2 ^ 64 → m = n) := by
  cases gives with
  | json spelled read =>
    obtain ⟨number, hnumber, rfl⟩ := Option.map_eq_some_iff.1 read
    exact exists_integer_of_literal spelled hnumber
  | text spelled signs some all =>
    refine ⟨_, ?_, fun _ _ => rfl⟩
    simp only [integer, integerOfText?, spelled, readInteger?_sign signs some all, if_pos fits]

/-- A natural number in a cell gives the integer that it is. -/
theorem gives_natural {value : ℕ} (lt : value < 0x10000000000000000) :
    Cell.Gives (.number (.natural value lt)) value := by
  have hread : ofJson? 0 (.number (Number.natural value lt).toText) =
      some (.number (.natural value lt)) := by
    rw [ofJson?, Number.ofLiteral?_toText]
    rfl
  have hspelled := Number.toList_toText_natural lt
  rw [Numeral.chars_ofNat] at hspelled
  exact .json hspelled hread

/-- A cell that gives an integer is not blank. -/
theorem Gives.isBlank (gives : cell.Gives n) : cell.isBlank = false := by
  cases gives with
  | json spelled read =>
    obtain ⟨number, -, rfl⟩ := Option.map_eq_some_iff.1 read
    rfl
  | @text value _ sign digits spelled _ some _ =>
    have hchars : (Text.trim value).toList ≠ [] := by
      rw [spelled]
      exact List.append_ne_nil_of_right_ne_nil sign some
    rw [Cell.isBlank, beq_eq_false_iff_ne]
    intro hempty
    exact hchars (by rw [hempty]; rfl)

end Cell

end SheetSchema
