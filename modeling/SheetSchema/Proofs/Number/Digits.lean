import Mathlib.Algebra.Order.Ring.Nat
import Mathlib.Data.List.Induction
import Mathlib.Tactic.Ring
import SheetSchema.Number.Binary64

/-!
# Rows of digits

A natural number is read back from its digits, and lies between the powers of ten around their
count. The digits of a positive number do not start with zero.
-/

namespace SheetSchema

theorem toList_toString (n : ℕ) : (toString n).toList = Nat.toDigits 10 n := by
  rw [Nat.toString_eq_ofList_toDigits, String.toList_ofList]

theorem isDigit_of_mem_toDigits {n : ℕ} : ∀ c ∈ Nat.toDigits 10 n, c.isDigit = true :=
  fun _ hc => Nat.isDigit_of_mem_toDigits (by decide) (by decide) hc

theorem isDigit_of_mem_zeros {n : ℕ} : ∀ c ∈ List.replicate n '0', c.isDigit = true := by
  intro c hc
  rw [List.eq_of_mem_replicate hc]
  decide

namespace Decimal

/-- Digits of a number have its value. -/
theorem digitsValue_toDigits (n : ℕ) : digitsValue (Nat.toDigits 10 n) = n :=
  Nat.ofDigitChars_ten_toDigits

theorem digitsValue_append_singleton (digits : List Char) (c : Char) :
    digitsValue (digits ++ [c]) = 10 * digitsValue digits + digitValue c := by
  unfold digitsValue
  rw [List.foldl_append]
  rfl

/-- The value of digits in two parts. -/
theorem digitsValue_append (before after : List Char) :
    digitsValue (before ++ after) =
      digitsValue before * 10 ^ after.length + digitsValue after := by
  induction after using List.reverseRecOn with
  | nil => simp [digitsValue]
  | append_singleton digits c ih =>
    rw [← List.append_assoc, digitsValue_append_singleton, digitsValue_append_singleton, ih,
      List.length_append, List.length_singleton, pow_succ]
    ring

theorem digitValue_lt {c : Char} (digit : c.isDigit = true) : digitValue c < 10 := by
  simp only [Char.isDigit, Bool.and_eq_true, decide_eq_true_eq, UInt32.le_iff_toNat_le] at digit
  obtain ⟨-, hle⟩ := digit
  have hnine : ('9'.val).toNat = 57 := by decide
  have hzero : ('0'.val).toNat = 48 := by decide
  unfold digitValue Char.toNat
  omega

theorem digitsValue_zeros (n : ℕ) : digitsValue (List.replicate n '0') = 0 := by
  induction n with
  | zero => rfl
  | succ n ih =>
    rw [List.replicate_succ', digitsValue_append, ih]
    rfl

/-- A number is below the power of ten that its digits count. -/
theorem digitsValue_lt {digits : List Char} (all : ∀ c ∈ digits, c.isDigit = true) :
    digitsValue digits < 10 ^ digits.length := by
  induction digits using List.reverseRecOn with
  | nil => simp [digitsValue]
  | append_singleton digits c ih =>
    have hrest := ih fun d hd => all d (List.mem_append_left _ hd)
    have hdigit := digitValue_lt (all c (by simp))
    rw [digitsValue_append_singleton, List.length_append, List.length_singleton, pow_succ]
    omega

end Decimal

/-- A positive number lies between the powers of ten around its digits. -/
theorem digitCount_bounds {n : ℕ} (pos : 0 < n) :
    10 ^ (Binary64.digitCount n - 1) ≤ n ∧ n < 10 ^ Binary64.digitCount n := by
  have hlength : 0 < Binary64.digitCount n := Nat.length_toDigits_pos
  constructor
  · by_cases hone : Binary64.digitCount n = 1
    · rw [hone]
      exact pos
    · by_contra hlt
      have hfewer := (Nat.length_toDigits_le_iff (b := 10) (by decide)
        (show 0 < Binary64.digitCount n - 1 by omega)).2 (not_le.1 hlt)
      unfold Binary64.digitCount at *
      omega
  · exact (Nat.length_toDigits_le_iff (by decide) hlength).1 le_rfl

/-- The digits of a positive number do not start with zero. -/
theorem head?_toDigits_ne {n : ℕ} (pos : 0 < n) : (Nat.toDigits 10 n).head? ≠ some '0' := by
  intro hzero
  obtain ⟨rest, hrest⟩ := List.head?_eq_some_iff.1 hzero
  -- the remaining digits alone cannot reach the number
  have hvalue := Decimal.digitsValue_toDigits n
  have hdigits := @isDigit_of_mem_toDigits n
  have hlow := (digitCount_bounds pos).1
  unfold Binary64.digitCount at hlow
  rw [hrest] at hvalue hdigits hlow
  have hsame : Decimal.digitsValue ('0' :: rest) = Decimal.digitsValue rest := rfl
  have hhigh := Decimal.digitsValue_lt fun c hc => hdigits c (List.mem_cons_of_mem _ hc)
  rw [List.length_cons, Nat.add_sub_cancel] at hlow
  omega

end SheetSchema
