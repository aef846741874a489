import SheetSchema.Proofs.Number.Numeral
import SheetSchema.Proofs.Number.Shortest

/-!
# Texts of doubles

Whichever way a finite double is written, with all its digits, with a point among or before them, or
with an exponent, its text is one numeral that is read as the same double, the sign of zero
included.
-/

namespace SheetSchema

/-! ## Characters of a text -/

theorem length_toString (n : ℕ) : (toString n).length = (Nat.toDigits 10 n).length := by
  rw [← String.length_toList, toList_toString]

namespace Binary64

variable {digits : ℕ} {exponent : ℤ}

/-- A whole number is shown with all its zeros, and with one more behind the point. -/
theorem toList_positional_whole (whole : 0 ≤ exponent) :
    (positional digits exponent ".0").toList =
      Nat.toDigits 10 digits ++ List.replicate exponent.toNat '0' ++ ['.', '0'] := by
  unfold positional
  simp only
  rw [if_pos whole, String.toList_append, String.toList_append, toList_toString, zeros,
    String.toList_ofList]
  rfl

/-- With a point among its digits a number is cut there. -/
theorem toList_positional_pointed (fractional : exponent < 0)
    (inside : 0 < ((Nat.toDigits 10 digits).length : ℤ) + exponent) (mark : String) :
    (positional digits exponent mark).toList =
      (Nat.toDigits 10 digits).take (((Nat.toDigits 10 digits).length : ℤ) + exponent).toNat ++
        '.' ::
          (Nat.toDigits 10 digits).drop
            (((Nat.toDigits 10 digits).length : ℤ) + exponent).toNat := by
  unfold positional
  simp only
  rw [if_neg (not_le.2 fractional), length_toString, if_pos inside]
  simp only [String.toList_append, String.toList_ofList, toList_toString, List.append_assoc]
  rfl

/-- Below one a number is shown with zeros behind the point. -/
theorem toList_positional_small
    (outside : ((Nat.toDigits 10 digits).length : ℤ) + exponent ≤ 0) (mark : String) :
    (positional digits exponent mark).toList =
      '0' :: '.' ::
        (List.replicate (-(((Nat.toDigits 10 digits).length : ℤ) + exponent)).toNat '0' ++
          Nat.toDigits 10 digits) := by
  have hcount : 0 < (Nat.toDigits 10 digits).length := Nat.length_toDigits_pos
  unfold positional
  simp only
  rw [if_neg (by omega), length_toString, if_neg (by omega)]
  simp only [zeros, String.toList_append, String.toList_ofList, toList_toString,
    List.append_assoc]
  rfl

/-- With an exponent one digit stands before the point. -/
theorem toList_scientific :
    (scientific digits exponent).toList =
      (Nat.toDigits 10 digits).take 1 ++
        ((match (Nat.toDigits 10 digits).drop 1 with
          | [] => []
          | fraction => '.' :: fraction) ++
          'e' :: (if ((Nat.toDigits 10 digits).length : ℤ) + exponent - 1 < 0 then '-' else '+') ::
            Nat.toDigits 10 (((Nat.toDigits 10 digits).length : ℤ) + exponent - 1).natAbs) := by
  have hmark : ∀ power : ℤ, (if power < 0 then "e-" else "e+").toList =
      ['e', if power < 0 then '-' else '+'] := by
    intro power
    split <;> rfl
  have hfraction : ∀ fraction : List Char,
      (if fraction.isEmpty then "" else "." ++ String.ofList fraction).toList =
        match fraction with
        | [] => []
        | fraction => '.' :: fraction := by
    intro fraction
    cases fraction with
    | nil => rfl
    | cons c rest =>
      rw [List.isEmpty_cons, if_neg Bool.false_ne_true]
      simp only [String.toList_append, String.toList_ofList]
      rfl
  unfold scientific
  simp only [String.toList_append, hmark, hfraction, String.toList_ofList, toList_toString,
    List.append_assoc]
  rfl

end Binary64

/-! ## Numerals that are no integers -/

/-- A text is a numeral with a fraction or an exponent, and stands for a value. -/
structure Numeral.Spells (numeral : Numeral) (text : List Char) (value : ℚ) : Prop where
  text : text = numeral.chars
  marked : numeral.fraction ≠ [] ∨ numeral.exponent ≠ none
  value : ∀ negative, (numeral.decimal negative).size = value

/-- The value of a numeral, from its digits and its exponent. -/
theorem Numeral.size_decimal (numeral : Numeral) (negative : Bool) :
    (numeral.decimal negative).size =
      Decimal.digitsValue (numeral.whole ++ numeral.fraction) *
        10 ^ (numeral.exponent.getD 0 - numeral.fraction.length) := rfl

/-- The leading digits of a positive number do not start with zero either. -/
theorem head?_take_toDigits_ne {n count : ℕ} (pos : 0 < n) (some : count ≠ 0) :
    ((Nat.toDigits 10 n).take count).head? ≠ .some '0' := by
  rw [List.head?_take, if_neg some]
  exact head?_toDigits_ne pos

namespace Binary64

section

variable {digits : ℕ} {exponent : ℤ}

/-- What is shown of a whole number spells its value. -/
theorem exists_numeral_whole (pos : 0 < digits) (whole : 0 ≤ exponent) :
    ∃ numeral : Numeral, numeral.Spells (positional digits exponent ".0").toList
      (digits * 10 ^ exponent) := by
  have hdigits : ∀ c ∈ Nat.toDigits 10 digits ++ List.replicate exponent.toNat '0',
      c.isDigit = true := by
    intro c hc
    rcases List.mem_append.1 hc with hc | hc
    · exact isDigit_of_mem_toDigits c hc
    · exact isDigit_of_mem_zeros c hc
  -- zeros follow the digits, so the first character is that of the digits
  have hplain : (Nat.toDigits 10 digits ++ List.replicate exponent.toNat '0').head? ≠
      some '0' := by
    rw [List.head?_append_of_ne_nil _ Nat.toDigits_ne_nil]
    exact head?_toDigits_ne pos
  refine ⟨⟨Nat.toDigits 10 digits ++ List.replicate exponent.toNat '0', ['0'], none, by
    simp, hdigits, Or.inr hplain, List.forall_mem_singleton.2 rfl⟩, ?_, Or.inl (by simp), ?_⟩
  · rw [toList_positional_whole whole]
    rfl
  · intro negative
    have hpower : (10 : ℚ) ^ exponent = 10 ^ exponent.toNat := by
      rw [← zpow_natCast, Int.toNat_of_nonneg whole]
    rw [Numeral.size_decimal]
    simp only
    rw [Decimal.digitsValue_append, Decimal.digitsValue_append, Decimal.digitsValue_zeros,
      Decimal.digitsValue_toDigits, List.length_replicate, hpower]
    simp [Decimal.digitsValue, Decimal.digitValue]

/-- What is shown of a number with a point among its digits spells its value. -/
theorem exists_numeral_pointed (pos : 0 < digits) (fractional : exponent < 0)
    (inside : 0 < ((Nat.toDigits 10 digits).length : ℤ) + exponent) :
    ∃ numeral : Numeral, numeral.Spells (positional digits exponent ".0").toList
      (digits * 10 ^ exponent) := by
  rw [toList_positional_pointed fractional inside]
  set point := (((Nat.toDigits 10 digits).length : ℤ) + exponent).toNat with hpoint
  have hdrop : (Nat.toDigits 10 digits).drop point ≠ [] := by
    rw [Ne, List.drop_eq_nil_iff]
    omega
  have htake : (Nat.toDigits 10 digits).take point ≠ [] := by
    rw [Ne, List.take_eq_nil_iff, not_or]
    exact ⟨by omega, Nat.toDigits_ne_nil⟩
  refine ⟨⟨(Nat.toDigits 10 digits).take point, (Nat.toDigits 10 digits).drop point, none, htake,
    fun c hc => isDigit_of_mem_toDigits c (List.mem_of_mem_take hc),
    Or.inr (head?_take_toDigits_ne pos (by omega)),
    fun c hc => isDigit_of_mem_toDigits c (List.mem_of_mem_drop hc)⟩, ?_, Or.inl hdrop, ?_⟩
  · rw [Numeral.chars, Numeral.fractionChars_of_ne_nil hdrop, Numeral.exponentChars,
      List.append_nil]
  · intro negative
    rw [Numeral.size_decimal]
    simp only
    rw [List.take_append_drop, Decimal.digitsValue_toDigits, List.length_drop]
    congr 2
    simp only [Option.getD_none]
    omega

/-- What is shown of a number below one spells its value. -/
theorem exists_numeral_small
    (outside : ((Nat.toDigits 10 digits).length : ℤ) + exponent ≤ 0) :
    ∃ numeral : Numeral, numeral.Spells (positional digits exponent ".0").toList
      (digits * 10 ^ exponent) := by
  rw [toList_positional_small outside]
  set gap := (-(((Nat.toDigits 10 digits).length : ℤ) + exponent)).toNat with hgap
  have hdigits : ∀ c ∈ List.replicate gap '0' ++ Nat.toDigits 10 digits, c.isDigit = true := by
    intro c hc
    rcases List.mem_append.1 hc with hc | hc
    · exact isDigit_of_mem_zeros c hc
    · exact isDigit_of_mem_toDigits c hc
  have hne : List.replicate gap '0' ++ Nat.toDigits 10 digits ≠ [] := by
    rw [Ne, List.append_eq_nil_iff, not_and_or]
    exact Or.inr Nat.toDigits_ne_nil
  have hwhole : ∀ c ∈ ['0'], c.isDigit = true := List.forall_mem_singleton.2 rfl
  refine ⟨⟨['0'], List.replicate gap '0' ++ Nat.toDigits 10 digits, none, by simp, hwhole,
    Or.inl rfl, hdigits⟩, ?_, Or.inl hne, ?_⟩
  · rw [Numeral.chars, Numeral.fractionChars_of_ne_nil hne, Numeral.exponentChars, List.append_nil]
    rfl
  · intro negative
    rw [Numeral.size_decimal]
    simp only
    rw [Decimal.digitsValue_append, Decimal.digitsValue_append, Decimal.digitsValue_zeros,
      Decimal.digitsValue_toDigits, List.length_append, List.length_replicate]
    congr 2
    · simp [Decimal.digitsValue, Decimal.digitValue]
    · simp only [Option.getD_none]
      omega

/-- What is shown of a number with an exponent spells its value. -/
theorem exists_numeral_scientific (pos : 0 < digits) :
    ∃ numeral : Numeral, numeral.Spells (scientific digits exponent).toList
      (digits * 10 ^ exponent) := by
  have hcount : 0 < (Nat.toDigits 10 digits).length := Nat.length_toDigits_pos
  have htake : (Nat.toDigits 10 digits).take 1 ≠ [] := by
    rw [Ne, List.take_eq_nil_iff, not_or]
    exact ⟨by decide, Nat.toDigits_ne_nil⟩
  refine ⟨⟨(Nat.toDigits 10 digits).take 1, (Nat.toDigits 10 digits).drop 1,
    some (((Nat.toDigits 10 digits).length : ℤ) + exponent - 1), htake,
    fun c hc => isDigit_of_mem_toDigits c (List.mem_of_mem_take hc),
    Or.inr (head?_take_toDigits_ne pos (by decide)),
    fun c hc => isDigit_of_mem_toDigits c (List.mem_of_mem_drop hc)⟩, ?_, Or.inr (by simp), ?_⟩
  · rw [toList_scientific]
    rfl
  · intro negative
    rw [Numeral.size_decimal]
    simp only
    rw [List.take_append_drop, Decimal.digitsValue_toDigits, List.length_drop]
    congr 2
    simp only [Option.getD_some]
    omega

end

/-! ## Doubles -/

/-- A zero is written with a fraction and with its sign. -/
theorem exists_numeral_zero {x : Binary64} (zero : x.isZero = true) :
    ∃ numeral : Numeral, x.toText.toList = x.signText.toList ++ numeral.chars ∧
      (numeral.fraction ≠ [] ∨ numeral.exponent ≠ none) ∧
      ofDecimal (numeral.decimal x.negative) = x := by
  have hmagnitude : x.magnitude = 0 := by simpa [isZero] using zero
  have hzero : ∀ c ∈ ['0'], c.isDigit = true := List.forall_mem_singleton.2 rfl
  refine ⟨⟨['0'], ['0'], none, by simp, hzero, Or.inl rfl, hzero⟩, ?_, Or.inl (by simp), ?_⟩
  · rw [toText, if_pos zero, String.toList_append]
    rfl
  · have hvalue : ofDecimal ⟨x.negative, 0, -1⟩ = Binary64.zero x.negative := by simp [ofDecimal]
    have hsame : Binary64.zero x.negative = x := by
      cases x
      simp_all [Binary64.zero]
    exact hvalue.trans hsame

/-- However many digits a number is written with, the text spells that number. -/
theorem exists_numeral_shown {digits : ℕ} (pos : 0 < digits) (exponent : ℤ) :
    ∃ numeral : Numeral, numeral.Spells
      (if -5 < (digitCount digits : ℤ) + exponent ∧ (digitCount digits : ℤ) + exponent ≤ 16 then
        positional digits exponent ".0"
      else scientific digits exponent).toList (digits * 10 ^ exponent) := by
  split
  · by_cases hwhole : 0 ≤ exponent
    · exact exists_numeral_whole pos hwhole
    · by_cases hinside : 0 < ((Nat.toDigits 10 digits).length : ℤ) + exponent
      · exact exists_numeral_pointed pos (not_le.1 hwhole) hinside
      · exact exists_numeral_small (not_lt.1 hinside)
  · exact exists_numeral_scientific pos

/-- The shortest decimal of a number that is not zero has a digit that is not zero. -/
theorem shortest_pos {x : Binary64} (nonzero : x.isZero = false) : 0 < x.shortest.1 := by
  have hsize := (shortest_covers nonzero).pos nonzero
  rcases Nat.eq_zero_or_pos x.shortest.1 with hnone | hpos
  · rw [hnone] at hsize
    simp at hsize
  · exact hpos

/-- The text of a finite double is a numeral with its sign, and reads as that double. -/
theorem exists_numeral {x : Binary64} (finite : x.isFinite = true) :
    ∃ numeral : Numeral, x.toText.toList = Numeral.signChars x.negative ++ numeral.chars ∧
      (numeral.fraction ≠ [] ∨ numeral.exponent ≠ none) ∧
      ofDecimal (numeral.decimal x.negative) = x := by
  have hsign : x.signText.toList = Numeral.signChars x.negative := by
    unfold signText Numeral.signChars
    split <;> rfl
  rw [← hsign]
  cases hzero : x.isZero with
  | true => exact exists_numeral_zero hzero
  | false =>
    obtain ⟨numeral, hnumeral⟩ := exists_numeral_shown (shortest_pos hzero) x.shortest.2
    refine ⟨numeral, ?_, hnumeral.marked, ?_⟩
    · rw [← hnumeral.text, ← String.toList_append]
      unfold toText
      rw [hzero]
      rfl
    · -- rounding takes back any decimal of the interval, whichever digits were chosen
      refine ofDecimal_of_covers finite hzero rfl ?_
      rw [hnumeral.value]
      exact shortest_covers hzero

end Binary64

end SheetSchema
