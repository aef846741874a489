import SheetSchema.Cell.Number
import SheetSchema.Proofs.Number.Text

/-!
# Numbers of cells read back

Whatever number a cell holds, the literal that documents show is one numeral, and reading it gives
back the same number: the same kind, the same value, and the same sign of zero.
-/

namespace SheetSchema

/-- The numeral of a natural number. -/
def Numeral.ofNat (n : ℕ) : Numeral where
  whole := Nat.toDigits 10 n
  fraction := []
  exponent := none
  whole_ne_nil := Nat.toDigits_ne_nil
  whole_digits := isDigit_of_mem_toDigits
  whole_plain := by
    rcases Nat.eq_zero_or_pos n with rfl | hpos
    · exact Or.inl rfl
    · exact Or.inr (head?_toDigits_ne hpos)
  fraction_digits := by simp

theorem Numeral.chars_ofNat (n : ℕ) : (Numeral.ofNat n).chars = Nat.toDigits 10 n := by
  simp [Numeral.chars, Numeral.fractionChars, Numeral.exponentChars, Numeral.ofNat]

/-- A numeral starts with a digit, so not with a minus. -/
theorem Numeral.head?_chars_ne (numeral : Numeral) : numeral.chars.head? ≠ some '-' := by
  intro hminus
  rw [Numeral.chars, List.head?_append_of_ne_nil _ numeral.whole_ne_nil] at hminus
  exact absurd (numeral.whole_digits '-' (List.mem_of_mem_head? hminus)) (by decide)

/-- A numeral with a fraction or an exponent is no row of digits. -/
theorem Numeral.not_all_isDigit {numeral : Numeral}
    (marked : numeral.fraction ≠ [] ∨ numeral.exponent ≠ none) :
    numeral.chars.all Char.isDigit = false := by
  rw [List.all_eq_false]
  rcases marked with hfraction | hexponent
  · refine ⟨'.', ?_, by decide⟩
    rw [Numeral.chars, Numeral.fractionChars_of_ne_nil hfraction]
    simp
  · obtain ⟨power, hpower⟩ := Option.ne_none_iff_exists'.1 hexponent
    refine ⟨'e', ?_, by decide⟩
    rw [Numeral.chars, Numeral.exponentChars, hpower]
    simp

namespace Cell

/-- The integer of a sign and a magnitude. -/
def signed (negative : Bool) (magnitude : ℕ) : ℤ := if negative then -magnitude else magnitude

namespace Number

/-- A literal is read by its sign and what follows it. -/
theorem ofLiteral?_eq {literal : String} {negative : Bool} {rest : List Char}
    (chars : literal.toList = Numeral.signChars negative ++ rest) (start : rest.head? ≠ some '-') :
    ofLiteral? literal =
      match (if !rest.all Char.isDigit || (negative && Decimal.digitsValue rest == 0) then none
        else ofInt? (if negative then -(Decimal.digitsValue rest : ℤ)
          else Decimal.digitsValue rest)) with
      | some n => some n
      | none => (Decimal.readUnsigned? negative rest).bind fun d => ofReal? (.ofDecimal d) := by
  unfold ofLiteral?
  rw [chars]
  cases negative with
  | true => rfl
  | false =>
    cases rest with
    | nil => rfl
    | cons c rest =>
      have hc : c ≠ '-' := by simpa using start
      split
      next minus rest' hcut =>
      rw [Numeral.signChars, if_neg Bool.false_ne_true, List.nil_append] at hcut
      split at hcut
      · next heq => exact absurd (List.cons.inj heq).1 hc
      · rw [Prod.mk.injEq] at hcut
        obtain ⟨rfl, rfl⟩ := hcut
        rfl

theorem readUnsigned?_toDigits (negative : Bool) (magnitude : ℕ) :
    Decimal.readUnsigned? negative (Nat.toDigits 10 magnitude) =
      some ⟨negative, magnitude, 0⟩ := by
  rw [← Numeral.chars_ofNat, Numeral.readUnsigned?_chars]
  simp [Numeral.decimal, Numeral.ofNat, Decimal.digitsValue_toDigits]

/-- A row of digits is an integer if it has 64 bits, and a double otherwise. -/
theorem ofLiteral?_digits {literal : String} {negative : Bool} {magnitude : ℕ}
    (spelled : literal.toList = Numeral.signChars negative ++ Nat.toDigits 10 magnitude) :
    ofLiteral? literal =
      (if negative && magnitude == 0 then none else ofInt? (signed negative magnitude)).or
        (ofReal? (.ofDecimal ⟨negative, magnitude, 0⟩)) := by
  have hstart : (Nat.toDigits 10 magnitude).head? ≠ some '-' := by
    rw [← Numeral.chars_ofNat]
    exact Numeral.head?_chars_ne _
  rw [ofLiteral?_eq spelled hstart, List.all_eq_true.2 isDigit_of_mem_toDigits,
    Decimal.digitsValue_toDigits, readUnsigned?_toDigits, Option.bind_some]
  simp only [Bool.not_true, Bool.false_or]
  unfold signed
  split
  · next hread => rw [hread]; rfl
  · next hread => rw [hread]; rfl

theorem ofInt?_natural {value : ℕ} (lt : value < 0x10000000000000000) :
    ofInt? value = some (natural value lt) := by
  unfold ofInt?
  rw [if_pos (Int.natCast_nonneg value), Int.toNat_natCast, dif_pos lt]

theorem ofInt?_negative {magnitude : ℕ} (pos : 0 < magnitude)
    (le : magnitude ≤ 0x8000000000000000) :
    ofInt? (-(magnitude : ℤ)) = some (negative magnitude pos le) := by
  unfold ofInt?
  have habs : (-(magnitude : ℤ)).natAbs = magnitude := by omega
  rw [if_neg (by omega), dif_pos (by omega)]
  simp only [habs]

theorem toList_toText_natural {value : ℕ} (lt : value < 0x10000000000000000) :
    (natural value lt).toText.toList =
      Numeral.signChars false ++ (Numeral.ofNat value).chars := by
  rw [Numeral.chars_ofNat]
  exact toList_toString value

theorem toList_toText_negative {magnitude : ℕ} (pos : 0 < magnitude)
    (le : magnitude ≤ 0x8000000000000000) :
    (negative magnitude pos le).toText.toList =
      Numeral.signChars true ++ (Numeral.ofNat magnitude).chars := by
  rw [Numeral.chars_ofNat, ← toList_toString]
  simp [toText, Numeral.signChars, String.toList_append]

/-- The literal of a number is a numeral with its sign. -/
theorem exists_numeral (number : Cell.Number) :
    ∃ (negative : Bool) (numeral : Numeral),
      number.toText.toList = Numeral.signChars negative ++ numeral.chars := by
  cases number with
  | natural value lt => exact ⟨false, .ofNat value, toList_toText_natural lt⟩
  | negative magnitude pos le => exact ⟨true, .ofNat magnitude, toList_toText_negative pos le⟩
  | real value finite =>
    obtain ⟨numeral, htext, -⟩ := Binary64.exists_numeral finite
    exact ⟨value.negative, numeral, htext⟩

/-- A number is read back from its literal. -/
theorem ofLiteral?_toText (number : Cell.Number) : ofLiteral? number.toText = some number := by
  cases number with
  | natural value lt =>
    have hspelled := toList_toText_natural lt
    rw [Numeral.chars_ofNat] at hspelled
    rw [ofLiteral?_digits hspelled]
    simp [signed, ofInt?_natural lt]
  | negative magnitude pos le =>
    have hspelled := toList_toText_negative pos le
    have hnonzero : magnitude ≠ 0 := pos.ne'
    rw [Numeral.chars_ofNat] at hspelled
    rw [ofLiteral?_digits hspelled]
    simp [signed, ofInt?_negative pos le, hnonzero]
  | real value finite =>
    obtain ⟨numeral, htext, hmarked, hvalue⟩ := Binary64.exists_numeral finite
    show ofLiteral? value.toText = _
    rw [ofLiteral?_eq htext numeral.head?_chars_ne, Numeral.not_all_isDigit hmarked,
      numeral.readUnsigned?_chars]
    simp [hvalue, ofReal?, finite]

end Number

end Cell

end SheetSchema
