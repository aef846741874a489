import Mathlib.Data.List.TakeDrop
import Mathlib.Data.List.TakeWhile
import SheetSchema.Json.Token
import SheetSchema.Proofs.Number.Digits

/-!
# Numerals

A numeral in its parts: digits before the point, digits behind it, and an exponent. Written out, it
is taken from the front of a text as one token, and it is read as the decimal that its parts give.
-/

namespace SheetSchema

/-- A text is cut where a test fails for the first time. -/
theorem span_append {test : Char → Bool} {before after : List Char}
    (passes : ∀ c ∈ before, test c = true) (stops : ∀ c ∈ after.head?, test c = false) :
    (before ++ after).span test = (before, after) := by
  rw [List.span_eq_takeWhile_dropWhile, List.takeWhile_append_of_pos passes,
    List.dropWhile_append_of_pos passes]
  cases after with
  | nil => simp
  | cons c rest => simp [stops c (by simp)]

/-! ## Numerals in parts -/

/-- An unsigned numeral: a whole part without a superfluous zero, a fraction that may be empty, and
perhaps an exponent. -/
structure Numeral where
  whole : List Char
  fraction : List Char
  exponent : Option ℤ
  whole_ne_nil : whole ≠ []
  whole_digits : ∀ c ∈ whole, c.isDigit = true
  whole_plain : whole = ['0'] ∨ whole.head? ≠ some '0'
  fraction_digits : ∀ c ∈ fraction, c.isDigit = true

namespace Numeral

/-- The point and the digits behind it. -/
def fractionChars (numeral : Numeral) : List Char :=
  match numeral.fraction with
  | [] => []
  | digits => '.' :: digits

theorem fractionChars_of_ne_nil {numeral : Numeral} (some : numeral.fraction ≠ []) :
    numeral.fractionChars = '.' :: numeral.fraction := by
  unfold fractionChars
  split
  · contradiction
  · rfl

/-- The exponent with its mark and its sign. -/
def exponentChars (numeral : Numeral) : List Char :=
  match numeral.exponent with
  | none => []
  | some power => 'e' :: (if power < 0 then '-' else '+') :: Nat.toDigits 10 power.natAbs

/-- The numeral as it is written. -/
def chars (numeral : Numeral) : List Char :=
  numeral.whole ++ (numeral.fractionChars ++ numeral.exponentChars)

/-- The decimal that the parts give. -/
def decimal (numeral : Numeral) (negative : Bool) : Decimal where
  negative
  digits := Decimal.digitsValue (numeral.whole ++ numeral.fraction)
  exponent := numeral.exponent.getD 0 - numeral.fraction.length

/-- What may follow a numeral without becoming part of it. -/
def Ends (rest : List Char) : Prop :=
  ∀ c ∈ rest.head?, c.isDigit = false ∧ c ≠ '.' ∧ c ≠ 'e' ∧ c ≠ 'E'

theorem ends_nil : Ends [] := by simp [Ends]

/-- The character right behind a numeral decides. -/
theorem ends_cons {c : Char} (stops : c.isDigit = false ∧ c ≠ '.' ∧ c ≠ 'e' ∧ c ≠ 'E')
    (rest : List Char) : Ends (c :: rest) := by
  intro other hother
  obtain rfl : c = other := Option.some.inj hother
  exact stops

section

variable (numeral : Numeral) {rest : List Char}

/-- Digits of a number are read up to what follows. -/
theorem toDigits_span (n : ℕ) (ends : Ends rest) :
    (Nat.toDigits 10 n ++ rest).span Char.isDigit = (Nat.toDigits 10 n, rest) :=
  span_append isDigit_of_mem_toDigits fun c hc => (ends c hc).1

/-- Behind its digits, a numeral goes on with its exponent or ends. -/
theorem exponentChars_stops (ends : Ends rest) :
    ∀ c ∈ (numeral.exponentChars ++ rest).head?, c.isDigit = false ∧ c ≠ '.' := by
  unfold exponentChars
  intro c hc
  cases hexponent : numeral.exponent with
  | none =>
    rw [hexponent] at hc
    exact ⟨(ends c hc).1, (ends c hc).2.1⟩
  | some power =>
    simp only [hexponent, List.cons_append, List.head?_cons, Option.mem_def,
      Option.some.injEq] at hc
    subst hc
    decide

/-- The whole part is read up to the point. -/
theorem whole_span (ends : Ends rest) :
    (numeral.whole ++ (numeral.fractionChars ++ (numeral.exponentChars ++ rest))).span
      Char.isDigit =
      (numeral.whole, numeral.fractionChars ++ (numeral.exponentChars ++ rest)) := by
  refine span_append numeral.whole_digits ?_
  unfold fractionChars
  intro c hc
  cases hfraction : numeral.fraction with
  | nil =>
    rw [hfraction] at hc
    exact (numeral.exponentChars_stops ends c hc).1
  | cons digit digits =>
    simp only [hfraction, List.cons_append, List.head?_cons, Option.mem_def,
      Option.some.injEq] at hc
    subst hc
    decide

/-- The fraction is read up to the exponent. -/
theorem fraction_span (ends : Ends rest) :
    (numeral.fraction ++ (numeral.exponentChars ++ rest)).span Char.isDigit =
      (numeral.fraction, numeral.exponentChars ++ rest) :=
  span_append numeral.fraction_digits fun c hc => (numeral.exponentChars_stops ends c hc).1

/-! ## Taken as a token -/

open Json.Token in
theorem digits?_eq {chars digits rest : List Char} (cut : chars.span Char.isDigit = (digits, rest))
    (some : digits ≠ []) : digits? chars = .some (digits, rest) := by
  obtain ⟨digit, more, rfl⟩ := List.exists_cons_of_ne_nil some
  unfold digits?
  rw [cut]

open Json.Token in
/-- A numeral is read from its whole part on. -/
theorem wholePart?_whole (ends : Ends rest) :
    wholePart? (numeral.whole ++ (numeral.fractionChars ++ (numeral.exponentChars ++ rest))) =
      some (numeral.whole, numeral.fractionChars ++ (numeral.exponentChars ++ rest)) := by
  rcases numeral.whole_plain with hzero | hplain
  · rw [hzero]
    rfl
  · have hspan := numeral.whole_span ends
    obtain ⟨c, digits, hwhole⟩ := List.exists_cons_of_ne_nil numeral.whole_ne_nil
    rw [hwhole] at hplain hspan ⊢
    have hc : c ≠ '0' := by simpa using hplain
    rw [List.cons_append] at hspan ⊢
    unfold wholePart?
    split
    · next heq => exact absurd (List.cons.inj heq).1 hc
    · unfold digits?
      rw [hspan]

open Json.Token in
/-- Behind the whole part the fraction is read, if there is one. -/
theorem fractionPart?_fraction (ends : Ends rest) :
    fractionPart? (numeral.fractionChars ++ (numeral.exponentChars ++ rest)) =
      some (numeral.fractionChars, numeral.exponentChars ++ rest) := by
  have hspan := numeral.fraction_span ends
  have hstops := numeral.exponentChars_stops ends
  unfold fractionChars
  cases hfraction : numeral.fraction with
  | nil =>
    unfold fractionPart?
    split
    · next heq =>
      rw [List.nil_append] at heq
      exact absurd rfl (hstops '.' (by rw [heq]; rfl)).2
    · rfl
  | cons digit digits =>
    rw [hfraction] at hspan
    have hdigits := digits?_eq hspan (List.cons_ne_nil _ _)
    show (digits? (digit :: digits ++ (numeral.exponentChars ++ rest))).map _ = _
    rw [hdigits]
    rfl

open Json.Token in
/-- Behind the fraction the exponent is read, if there is one. -/
theorem exponentPart?_exponent (ends : Ends rest) :
    exponentPart? (numeral.exponentChars ++ rest) = some (numeral.exponentChars, rest) := by
  unfold exponentChars
  cases hexponent : numeral.exponent with
  | none =>
    cases rest with
    | nil => rfl
    | cons c rest =>
      obtain ⟨-, -, hlower, hupper⟩ := ends c rfl
      simp [exponentPart?, hlower, hupper]
  | some power =>
    have hdigits := digits?_eq (toDigits_span power.natAbs ends) Nat.toDigits_ne_nil
    by_cases hneg : power < 0
    · simp [exponentPart?, hneg, exponentSign, hdigits]
    · simp [exponentPart?, hneg, exponentSign, hdigits]

/-- A minus, if there is one. -/
def signChars (negative : Bool) : List Char := if negative then ['-'] else []

open Json.Token in
/-- A numeral with its sign is one token, wherever it ends. -/
theorem number?_chars (negative : Bool) (ends : Ends rest) :
    number? (signChars negative ++ numeral.chars ++ rest) =
      some (signChars negative ++ numeral.chars, rest) := by
  have hwhole := numeral.wholePart?_whole ends
  have hfraction := numeral.fractionPart?_fraction ends
  have hexponent := numeral.exponentPart?_exponent ends
  obtain ⟨c, digits, hdigits⟩ := List.exists_cons_of_ne_nil numeral.whole_ne_nil
  have hc : c ≠ '-' := by
    rintro rfl
    exact absurd (numeral.whole_digits '-' (by simp [hdigits])) (by decide)
  have hchars : numeral.chars ++ rest =
      c :: (digits ++ (numeral.fractionChars ++ numeral.exponentChars) ++ rest) := by
    simp [chars, hdigits]
  unfold number?
  split
  next sign rest' hsign =>
  -- a numeral starts with a digit, so a minus can only be the sign
  have hcut : sign = signChars negative ∧ rest' = numeral.chars ++ rest := by
    cases negative with
    | true =>
      obtain ⟨rfl, rfl⟩ := Prod.mk.inj hsign
      exact ⟨rfl, rfl⟩
    | false =>
      rw [signChars, if_neg Bool.false_ne_true, List.nil_append, hchars] at hsign
      split at hsign
      · next heq => exact absurd (List.cons.inj heq).1 hc
      · obtain ⟨rfl, rfl⟩ := Prod.mk.inj hsign
        exact ⟨rfl, hchars.symm⟩
  obtain ⟨rfl, rfl⟩ := hcut
  simp [chars, hwhole, hfraction, hexponent]

/-! ## Read as a decimal -/

/-- The exponent of a numeral is read as its value. -/
theorem readExponent?_exponent :
    Decimal.readExponent? numeral.exponentChars = some (numeral.exponent.getD 0) := by
  unfold exponentChars
  cases numeral.exponent with
  | none => rfl
  | some power =>
    have hdigits : (Nat.toDigits 10 power.natAbs).all Char.isDigit = true :=
      List.all_eq_true.2 isDigit_of_mem_toDigits
    have hne : (Nat.toDigits 10 power.natAbs).isEmpty = false := by
      rw [List.isEmpty_eq_false_iff]
      exact Nat.toDigits_ne_nil
    have hread : Decimal.readInteger?
        ((if power < 0 then '-' else '+') :: Nat.toDigits 10 power.natAbs) = some power := by
      split <;>
      · simp only [Decimal.readInteger?, Decimal.takeSign, hdigits, hne,
          Decimal.digitsValue_toDigits, Bool.not_true, Bool.or_false, Bool.false_eq_true, if_false,
          if_true, Option.some.injEq]
        omega
    simp [Decimal.readExponent?, hread]

/-- A numeral is read as the decimal that it spells. -/
theorem readUnsigned?_chars (negative : Bool) :
    Decimal.readUnsigned? negative numeral.chars = some (numeral.decimal negative) := by
  have hwhole := numeral.whole_span ends_nil
  have hfraction := numeral.fraction_span ends_nil
  have hexponent := numeral.readExponent?_exponent
  have hne : numeral.whole.isEmpty = false := by simpa using numeral.whole_ne_nil
  rw [List.append_nil] at hwhole hfraction
  unfold Decimal.readUnsigned? chars decimal
  rw [hwhole]
  cases hcase : numeral.fraction with
  | nil =>
    -- without a fraction, the exponent or the end of the text follows, and neither is a point
    have hnone : numeral.fractionChars = [] := by rw [fractionChars, hcase]
    rw [hnone, List.nil_append]
    cases hpower : numeral.exponent with
    | none =>
      simp [exponentChars, hpower, hne, Decimal.readExponent?]
    | some power =>
      have hchars : numeral.exponentChars =
          'e' :: (if power < 0 then '-' else '+') :: Nat.toDigits 10 power.natAbs := by
        rw [exponentChars, hpower]
      rw [hpower, hchars] at hexponent
      simp [hchars, hne, hexponent]
  | cons digit digits =>
    have hpoint : numeral.fractionChars = '.' :: digit :: digits := by
      rw [fractionChars_of_ne_nil (by rw [hcase]; exact List.cons_ne_nil _ _), hcase]
    rw [hcase] at hfraction
    rw [hpoint, List.cons_append]
    simp only [hfraction, hne, Bool.false_and, Bool.false_eq_true, if_false, hexponent,
      Option.map_some]

end

end Numeral

end SheetSchema
