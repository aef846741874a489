/-!
# Decimal numerals

The number that a written numeral stands for: a signed whole number of units of a power of ten.
Two grammars are read here: plain integers with an optional sign, and decimal fractions with an
optional exponent. Only ASCII digits count.
-/

namespace SheetSchema

/-- The exact value `± digits · 10 ^ exponent`. -/
structure Decimal where
  negative : Bool
  digits : Nat
  exponent : Int
deriving DecidableEq

namespace Decimal

/-- Value of a digit character. -/
def digitValue (c : Char) : Nat := c.toNat - '0'.toNat

/-- Value of a row of digits. -/
def digitsValue (digits : List Char) : Nat :=
  digits.foldl (fun value c => 10 * value + digitValue c) 0

/-- Split off a sign; `true` is minus. -/
def takeSign : List Char → Bool × List Char
  | '-' :: rest => (true, rest)
  | '+' :: rest => (false, rest)
  | chars => (false, chars)

/-- Read a whole text as an integer: an optional sign, then digits only. -/
def readInteger? (chars : List Char) : Option Int :=
  let (negative, digits) := takeSign chars
  if digits.isEmpty || !digits.all Char.isDigit then none
  else
    let value : Int := digitsValue digits
    some (if negative then -value else value)

/-- Read the exponent of a numeral: nothing, or `e` and an integer. -/
def readExponent? : List Char → Option Int
  | [] => some 0
  | c :: rest => if c == 'e' || c == 'E' then readInteger? rest else none

/-- Read an unsigned numeral: digits with at most one point among or beside them, and an optional
exponent. At least one digit is needed before the exponent. -/
def readUnsigned? (negative : Bool) (chars : List Char) : Option Decimal :=
  let (whole, rest) := chars.span Char.isDigit
  let (fraction, rest) :=
    match rest with
    | '.' :: rest => rest.span Char.isDigit
    | rest => ([], rest)
  if whole.isEmpty && fraction.isEmpty then none
  else
    (readExponent? rest).map fun exponent =>
      ⟨negative, digitsValue (whole ++ fraction), exponent - fraction.length⟩

end Decimal

end SheetSchema
