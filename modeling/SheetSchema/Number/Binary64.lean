import SheetSchema.Number.Decimal
import SheetSchema.Number.Power

/-!
# Double-precision numbers

The binary interchange format of 64 bits. A number is its sign and its magnitude, the lower 63
bits read as a natural number: magnitudes are ordered as the absolute values they stand for, with
infinity above every finite one and the not-a-numbers above infinity.

Everything is computed exactly on natural numbers: rounding a ratio or a decimal to the nearest
double (a tie goes to the even neighbour), and the shortest decimal that rounds to a given double.
-/

namespace SheetSchema

/-- A number of the 64-bit binary format; the magnitude is below `2 ^ 63`. -/
structure Binary64 where
  negative : Bool
  magnitude : Nat
  magnitude_lt : magnitude < 0x8000000000000000
deriving DecidableEq

namespace Binary64

/-! ## Classes of numbers -/

/-- Weight of the sign bit, the 63rd power of two. -/
def signBit : Nat := 0x8000000000000000

/-- Weight of the lowest exponent bit, the 52nd power of two; the fraction field lies below it. -/
def exponentBit : Nat := 0x10000000000000

/-- Magnitude of infinity: all exponent bits set, all fraction bits clear. -/
def infinityMagnitude : Nat := 0x7FF0000000000000

/-- Infinity of either sign. -/
def infinity (negative : Bool) : Binary64 := ⟨negative, infinityMagnitude, by decide⟩

/-- Zero of either sign. -/
def zero (negative : Bool) : Binary64 := ⟨negative, 0, by decide⟩

/-- A quiet not-a-number. -/
def nan (negative : Bool) : Binary64 := ⟨negative, 0x7FF8000000000000, by decide⟩

instance : Inhabited Binary64 := ⟨zero false⟩

/-- The 64 bits as a natural number. -/
def toBits (x : Binary64) : Nat := (if x.negative then signBit else 0) + x.magnitude

/-- Neither infinite nor a not-a-number. -/
def isFinite (x : Binary64) : Bool := x.magnitude < infinityMagnitude

/-- Not a number. -/
def isNaN (x : Binary64) : Bool := infinityMagnitude < x.magnitude

/-- Zero of either sign. -/
def isZero (x : Binary64) : Bool := x.magnitude == 0

/-! ## Value of a finite number -/

/-- Biased exponent field. -/
def exponentField (x : Binary64) : Nat := x.magnitude / exponentBit

/-- Fraction field. -/
def fractionField (x : Binary64) : Nat := x.magnitude % exponentBit

/-- The whole number `m` with `|x| = m · 2 ^ x.scale`. -/
def significand (x : Binary64) : Nat :=
  if x.exponentField = 0 then x.fractionField else exponentBit + x.fractionField

/-- The exponent `q` with `|x| = x.significand · 2 ^ q`. -/
def scale (x : Binary64) : Int :=
  if x.exponentField = 0 then -1074 else (x.exponentField : Int) - 1075

/-- Whether a finite number is whole. -/
def isWhole (x : Binary64) : Bool :=
  0 ≤ x.scale || x.significand % twoPow (-x.scale).toNat == 0

/-- A finite number without its fractional part. -/
def truncate (x : Binary64) : Int :=
  let size := x.significand * twoPow x.scale.toNat / twoPow (-x.scale).toNat
  if x.negative then -(size : Int) else size

/-! ## Rounding to nearest -/

/-- The whole number nearest to `num / den`; a tie goes to the even one. -/
def roundHalfEven (num den : Nat) : Nat :=
  let quotient := num / den
  let rest := num % den
  if 2 * rest < den then quotient
  else if den < 2 * rest then quotient + 1
  else quotient + quotient % 2

/-- The exponent `l` with `2 ^ l ≤ num / den < 2 ^ (l + 1)`. -/
def binaryExponent (num den : Nat) : Int :=
  let guess : Int := (num.log2 : Int) - den.log2
  if den * twoPow guess.toNat ≤ num * twoPow (-guess).toNat then guess else guess - 1

/-- The number nearest to `± num / den`; infinity when that is too large. -/
def ofRatio (negative : Bool) (num den : Nat) : Binary64 :=
  if num = 0 then zero negative
  else
    let scale := max (binaryExponent num den - 52) (-1074)
    let rounded := roundHalfEven (num * twoPow (-scale).toNat) (den * twoPow scale.toNat)
    let magnitude := (scale + 1074).toNat * exponentBit + rounded
    if h : magnitude < infinityMagnitude then
      ⟨negative, magnitude, Nat.lt_trans h (by decide)⟩
    else infinity negative

/-- The number nearest to a natural number. -/
def ofNat (n : Nat) : Binary64 := ofRatio false n 1

/-- The number nearest to an integer. -/
def ofInt (n : Int) : Binary64 := ofRatio (n < 0) n.natAbs 1

/-- How many decimal digits a natural number has; zero has one. -/
def digitCount (n : Nat) : Nat := (Nat.toDigits 10 n).length

/-- The number nearest to a decimal. A decimal beyond `10 ^ 310` or below `10 ^ -330` is decided
without computing its power of ten. -/
def ofDecimal (d : Decimal) : Binary64 :=
  let size := (digitCount d.digits : Int) + d.exponent
  if d.digits = 0 || size < -330 then zero d.negative
  else if 310 < size then infinity d.negative
  else ofRatio d.negative (d.digits * tenPow d.exponent.toNat) (tenPow (-d.exponent).toNat)

/-- Read a text: a signed numeral, or `inf`, `infinity` or `nan` in any case with an optional
sign. -/
def read? (text : String) : Option Binary64 :=
  let (negative, rest) := Decimal.takeSign text.toList
  let word := String.ofList (rest.map Char.toLower)
  if word = "inf" || word = "infinity" then some (infinity negative)
  else if word = "nan" then some (nan negative)
  else (Decimal.readUnsigned? negative rest).map ofDecimal

/-! ## Shortest decimals -/

/-- The exponent `p` with `10 ^ p ≤ num / den < 10 ^ (p + 1)`. -/
def decimalExponent (num den : Nat) : Int :=
  if den ≤ num then (digitCount (num / den) : Int) - 1
  else
    let count := digitCount (den / num)
    if num * tenPow (count - 1) = den then 1 - (count : Int) else -(count : Int)

/-- The decimals with unit `10 ^ unit` that round to `x` and lie next to it: the nearer one, if
there is any. The decimals that round to `x` reach half way to its neighbours, the ends included
when the significand is even; the lower neighbour is nearer when `x` is a power of two. -/
def nearestOnGrid? (x : Binary64) (unit : Int) : Option Nat :=
  let num := twoPow (x.scale - 2).toNat * tenPow (-unit).toNat
  let den := tenPow unit.toNat * twoPow (2 - x.scale).toNat
  let value := 4 * x.significand * num
  let gap := if x.fractionField = 0 && 1 < x.exponentField then 1 else 2
  let low := value - gap * num
  let high := value + 2 * num
  let rounds (n : Nat) : Bool :=
    if x.significand % 2 = 0 then low ≤ n * den && n * den ≤ high
    else low < n * den && n * den < high
  let below := value / den
  let above := below + 1
  match rounds below, rounds above with
  | true, true =>
    let downward := value - below * den
    let upward := above * den - value
    if downward < upward || (downward == upward && below % 2 == 0) then some below
    else some above
  | true, false => some below
  | false, true => some above
  | false, false => none

/-- Strip zeros from the end of a number, counting them into its exponent. -/
def stripZeros : Nat → Nat → Int → Nat × Int
  | 0, digits, exponent => (digits, exponent)
  | fuel + 1, digits, exponent =>
    if digits % 10 = 0 then stripZeros fuel (digits / 10) (exponent + 1) else (digits, exponent)

/-- Digits and exponent of the shortest decimal that rounds to a finite number other than zero;
of several shortest ones, the nearest. Seventeen digits always suffice. -/
def shortest (x : Binary64) : Nat × Int :=
  let top := decimalExponent (x.significand * twoPow x.scale.toNat) (twoPow (-x.scale).toNat)
  let hit := (List.range 17).findSome? fun (more : Nat) =>
    let unit := top - (more : Nat)
    (x.nearestOnGrid? unit).map fun digits => (digits, unit)
  match hit with
  | some (digits, unit) => stripZeros 17 digits unit
  | none => (0, 0)

/-! ## Text -/

/-- A row of zeros. -/
def zeros (count : Nat) : String := String.ofList (List.replicate count '0')

/-- Digits with a decimal point, in positional notation. `whole` ends a number without
fractional digits. -/
def positional (digits : Nat) (exponent : Int) (whole : String) : String :=
  let row := toString digits
  let point := (row.length : Int) + exponent
  if 0 ≤ exponent then row ++ zeros exponent.toNat ++ whole
  else if 0 < point then
    let chars := row.toList
    String.ofList (chars.take point.toNat) ++ "." ++ String.ofList (chars.drop point.toNat)
  else "0." ++ zeros (-point).toNat ++ row

/-- Digits in scientific notation: one digit before the point, and a signed exponent. -/
def scientific (digits : Nat) (exponent : Int) : String :=
  let row := (toString digits).toList
  let power := (row.length : Int) + exponent - 1
  let fraction := row.drop 1
  String.ofList (row.take 1)
    ++ (if fraction.isEmpty then "" else "." ++ String.ofList fraction)
    ++ (if power < 0 then "e-" else "e+") ++ toString power.natAbs

/-- Sign of a text. -/
def signText (x : Binary64) : String := if x.negative then "-" else ""

/-- The text in documents: shortest digits, positional from `10 ^ -5` up to `10 ^ 16` and
scientific outside; a whole number in positional notation ends in `.0`. -/
def toText (x : Binary64) : String :=
  if x.isZero then x.signText ++ "0.0"
  else
    let (digits, exponent) := x.shortest
    let point := (digitCount digits : Int) + exponent
    x.signText ++
      (if -5 < point ∧ point ≤ 16 then positional digits exponent ".0"
        else scientific digits exponent)

/-- The text without exponent and without a mark on whole numbers. -/
def toPlainText (x : Binary64) : String :=
  if x.isNaN then "NaN"
  else if !x.isFinite then x.signText ++ "inf"
  else if x.isZero then x.signText ++ "0"
  else
    let (digits, exponent) := x.shortest
    x.signText ++ positional digits exponent ""

end Binary64

end SheetSchema
