import SheetSchema.Number.Binary64

/-!
# Numbers in cells

A cell holds a number as an unsigned 64-bit integer, a negative signed 64-bit integer, or a finite
double. Which of them a literal becomes depends on its spelling: a fraction or an exponent makes
it a double, and so do minus zero and integers out of range.
-/

namespace SheetSchema.Cell

/-- Number of a cell: below `2 ^ 64`, at least `-2 ^ 63`, or a finite double. -/
inductive Number where
  | natural (value : Nat) (lt : value < 0x10000000000000000)
  | negative (magnitude : Nat) (pos : 0 < magnitude) (le : magnitude ≤ 0x8000000000000000)
  | real (value : Binary64) (finite : value.isFinite = true)
deriving DecidableEq

namespace Number

/-- A finite double as a number. -/
def ofReal? (x : Binary64) : Option Number :=
  if h : x.isFinite = true then some (real x h) else none

/-- An integer in the range of 64 bits as a number. -/
def ofInt? (n : Int) : Option Number :=
  if 0 ≤ n then
    if h : n.toNat < 0x10000000000000000 then some (natural n.toNat h) else none
  else if h : 0 < n.natAbs ∧ n.natAbs ≤ 0x8000000000000000 then some (negative n.natAbs h.1 h.2)
  else none

/-- Read a JSON number; none if it is too large for a double. -/
def ofLiteral? (literal : String) : Option Number :=
  let (minus, rest) :=
    match literal.toList with
    | '-' :: rest => (true, rest)
    | chars => (false, chars)
  let size := Decimal.digitsValue rest
  let integer? :=
    if !rest.all Char.isDigit || (minus && size == 0) then none
    else ofInt? (if minus then -(size : Int) else size)
  match integer? with
  | some n => some n
  | none => (Decimal.readUnsigned? minus rest).bind fun d => ofReal? (.ofDecimal d)

/-- The literal that documents show. -/
def toText : Number → String
  | natural value _ => toString value
  | negative magnitude .. => "-" ++ toString magnitude
  | real value _ => value.toText

/-- The nearest double. -/
def toReal : Number → Binary64
  | natural value _ => .ofNat value
  | negative magnitude .. => .ofInt (-magnitude)
  | real value _ => value

/-- Whether the number is zero. -/
def isZero : Number → Bool
  | natural value _ => value == 0
  | negative .. => false
  | real value _ => value.isZero

end Number

end SheetSchema.Cell
