import SheetSchema.Typing.Registry

/-!
# Widths

The narrowest target type for a declared range of numbers.

| Minimum | Maximum    | integer |
|---------|------------|---------|
| ≥ 0     | < 2 ^ 32   | uint32  |
| ≥ 0     | ≥ 2 ^ 32   | uint64  |
| < 0     | < 2 ^ 31   | int32   |
| < 0     | ≥ 2 ^ 31   | int64   |

A minimum below `-2 ^ 31` also needs `int64`. A missing bound is 0 or `2 ^ 64 - 1` away from 0,
and without any bound the widest signed type is taken.
-/

namespace SheetSchema.Typing

/-- Greatest unsigned 64-bit integer, the distance of a missing bound from zero. -/
def unsignedSpan : Int := 0xFFFFFFFFFFFFFFFF

/-- The range that the given bounds of an integer stand for, if any is given. -/
def integerRange? : Option Int → Option Int → Option (Int × Int)
  | none, none => none
  | some minimum, some maximum => some (minimum, maximum)
  | some minimum, none => some (minimum, unsignedSpan)
  | none, some maximum => some (if 0 ≤ maximum then 0 else -unsignedSpan, maximum)

/-- Narrowest integer type for the given bounds. -/
def narrowestInteger (minimum maximum : Option Int) : String :=
  match integerRange? minimum maximum with
  | none => Target.int64
  | some (minimum, maximum) =>
    if 0 ≤ minimum then
      if maximum < 0x100000000 then Target.uint32 else Target.uint64
    else if maximum < 0x80000000 ∧ -0x80000000 ≤ minimum then Target.int32
    else Target.int64

/-- Magnitude of the greatest finite single-precision number. -/
def greatestSingle : Nat := 0x47EFFFFFE0000000

/-- Magnitude of the larger of two absolute values; not-a-numbers are passed over. -/
def largerMagnitude (first second : Binary64) : Nat :=
  if first.isNaN then second.magnitude
  else if second.isNaN then first.magnitude
  else max first.magnitude second.magnitude

/-- Narrowest floating-point type for the given bounds. -/
def narrowestFloat (minimum maximum : Option Binary64) : String :=
  match maximum with
  | none => Target.float64
  | some maximum =>
    if largerMagnitude (minimum.getD (.zero false)) maximum ≤ greatestSingle then Target.float32
    else Target.float64

end SheetSchema.Typing
