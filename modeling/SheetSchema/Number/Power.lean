/-!
# Powers of two and of ten

The scales of binary and of decimal numerals, as natural numbers. Each power has its own name, so
a scale means the same function on natural numbers wherever it is read.
-/

namespace SheetSchema

/-- The `n`-th power of two. -/
def twoPow (n : Nat) : Nat := Nat.pow 2 n

/-- The `n`-th power of ten. -/
def tenPow (n : Nat) : Nat := Nat.pow 10 n

theorem twoPow_pos (n : Nat) : 0 < twoPow n := Nat.pow_pos (by decide)

theorem tenPow_zero : tenPow 0 = 1 := rfl

theorem tenPow_pos (n : Nat) : 0 < tenPow n := Nat.pow_pos (by decide)

end SheetSchema
