/-!
# Powers

The powers that the text and the layout of numbers are made of. They are functions of their own,
so that a power of natural numbers is the same term wherever it is read.

## Main definitions

* `twoPow`, `tenPow` — the powers of two and of ten.
-/

namespace JsonWorkbench.Decimal

/-- A power of two. -/
def twoPow (k : Nat) : Nat := Nat.pow 2 k

/-- A power of ten. -/
def tenPow (k : Nat) : Nat := Nat.pow 10 k

theorem twoPow_zero : twoPow 0 = 1 := rfl

theorem twoPow_succ (k : Nat) : twoPow (k + 1) = twoPow k * 2 := rfl

theorem tenPow_zero : tenPow 0 = 1 := rfl

theorem tenPow_succ (k : Nat) : tenPow (k + 1) = tenPow k * 10 := rfl

end JsonWorkbench.Decimal
