/-! Binary floating-point numbers, exactly.

Every finite number of double precision is a whole number of *steps*, the step
being the smallest of them above zero, `2 ^ -1074`. A finite number is therefore a
sign and a natural number, zero with either sign, and rounding is division of
natural numbers: `Precision.nearest` takes a ratio of steps to the nearest number
that a precision has, and of two equally near ones to the one whose significand is
even. -/
namespace SlotSwap.Number

inductive Binary where
  | finite (negative : Bool) (steps : Nat)
  | infinite (negative : Bool)
  | nan
deriving DecidableEq, Repr

/-- How many steps make one: a step is `2 ^ -1074`. -/
def one : Nat := Nat.pow 2 1074

/-- A kind of binary number: the bits of its significand, and the binary logarithms, in
steps, of its smallest number above zero and of the first power beyond its largest. -/
structure Precision where
  bits : Nat
  lowest : Nat
  limit : Nat
deriving DecidableEq, Repr

def double : Precision := ⟨53, 0, 2098⟩

def single : Precision := ⟨24, 925, 1202⟩

/-- The whole number nearest to a ratio, of two equally near ones the even one. -/
def roundHalfEven (num den : Nat) : Nat :=
  let low := num / den
  let twice := 2 * (num % den)
  if twice < den then low
  else if den < twice then low + 1
  else low + low % 2

namespace Precision

/-- The binary logarithm of the distance between neighbours at a number of steps. -/
def spacing (p : Precision) (steps : Nat) : Nat := max p.lowest (steps.log2 + 1 - p.bits)

/-- The nearest number to `num / den` steps, were there no largest one. -/
def nearest (p : Precision) (num den : Nat) : Nat :=
  let unit := Nat.pow 2 (p.spacing (num / den))
  roundHalfEven num (den * unit) * unit

/-- Whether a number of steps is not beyond the largest number. -/
def holds (p : Precision) (steps : Nat) : Bool := steps < Nat.pow 2 p.limit

end Precision

/-! ### Nothing is rounded that needs no rounding -/

theorem roundHalfEven_mul (n den : Nat) (h : 0 < den) : roundHalfEven (n * den) den = n := by
  simp [roundHalfEven, Nat.mul_div_cancel n h, h]

/-- Rounding takes a ratio to one of its two neighbours. -/
theorem roundHalfEven_bounds (num den : Nat) :
    num / den ≤ roundHalfEven num den ∧ roundHalfEven num den ≤ num / den + 1 := by
  unfold roundHalfEven
  simp only
  split
  · omega
  · split <;> omega

end SlotSwap.Number
