import Mathlib.Algebra.Order.Ring.Nat

/-!
Addition and multiplication of natural numbers that stop at a largest value, and
the parts-per-billion ratios that are applied to them.
-/
namespace Saturating

def add (limit a b : Nat) : Nat := min (a + b) limit

def mul (limit a b : Nat) : Nat := min (a * b) limit

theorem add_le_limit (limit a b : Nat) : add limit a b ≤ limit := Nat.min_le_right _ _

theorem mul_eq_of_lt {limit a b : Nat} (h : mul limit a b < limit) : mul limit a b = a * b := by
  rw [mul] at h ⊢
  omega

theorem mul_le_mul (limit a : Nat) {b c : Nat} (h : b ≤ c) : mul limit a b ≤ mul limit a c :=
  min_le_min_right limit (Nat.mul_le_mul_left a h)

end Saturating

structure Perbill where
  parts : Nat
  le_one : parts ≤ 1_000_000_000
  deriving DecidableEq

namespace Perbill

def fromPercent (percent : Nat) : Perbill :=
  ⟨min percent 100 * 10_000_000, by omega⟩

/-- The nearest integer to the share of `n`, the lower one of two equally near. -/
def mul (p : Perbill) (n : Nat) : Nat :=
  let product := p.parts * n
  product / 1_000_000_000 + (if product % 1_000_000_000 > 500_000_000 then 1 else 0)

end Perbill
