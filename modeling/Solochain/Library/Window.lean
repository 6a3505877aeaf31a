import Mathlib.Algebra.Order.Ring.Nat

/-!
Windows of one length that tile the numbers from a phase on.

Every number lies in one window. It keeps its window exactly as long as it stays
below the end, and the windows after a phase contain what the phase was taken from.
-/
namespace Window
variable {period phase n m : Nat}

/-- The start of the window of `n`; numbers below the phase count as the phase. -/
def start (period phase n : Nat) : Nat := (max n phase - phase) / period * period + phase

theorem start_of_offset (h : m < period) (k : Nat) :
    start period phase (k * period + phase + m) = k * period + phase := by
  have above : max (k * period + phase + m) phase - phase = k * period + m := by omega
  rw [start, above, Nat.mul_comm k period, Nat.mul_add_div (Nat.zero_lt_of_lt h),
    Nat.div_eq_of_lt h, Nat.add_zero, Nat.mul_comm]

theorem exists_offset (pos : 0 < period) (h : phase ≤ n) :
    ∃ k m, m < period ∧ n = k * period + phase + m ∧ start period phase n = k * period + phase := by
  have divided := Nat.div_add_mod' (n - phase) period
  refine ⟨(n - phase) / period, (n - phase) % period, Nat.mod_lt _ pos, by omega, ?_⟩
  rw [start, Nat.max_eq_left h]

theorem lt_start_add (pos : 0 < period) (h : phase ≤ n) : n < start period phase n + period := by
  obtain ⟨k, m, bound, eq, first⟩ := exists_offset pos h
  omega

/-- A later number is in the same window exactly while it stays below the end. -/
theorem start_eq_iff (pos : 0 < period) (h : phase ≤ n) (later : n ≤ m) :
    start period phase m = start period phase n ↔ m < start period phase n + period := by
  constructor
  · intro same
    rw [← same]
    exact lt_start_add pos (h.trans later)
  · intro below
    obtain ⟨k, offset, _, eq, first⟩ := exists_offset pos h
    rw [first] at below ⊢
    obtain ⟨d, rfl⟩ := Nat.exists_eq_add_of_le (show k * period + phase ≤ m by omega)
    exact start_of_offset (by omega) k

/-- The phase of `n`, rounded down to a multiple of `factor`. -/
def quantizedPhase (period factor n : Nat) : Nat := n % period / factor * factor

theorem quantizedPhase_le (period factor n : Nat) : quantizedPhase period factor n ≤ n :=
  (Nat.div_mul_le_self _ _).trans (Nat.mod_le _ _)

/-- The successor of what the phase was taken from is still in the window that the rounded
phase starts. -/
theorem start_succ_le {factor : Nat} (fits : factor < period) (pos : 0 < factor) (n : Nat) :
    start period (quantizedPhase period factor n) (n + 1) ≤ n := by
  have divided := Nat.div_add_mod' n period
  have rounded := Nat.div_add_mod' (n % period) factor
  have small := Nat.mod_lt (n % period) pos
  have split : n + 1 = n / period * period + quantizedPhase period factor n +
      (n % period % factor + 1) := by
    rw [quantizedPhase]
    omega
  rw [split, start_of_offset (by omega)]
  omega

end Window
