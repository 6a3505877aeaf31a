import Mathlib.Algebra.Order.Ring.Nat

/-!
A capacity shared by ordinary, privileged and forced use.

Ordinary use has a cap of its own and never goes past the capacity. Privileged use may,
up to a reserve; forced use is not asked. As long as cap and reserve fit together,
ordinary and privileged use stay inside the capacity whatever is forced upon it.
-/
namespace Reserve

structure Pool where
  capacity : Nat
  cap : Nat
  reserve : Nat
  fits : cap + reserve ≤ capacity

structure Used where
  ordinary : Nat
  privileged : Nat
  forced : Nat

namespace Pool
variable (p : Pool) {u : Used} {next kept : Nat}

def Ordinary (u : Used) (next : Nat) : Prop :=
  next ≤ p.cap ∧ (next + u.privileged + u.forced ≤ p.capacity ∨ next = 0)

def Privileged (u : Used) (next : Nat) : Prop :=
  next ≤ p.capacity ∧ (u.ordinary + next + u.forced ≤ p.capacity ∨ next ≤ p.reserve)

structure Sound (u : Used) : Prop where
  cap : u.ordinary ≤ p.cap
  capacity : u.ordinary + u.privileged ≤ p.capacity

variable {p}

theorem Ordinary.sound (h : p.Ordinary u next) (sound : p.Sound u) (settled : kept ≤ next) :
    p.Sound { u with ordinary := kept } := by
  refine ⟨settled.trans h.1, ?_⟩
  have before := sound.capacity
  obtain fits | none := h.2
  · dsimp only
    omega
  · dsimp only
    omega

theorem Privileged.sound (h : p.Privileged u next) (sound : p.Sound u) (settled : kept ≤ next) :
    p.Sound { u with privileged := kept } := by
  refine ⟨sound.cap, ?_⟩
  have cap := sound.cap
  have fits := p.fits
  obtain inside | reserved := h.2
  · dsimp only
    omega
  · dsimp only
    omega

theorem Sound.forced (sound : p.Sound u) (forced : Nat) : p.Sound { u with forced := forced } :=
  ⟨sound.cap, sound.capacity⟩

end Pool
end Reserve
