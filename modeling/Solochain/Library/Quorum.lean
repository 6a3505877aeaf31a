import Mathlib.Algebra.Ring.Parity
import Mathlib.Data.Finset.Card

/-!
Proportional quorums of a finite body, and when two disjoint groups of its
members can both reach one.
-/
namespace Quorum
universe u
variable {α : Type u}

def AtLeast (num den yes seats : Nat) : Prop := num * seats ≤ yes * den

def MoreThan (num den yes seats : Nat) : Prop := num * seats < yes * den

instance (num den yes seats : Nat) : Decidable (AtLeast num den yes seats) :=
  inferInstanceAs (Decidable (_ ≤ _))

instance (num den yes seats : Nat) : Decidable (MoreThan num den yes seats) :=
  inferInstanceAs (Decidable (_ < _))

/-- No two disjoint groups of the body both pass. -/
def Exclusive (pass : Nat → Prop) (body : Finset α) : Prop :=
  ∀ a ⊆ body, ∀ b ⊆ body, Disjoint a b → pass a.card → ¬ pass b.card

/-- The larger of two proportions implies the smaller one. -/
theorem AtLeast.mono {num den num' den' yes seats : Nat} (pos : 0 < den')
    (ratio : num * den' ≤ num' * den) (h : AtLeast num' den' yes seats) :
    AtLeast num den yes seats := by
  refine Nat.le_of_mul_le_mul_right ?_ pos
  calc num * seats * den' = num * den' * seats := Nat.mul_right_comm ..
    _ ≤ num' * den * seats := Nat.mul_le_mul_right seats ratio
    _ = num' * seats * den := Nat.mul_right_comm ..
    _ ≤ yes * den' * den := Nat.mul_le_mul_right den h
    _ = yes * den * den' := Nat.mul_right_comm ..

theorem card_add_card_le {a b body : Finset α} (ha : a ⊆ body) (hb : b ⊆ body)
    (apart : Disjoint a b) : a.card + b.card ≤ body.card := by
  rw [← Finset.card_disjUnion a b apart]
  refine Finset.card_le_card fun x hx => ?_
  rcases Finset.mem_disjUnion.mp hx with left | right
  · exact ha left
  · exact hb right

theorem exists_disjoint {q : Nat} (body : Finset α) (h : 2 * q ≤ body.card) :
    ∃ a ⊆ body, ∃ b ⊆ body, Disjoint a b ∧ a.card = q ∧ b.card = q := by
  classical
  obtain ⟨a, ha, cardA⟩ := Finset.exists_subset_card_eq (show q ≤ body.card by omega)
  have rest : q ≤ (body \ a).card := by
    rw [Finset.card_sdiff_of_subset ha]
    omega
  obtain ⟨b, hb, cardB⟩ := Finset.exists_subset_card_eq rest
  exact ⟨a, ha, b, hb.trans Finset.sdiff_subset,
    Finset.disjoint_of_subset_right hb Finset.disjoint_sdiff, cardA, cardB⟩

/-- A quorum of `q` members is exclusive exactly when two of them outnumber the body. -/
theorem exclusive_iff {pass : Nat → Prop} {q : Nat} (quorum : ∀ n, pass n ↔ q ≤ n)
    (body : Finset α) : Exclusive pass body ↔ body.card < 2 * q := by
  constructor
  · intro exclusive
    by_contra small
    obtain ⟨a, ha, b, hb, apart, cardA, cardB⟩ := exists_disjoint body (Nat.not_lt.mp small)
    exact exclusive a ha b hb apart ((quorum _).mpr cardA.ge) ((quorum _).mpr cardB.ge)
  · intro outnumber a ha b hb apart passA passB
    have both := card_add_card_le ha hb apart
    have left := (quorum _).mp passA
    have right := (quorum _).mp passB
    omega

theorem atLeast_half_iff (yes seats : Nat) : AtLeast 1 2 yes seats ↔ (seats + 1) / 2 ≤ yes := by
  rw [AtLeast]
  omega

theorem moreThan_half_iff (yes seats : Nat) : MoreThan 1 2 yes seats ↔ seats / 2 + 1 ≤ yes := by
  rw [MoreThan]
  omega

theorem atLeast_half_exclusive_iff (body : Finset α) :
    Exclusive (fun yes => AtLeast 1 2 yes body.card) body ↔ Odd body.card := by
  rw [exclusive_iff (fun yes => atLeast_half_iff yes body.card), Nat.odd_iff]
  omega

theorem moreThan_half_exclusive (body : Finset α) :
    Exclusive (fun yes => MoreThan 1 2 yes body.card) body := by
  rw [exclusive_iff (fun yes => moreThan_half_iff yes body.card)]
  omega

end Quorum
