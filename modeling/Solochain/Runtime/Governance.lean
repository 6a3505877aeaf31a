import Solochain.Library.Quorum

/-!
The origins that democracy and the technical membership ask of the council.

A motion of a collective runs with the number of its ayes and of the seats. The
collective itself belongs to another crate, which also decides the proportions.
-/
namespace Solochain

inductive Collective
  | council
  | technicalCommittee
  deriving DecidableEq

inductive GovernanceOrigin (AccountId : Type)
  | root
  | signed (who : AccountId)
  | members (body : Collective) (yes seats : Nat)

namespace GovernanceOrigin
variable {AccountId : Type}

def ensureRoot : GovernanceOrigin AccountId → Bool
  | .root => true
  | _ => false

def ensureProportionAtLeast (body : Collective) (num den : Nat) :
    GovernanceOrigin AccountId → Bool
  | .members b yes seats => b = body && Quorum.AtLeast num den yes seats
  | _ => false

def ensureProportionMoreThan (body : Collective) (num den : Nat) :
    GovernanceOrigin AccountId → Bool
  | .members b yes seats => b = body && Quorum.MoreThan num den yes seats
  | _ => false

def eitherOfDiverse (left right : GovernanceOrigin AccountId → Bool)
    (origin : GovernanceOrigin AccountId) : Bool :=
  left origin || right origin

def ensureRootOrHalfCouncil : GovernanceOrigin AccountId → Bool :=
  eitherOfDiverse ensureRoot (ensureProportionMoreThan .council 1 2)

/-- With what a motion runs that these members approved. -/
def approved (ayes council : Finset AccountId) : GovernanceOrigin AccountId :=
  .members .council ayes.card council.card

theorem ensureProportionAtLeast_mono {num den num' den' : Nat} (pos : 0 < den')
    (ratio : num * den' ≤ num' * den) (body : Collective) (origin : GovernanceOrigin AccountId)
    (h : ensureProportionAtLeast body num' den' origin = true) :
    ensureProportionAtLeast body num den origin = true := by
  cases origin with
  | members b yes seats =>
      simp only [ensureProportionAtLeast, Bool.and_eq_true, decide_eq_true_eq] at h ⊢
      exact ⟨h.1, h.2.mono pos ratio⟩
  | root | signed who => cases h

theorem approved_atLeast (num den : Nat) (ayes council : Finset AccountId) :
    ensureProportionAtLeast .council num den (approved ayes council) = true ↔
      Quorum.AtLeast num den ayes.card council.card := by
  simp [ensureProportionAtLeast, approved]

theorem approved_halfCouncil (ayes council : Finset AccountId) :
    ensureRootOrHalfCouncil (approved ayes council) = true ↔
      Quorum.MoreThan 1 2 ayes.card council.card := by
  simp [ensureRootOrHalfCouncil, eitherOfDiverse, ensureRoot, ensureProportionMoreThan, approved]

end GovernanceOrigin

namespace Democracy
open GovernanceOrigin
variable {AccountId : Type}

def externalOrigin : GovernanceOrigin AccountId → Bool := ensureProportionAtLeast .council 1 2

def externalMajorityOrigin : GovernanceOrigin AccountId → Bool :=
  ensureProportionAtLeast .council 3 4

def externalDefaultOrigin : GovernanceOrigin AccountId → Bool :=
  ensureProportionAtLeast .council 1 1

/-- Two motions with disjoint approvals do not both pass. -/
def Exclusive (origin : GovernanceOrigin AccountId → Bool) (council : Finset AccountId) : Prop :=
  ∀ a ⊆ council, ∀ b ⊆ council, Disjoint a b →
    origin (approved a council) = true → origin (approved b council) = false

structure ExternalLaws (council : Finset AccountId) : Prop where
  exclusive : Exclusive externalOrigin council
  strictMajority : ∀ a ⊆ council, externalOrigin (approved a council) = true →
    council.card < 2 * a.card
  majorityOfDefault : ∀ a ⊆ council, externalDefaultOrigin (approved a council) = true →
    externalMajorityOrigin (approved a council) = true
  originOfMajority : ∀ a ⊆ council, externalMajorityOrigin (approved a council) = true →
    externalOrigin (approved a council) = true

theorem externalMajority_of_externalDefault (origin : GovernanceOrigin AccountId)
    (h : externalDefaultOrigin origin = true) : externalMajorityOrigin origin = true :=
  ensureProportionAtLeast_mono (by decide) (by decide) .council origin h

theorem external_of_externalMajority (origin : GovernanceOrigin AccountId)
    (h : externalMajorityOrigin origin = true) : externalOrigin origin = true :=
  ensureProportionAtLeast_mono (by decide) (by decide) .council origin h

theorem exclusive_iff_quorum {origin : GovernanceOrigin AccountId → Bool} {pass : Nat → Prop}
    {council : Finset AccountId}
    (counts : ∀ ayes, origin (approved ayes council) = true ↔ pass ayes.card) :
    Exclusive origin council ↔ Quorum.Exclusive pass council := by
  simp only [Exclusive, Quorum.Exclusive, ← Bool.not_eq_true, counts]

theorem externalOrigin_exclusive_iff (council : Finset AccountId) :
    Exclusive externalOrigin council ↔ Odd council.card := by
  rw [← Quorum.atLeast_half_exclusive_iff]
  exact exclusive_iff_quorum fun ayes => approved_atLeast 1 2 ayes council

/-- The origin of the memberships asks for more than half. -/
theorem halfCouncil_exclusive (council : Finset AccountId) :
    Exclusive ensureRootOrHalfCouncil council :=
  (exclusive_iff_quorum fun ayes => approved_halfCouncil ayes council).mpr
    (Quorum.moreThan_half_exclusive council)

/-- A council of even size has two halves, and both satisfy the origin. -/
theorem externalLaws_iff (council : Finset AccountId) :
    ExternalLaws council ↔ Odd council.card := by
  constructor
  · intro laws
    exact (externalOrigin_exclusive_iff council).mp laws.exclusive
  · intro odd
    refine ⟨(externalOrigin_exclusive_iff council).mpr odd, ?_, ?_, ?_⟩
    · intro a _ passed
      have half := (Quorum.atLeast_half_iff _ _).mp ((approved_atLeast 1 2 a council).mp passed)
      obtain ⟨k, card⟩ := odd
      omega
    · exact fun a _ => externalMajority_of_externalDefault _
    · exact fun a _ => external_of_externalMajority _

theorem council_of_two_not_exclusive : ¬ ExternalLaws ({1, 2} : Finset Nat) := by
  intro laws
  have second := laws.exclusive {1} (by decide) {2} (by decide) (by decide) (by decide)
  exact absurd second (by decide)

end Democracy
end Solochain
