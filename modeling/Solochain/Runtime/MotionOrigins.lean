import Solochain.Library.Threshold
import Solochain.Runtime.Governance
import Solochain.Runtime.Types

/-!
The motions of the two collectives that the pallets of the runtime obey, and how the
shares that they ask for compare.
-/
namespace Solochain
open GovernanceOrigin
variable {Account : Type}

namespace Treasury

def rejectOrigin : GovernanceOrigin Account → Bool :=
  eitherOfDiverse ensureRoot (ensureProportionMoreThan .council 1 2)

end Treasury

namespace ElectionProviderMultiPhase

def forceOrigin : GovernanceOrigin Account → Bool := ensureRootOrHalfCouncil

end ElectionProviderMultiPhase

namespace Staking

def adminOrigin : GovernanceOrigin Account → Bool :=
  eitherOfDiverse ensureRoot (ensureProportionAtLeast .council 3 4)

end Staking

namespace FastUnstake

def controlOrigin : GovernanceOrigin Account → Bool :=
  eitherOfDiverse ensureRoot (ensureProportionAtLeast .technicalCommittee 1 1)

end FastUnstake

namespace Democracy

def fastTrackOrigin : GovernanceOrigin Account → Bool :=
  ensureProportionAtLeast .technicalCommittee 2 3

def instantOrigin : GovernanceOrigin Account → Bool :=
  ensureProportionAtLeast .technicalCommittee 1 1

def cancellationOrigin : GovernanceOrigin Account → Bool := ensureProportionAtLeast .council 2 3

def cancelProposalOrigin : GovernanceOrigin Account → Bool :=
  eitherOfDiverse ensureRoot (ensureProportionAtLeast .technicalCommittee 1 1)

def blacklistOrigin : GovernanceOrigin Account → Bool := ensureRoot

end Democracy

namespace NominationPools

def adminOrigin : GovernanceOrigin Account → Bool :=
  eitherOfDiverse ensureRoot (ensureProportionAtLeast .council 3 4)

end NominationPools

namespace MotionOrigins

/-- `CouncilMaxMembers` and `TechnicalMaxMembers`. -/
def maxMembers : Collective → Nat
  | .council => 100
  | .technicalCommittee => 100

/-- The shares that the runtime asks for, from the least one on. -/
inductive Share
  | half
  | majority
  | twoThirds
  | threeQuarters
  | whole
  deriving DecidableEq

namespace Share

def threshold : Share → Quorum.Threshold
  | .half => { num := 1, den := 2, strict := false }
  | .majority => { num := 1, den := 2, strict := true }
  | .twoThirds => { num := 2, den := 3, strict := false }
  | .threeQuarters => { num := 3, den := 4, strict := false }
  | .whole => { num := 1, den := 1, strict := false }

def rank : Share → Nat
  | .half => 0
  | .majority => 1
  | .twoThirds => 2
  | .threeQuarters => 3
  | .whole => 4

theorem implies_iff (s s' : Share) : s.threshold.Implies s'.threshold ↔ s'.rank ≤ s.rank := by
  cases s <;> cases s' <;> decide

theorem compatible_iff (s s' : Share) :
    s.threshold.Compatible s'.threshold ↔ s = .half ∧ s' = .half := by
  cases s <;> cases s' <;> decide

theorem den_le (s : Share) : s.threshold.den ≤ 4 := by
  cases s <;> decide

theorem whole_passes (s : Share) : s.threshold.Passes 2 2 := by
  cases s <;> decide

end Share

/-- The origins of the runtime that a motion can satisfy. -/
inductive Guard
  | treasuryReject
  | electionForce
  | stakingAdmin
  | fastUnstakeControl
  | external
  | externalMajority
  | externalDefault
  | fastTrack
  | instant
  | cancellation
  | cancelProposal
  | membership
  | poolsAdmin
  deriving DecidableEq

namespace Guard

def ensure : Guard → GovernanceOrigin Account → Bool
  | .treasuryReject => Treasury.rejectOrigin
  | .electionForce => ElectionProviderMultiPhase.forceOrigin
  | .stakingAdmin => Staking.adminOrigin
  | .fastUnstakeControl => FastUnstake.controlOrigin
  | .external => Democracy.externalOrigin
  | .externalMajority => Democracy.externalMajorityOrigin
  | .externalDefault => Democracy.externalDefaultOrigin
  | .fastTrack => Democracy.fastTrackOrigin
  | .instant => Democracy.instantOrigin
  | .cancellation => Democracy.cancellationOrigin
  | .cancelProposal => Democracy.cancelProposalOrigin
  | .membership => ensureRootOrHalfCouncil
  | .poolsAdmin => NominationPools.adminOrigin

def body : Guard → Collective
  | .fastUnstakeControl | .fastTrack | .instant | .cancelProposal => .technicalCommittee
  | _ => .council

def share : Guard → Share
  | .external => .half
  | .treasuryReject | .electionForce | .membership => .majority
  | .fastTrack | .cancellation => .twoThirds
  | .stakingAdmin | .externalMajority | .poolsAdmin => .threeQuarters
  | .fastUnstakeControl | .externalDefault | .instant | .cancelProposal => .whole

def allowsRoot : Guard → Bool
  | .external | .externalMajority | .externalDefault | .fastTrack | .instant
  | .cancellation => false
  | _ => true

theorem ensure_root (g : Guard) : g.ensure (.root : GovernanceOrigin Account) = g.allowsRoot := by
  cases g <;> rfl

theorem ensure_signed (g : Guard) (who : Account) : g.ensure (.signed who) = false := by
  cases g <;> rfl

theorem atLeast_members (b c : Collective) (num den yes seats : Nat) :
    ensureProportionAtLeast b num den (.members c yes seats : GovernanceOrigin Account) = true ↔
      c = b ∧ Quorum.AtLeast num den yes seats := by
  rw [ensureProportionAtLeast, Bool.and_eq_true, decide_eq_true_iff, decide_eq_true_iff]

theorem moreThan_members (b c : Collective) (num den yes seats : Nat) :
    ensureProportionMoreThan b num den (.members c yes seats : GovernanceOrigin Account) = true ↔
      c = b ∧ Quorum.MoreThan num den yes seats := by
  rw [ensureProportionMoreThan, Bool.and_eq_true, decide_eq_true_iff, decide_eq_true_iff]

theorem rootOr_members (right : GovernanceOrigin Account → Bool) (c : Collective)
    (yes seats : Nat) :
    eitherOfDiverse ensureRoot right (.members c yes seats) = right (.members c yes seats) :=
  Bool.false_or _

theorem ensure_members (g : Guard) (c : Collective) (yes seats : Nat) :
    g.ensure (.members c yes seats : GovernanceOrigin Account) = true ↔
      c = g.body ∧ g.share.threshold.Passes yes seats := by
  cases g with
  | external | externalMajority | externalDefault | fastTrack | instant | cancellation =>
      exact @atLeast_members Account ..
  | stakingAdmin | fastUnstakeControl | cancelProposal | poolsAdmin =>
      exact (Bool.eq_iff_iff.mp (rootOr_members ..)).trans (@atLeast_members Account ..)
  | treasuryReject | electionForce | membership =>
      exact (Bool.eq_iff_iff.mp (rootOr_members ..)).trans (@moreThan_members Account ..)

theorem external_of_half {g : Guard} (h : g.share = .half) : g = .external := by
  cases g with
  | external => rfl
  | _ => cases h

end Guard

/-- What a call can come with; a motion has been proposed by a member. -/
def WellFormed : GovernanceOrigin Account → Prop
  | .members c yes seats => 0 < seats ∧ seats ≤ maxMembers c ∧ yes ≤ seats
  | .root | .signed _ => True

theorem le_maxMembers {n : Nat} (c : Collective) (h : n ≤ 100) : n ≤ maxMembers c := by
  cases c <;> exact h

/-- One origin takes all that another takes exactly when it asks the same body for no larger
share and is not the only one of the two that is closed to root. -/
theorem entails_iff (g g' : Guard) :
    (∀ origin : GovernanceOrigin AccountId, WellFormed origin →
      g.ensure origin = true → g'.ensure origin = true) ↔
      g.body = g'.body ∧ g'.share.rank ≤ g.share.rank ∧
        (g.allowsRoot = true → g'.allowsRoot = true) := by
  constructor
  · intro entails
    have whole := entails (.members g.body 2 2) ⟨by decide, le_maxMembers _ (by decide), le_rfl⟩
      ((g.ensure_members g.body 2 2).mpr ⟨rfl, g.share.whole_passes⟩)
    refine ⟨((g'.ensure_members g.body 2 2).mp whole).1, ?_, ?_⟩
    · rw [← Share.implies_iff]
      by_contra smaller
      obtain ⟨yes, seats, occupied, few, le, passed, fails⟩ :=
        Quorum.Threshold.exists_of_not_implies smaller
      have small : seats ≤ 100 := by
        have den := g.share.den_le
        have den' := g'.share.den_le
        omega
      have both := entails (.members g.body yes seats) ⟨occupied, le_maxMembers _ small, le⟩
        ((g.ensure_members g.body yes seats).mpr ⟨rfl, passed⟩)
      exact fails ((g'.ensure_members g.body yes seats).mp both).2
    · intro root
      have allowed := entails .root trivial (g.ensure_root.trans root)
      exact g'.ensure_root.symm.trans allowed
  · intro h origin formed taken
    obtain ⟨body, rank, root⟩ := h
    cases origin with
    | root =>
        rw [Guard.ensure_root] at taken ⊢
        exact root taken
    | signed who =>
        rw [Guard.ensure_signed] at taken
        cases taken
    | members c yes seats =>
        rw [Guard.ensure_members] at taken ⊢
        exact ⟨taken.1.trans body,
          ((Share.implies_iff _ _).mpr rank).passes formed.1 taken.2⟩

/-- Two motions of one collective, each with those who approved it. -/
structure Carried (g g' : Guard) (c : Collective) (members ayes ayes' : Finset AccountId) :
    Prop where
  occupied : members.Nonempty
  seats : members.card ≤ maxMembers c
  subset : ayes ⊆ members
  subset' : ayes' ⊆ members
  taken : g.ensure (.members c ayes.card members.card : GovernanceOrigin AccountId) = true
  taken' : g'.ensure (.members c ayes'.card members.card : GovernanceOrigin AccountId) = true

theorem Carried.passes {g g' : Guard} {c : Collective} {members ayes ayes' : Finset AccountId}
    (h : Carried g g' c members ayes ayes') :
    g.share.threshold.Passes ayes.card members.card ∧
      g'.share.threshold.Passes ayes'.card members.card :=
  ⟨((g.ensure_members ..).mp h.taken).2, ((g'.ensure_members ..).mp h.taken').2⟩

/-- The two halves of a council of two. -/
theorem external_carried :
    Carried .external .external .council {.ofNat 32 1, .ofNat 32 2} {.ofNat 32 1}
      {.ofNat 32 2} := by
  refine ⟨by decide, by decide, by decide, by decide, ?_, ?_⟩
  · exact (Guard.ensure_members ..).mpr ⟨rfl, by decide⟩
  · exact (Guard.ensure_members ..).mpr ⟨rfl, by decide⟩

end MotionOrigins
end Solochain
