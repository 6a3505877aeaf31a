import Mathlib.Data.Finset.Card
import Solochain.Node.CommitteeGenesis
import Solochain.Node.GenesisEndowment

/-!
The governance sections of the genesis against the bounds of the runtime.

The first half of the endowed accounts is seated, however many they are. The
elections pallet panics at genesis on more than `DesiredMembers`.
-/
namespace Solochain

def desiredMembers : Nat := 13

/-- What the genesis of elections-phragmen and of the collective asks. -/
structure GovernanceAccepted (g : GenesisConfig) : Prop where
  electionsNodup : (g.electionsMembers.map Prod.fst).Nodup
  electionsLength : g.electionsMembers.length ≤ desiredMembers
  electionsFunded : ∀ member ∈ g.electionsMembers, Funded g member.1 stashAmount
  committeeNodup : g.technicalCommitteeMembers.Nodup
  committeeLength : g.technicalCommitteeMembers.length ≤ technicalMaxMembers

theorem length_endowAll {endowed : List AccountId} (nodup : endowed.Nodup)
    (authorities : List Authority) (nominators : List AccountId) :
    (endowAll endowed authorities nominators).length =
      (endowed ++ authorities.map Authority.stash ++ nominators).toFinset.card := by
  rw [← List.toFinset_card_of_nodup (endowAll_nodup nodup authorities nominators)]
  congr 1
  ext a
  rw [List.mem_toFinset, List.mem_toFinset, mem_endowAll, List.mem_append, List.mem_append,
    or_assoc]

section Sections
variable {rng : ThreadRng} {endowed : List AccountId} {authorities : List Authority}
  {nominators : List AccountId} {g : GenesisConfig}

theorem elections_accounts (built : BuiltFrom rng endowed authorities nominators g) :
    g.electionsMembers.map Prod.fst = g.technicalCommitteeMembers := by
  rw [built.elections, built.technicalCommittee, List.map_map]
  exact List.map_id _

theorem technicalCommittee_nodup (built : BuiltFrom rng endowed authorities nominators g)
    (nodup : endowed.Nodup) : g.technicalCommitteeMembers.Nodup := by
  rw [built.technicalCommittee]
  exact (endowAll_nodup nodup authorities nominators).sublist (List.take_sublist _ _)

theorem elections_stake (built : BuiltFrom rng endowed authorities nominators g)
    {member : AccountId × Balance} (h : member ∈ g.electionsMembers) : member.2 = stashAmount := by
  rw [built.elections] at h
  obtain ⟨account, _, rfl⟩ := List.mem_map.mp h
  rfl

theorem length_technicalCommittee (built : BuiltFrom rng endowed authorities nominators g) :
    g.technicalCommitteeMembers.length =
      ((endowAll endowed authorities nominators).length + 1) / 2 := by
  rw [built.technicalCommittee, List.length_take]
  omega

theorem length_elections (built : BuiltFrom rng endowed authorities nominators g) :
    g.electionsMembers.length = ((endowAll endowed authorities nominators).length + 1) / 2 := by
  rw [← length_technicalCommittee built, ← elections_accounts built, List.length_map]

end Sections

theorem testnetGenesis_governance_iff (rng : ThreadRng) (sudoKey : AccountId)
    (endowed : List AccountId) (authorities : List Authority) (nominators : List AccountId)
    (chainId : Nat) (g : GenesisConfig)
    (built : testnetGenesis rng sudoKey endowed authorities nominators chainId = .ok g)
    (nodup : endowed.Nodup) :
    GovernanceAccepted g ↔
      (endowed ++ authorities.map Authority.stash ++ nominators).toFinset.card ≤ 26 := by
  have sections := testnetGenesis_eq_ok built
  rw [← length_endowAll nodup authorities nominators]
  constructor
  · intro accepted
    have seated := accepted.electionsLength
    rw [length_elections sections, desiredMembers] at seated
    omega
  · intro few
    have distinct := technicalCommittee_nodup sections nodup
    refine ⟨?_, ?_, ?_, distinct, ?_⟩
    · rwa [elections_accounts sections]
    · rw [length_elections sections, desiredMembers]
      omega
    · intro member seated
      rw [← elections_stake sections seated]
      exact elections_funded sections seated
    · rw [length_technicalCommittee sections, technicalMaxMembers]
      omega

theorem twenty_seven_endowed_rejected :
    ((List.range 27).map (FixedBytes.ofNatLE 32)).Nodup ∧
      ∃ g, testnetGenesis firstRng alice ((List.range 27).map (FixedBytes.ofNatLE 32)) [] [] 42 =
          .ok g ∧ ¬ GovernanceAccepted g := by
  refine ⟨by decide, _, rfl, fun accepted => ?_⟩
  exact absurd accepted.electionsLength (by decide)

theorem developmentGenesis_governance_accepted :
    ∃ g, developmentGenesis firstRng = .ok g ∧ GovernanceAccepted g :=
  ⟨_, rfl, (testnetGenesis_governance_iff firstRng alice [alice, bob, aliceStash, bobStash]
    [aliceAuthority] [] 42 _ rfl (by decide)).mpr (by decide)⟩

end Solochain
