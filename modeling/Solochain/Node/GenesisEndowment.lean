import Solochain.Node.GenesisStakers

/-!
The balances section of the genesis, and what the bonds of the other sections
take from it.
-/
namespace Solochain

theorem prefix_endow (endowed : List AccountId) (x : AccountId) :
    endowed <+: endow endowed x := by
  rw [endow]
  split
  · exact List.prefix_refl _
  · exact List.prefix_append _ _

theorem prefix_foldl_endow (endowed xs : List AccountId) :
    endowed <+: xs.foldl endow endowed := by
  induction xs generalizing endowed with
  | nil => exact List.prefix_refl _
  | cons x xs ih => exact (prefix_endow endowed x).trans (ih (endow endowed x))

theorem stashAmount_le_endowment : stashAmount ≤ endowment := Nat.div_le_self _ _

section Sections
variable {rng : ThreadRng} {endowed : List AccountId} {authorities : List Authority}
  {nominators : List AccountId} {g : GenesisConfig}

/-- A bond of the account can be taken from what the balances section gives it. -/
def Funded (g : GenesisConfig) (account : AccountId) (bond : Balance) : Prop :=
  ∃ entry ∈ g.balances, entry.1 = account ∧ bond ≤ entry.2

theorem funded_of_mem (built : BuiltFrom rng endowed authorities nominators g)
    {account : AccountId} (h : account ∈ endowAll endowed authorities nominators) :
    Funded g account stashAmount := by
  refine ⟨(account, endowment), ?_, rfl, stashAmount_le_endowment⟩
  rw [built.balances]
  exact List.mem_map_of_mem h

theorem staker_funded (built : BuiltFrom rng endowed authorities nominators g)
    {s : Staker} (h : s ∈ g.staking.stakers) : Funded g s.stash s.bond := by
  rw [(stakersOf_eq_ok_iff.mp built.stakers).2] at h
  rcases List.mem_append.mp h with validating | nominating
  · obtain ⟨a, listed, rfl⟩ := List.mem_map.mp validating
    apply funded_of_mem built
    rw [mem_endowAll]
    exact Or.inr (Or.inl (List.mem_map_of_mem listed))
  · obtain ⟨⟨x, draw⟩, listed, rfl⟩ := List.mem_map.mp nominating
    apply funded_of_mem built
    rw [mem_endowAll]
    exact Or.inr (Or.inr (List.fst_mem_of_mem_zipIdx listed))

theorem elections_funded (built : BuiltFrom rng endowed authorities nominators g)
    {member : AccountId × Balance} (h : member ∈ g.electionsMembers) :
    Funded g member.1 member.2 := by
  rw [built.elections] at h
  obtain ⟨account, seated, rfl⟩ := List.mem_map.mp h
  exact funded_of_mem built (List.mem_of_mem_take seated)

end Sections

/-- The push loop keeps the endowed accounts in front and adds each missing one once. -/
theorem testnetGenesis_balances (rng : ThreadRng) (sudoKey : AccountId)
    (endowed : List AccountId) (authorities : List Authority) (nominators : List AccountId)
    (chainId : Nat) (g : GenesisConfig)
    (built : testnetGenesis rng sudoKey endowed authorities nominators chainId = .ok g)
    (nodup : endowed.Nodup) :
    (g.balances.map Prod.fst).Nodup ∧
      endowed <+: g.balances.map Prod.fst ∧
      (∀ a, a ∈ g.balances.map Prod.fst ↔
        a ∈ endowed ∨ a ∈ authorities.map Authority.stash ∨ a ∈ nominators) ∧
      (∀ entry ∈ g.balances, entry.2 = endowment) ∧
      (∀ s ∈ g.staking.stakers, Funded g s.stash s.bond) ∧
      ∀ member ∈ g.electionsMembers, Funded g member.1 member.2 := by
  have sections := testnetGenesis_eq_ok built
  rw [accounts_of_built sections]
  refine ⟨endowAll_nodup nodup authorities nominators, prefix_foldl_endow endowed _,
    mem_endowAll authorities nominators, ?_, fun _ => staker_funded sections,
    fun _ => elections_funded sections⟩
  intro entry listed
  rw [sections.balances] at listed
  obtain ⟨account, _, rfl⟩ := List.mem_map.mp listed
  rfl

theorem developmentGenesis_balances :
    ∃ g, developmentGenesis firstRng = .ok g ∧ (g.balances.map Prod.fst).Nodup ∧
      ∀ s ∈ g.staking.stakers, Funded g s.stash s.bond := by
  refine ⟨_, rfl, ?_⟩
  have balances := testnetGenesis_balances firstRng alice [alice, bob, aliceStash, bobStash]
    [aliceAuthority] [] 42 _ rfl (by decide)
  exact ⟨balances.1, balances.2.2.2.2.1⟩

end Solochain
