import Solochain.Library.Ledger
import Solochain.Runtime.AddressMapping
import Solochain.Node.Genesis

/-!
The issuance that the genesis of the node records.

The balances section sets the issuance to what it lists. The EVM section then
deposits each of its accounts into the account the address maps to, and adds to
the issuance with saturation.
-/
namespace Solochain

/-- The `U256` balance is cut off at `u128` before it is deposited. -/
def evmDeposit (H : Hashing) (account : H160 × GenesisAccount) : AccountId × Balance :=
  (H.intoAccountId account.1, min account.2.balance u128Max)

def buildBalances (H : Hashing) (g : GenesisConfig) : Ledger AccountId :=
  (Ledger.ofList g.balances).deposits u128Max (g.evmAccounts.map (evmDeposit H))

def IssuanceConserved (L : Ledger AccountId) : Prop := L.issuance = L.total

/-- The accounts behind the EVM section are distinct, and none is endowed. -/
structure MappedApart (H : Hashing) (g : GenesisConfig) : Prop where
  distinct : (g.evmAccounts.map fun account => H.intoAccountId account.1).Nodup
  fresh : ∀ account ∈ g.evmAccounts, H.intoAccountId account.1 ∉ g.balances.map Prod.fst

variable {H : Hashing} {g : GenesisConfig}

theorem accounts_evmDeposit (H : Hashing) (accounts : List (H160 × GenesisAccount)) :
    (accounts.map (evmDeposit H)).map Prod.fst =
      accounts.map fun account => H.intoAccountId account.1 := by
  rw [List.map_map]
  rfl

theorem amounts_evmDeposit (H : Hashing) (accounts : List (H160 × GenesisAccount)) :
    (accounts.map (evmDeposit H)).map Prod.snd =
      accounts.map fun account => min account.2.balance u128Max := by
  rw [List.map_map]
  rfl

theorem evmAccounts_exceed_u128 :
    u128Max < (evmAccounts.map fun account => min account.2.balance u128Max).sum := by
  decide

theorem entries_buildBalances (apart : MappedApart H g) :
    (buildBalances H g).entries = g.balances ++ g.evmAccounts.map (evmDeposit H) := by
  apply Ledger.entries_deposits_of_fresh
  · rw [accounts_evmDeposit]
    exact apart.distinct
  · intro d hd
    obtain ⟨account, listed, rfl⟩ := List.mem_map.mp hd
    exact apart.fresh account listed

theorem accounts_buildBalances_nodup (apart : MappedApart H g)
    (listed : (g.balances.map Prod.fst).Nodup) : (buildBalances H g).accounts.Nodup := by
  rw [Ledger.accounts, entries_buildBalances apart, List.map_append, accounts_evmDeposit,
    List.nodup_append]
  refine ⟨listed, apart.distinct, ?_⟩
  intro a endowed b mapped same
  obtain ⟨account, present, rfl⟩ := List.mem_map.mp mapped
  exact apart.fresh account present (same ▸ endowed)

theorem issuance_buildBalances (accounts : g.evmAccounts ≠ []) :
    (buildBalances H g).issuance = min (buildBalances H g).total u128Max :=
  Ledger.issuance_deposits (Ledger.ofList_issuance g.balances)
    (fun none => accounts (List.map_eq_nil_iff.mp none))

theorem total_buildBalances (H : Hashing) (g : GenesisConfig) :
    (buildBalances H g).total = (g.balances.map Prod.snd).sum +
      (g.evmAccounts.map fun account => min account.2.balance u128Max).sum := by
  rw [buildBalances, Ledger.total_deposits, amounts_evmDeposit]
  rfl

theorem issuanceConserved_iff (accounts : g.evmAccounts ≠ []) :
    IssuanceConserved (buildBalances H g) ↔ (buildBalances H g).total ≤ u128Max :=
  Ledger.issuance_eq_total_iff (Ledger.ofList_issuance g.balances)
    (fun none => accounts (List.map_eq_nil_iff.mp none))

/-- For every list of accounts the genesis records the largest `u128` as issuance,
less than the accounts hold together. -/
theorem testnetGenesis_issuance_saturates (H : Hashing) (rng : ThreadRng) (sudoKey : AccountId)
    (endowed : List AccountId) (authorities : List Authority) (nominators : List AccountId)
    (chainId : Nat) (g : GenesisConfig)
    (built : testnetGenesis rng sudoKey endowed authorities nominators chainId = .ok g)
    (nodup : endowed.Nodup) (apart : MappedApart H g) :
    (buildBalances H g).entries = g.balances ++ g.evmAccounts.map (evmDeposit H) ∧
      (buildBalances H g).accounts.Nodup ∧
      (buildBalances H g).issuance = u128Max ∧
      ¬ IssuanceConserved (buildBalances H g) := by
  have sections := testnetGenesis_eq_ok built
  have accounts := sections.evm
  have listed : (g.balances.map Prod.fst).Nodup := by
    rw [accounts_of_built sections]
    exact endowAll_nodup nodup authorities nominators
  have exceeds : u128Max < (buildBalances H g).total := by
    rw [total_buildBalances, accounts]
    exact evmAccounts_exceed_u128.trans_le (Nat.le_add_left _ _)
  have some : g.evmAccounts ≠ [] := accounts ▸ by decide
  refine ⟨entries_buildBalances apart, accounts_buildBalances_nodup apart listed, ?_, ?_⟩
  · rw [issuance_buildBalances some]
    exact min_eq_right exceeds.le
  · rw [issuanceConserved_iff some]
    exact Nat.not_le.mpr exceeds

theorem developmentGenesis_issuance_not_conserved :
    ∃ g, developmentGenesis firstRng = .ok g ∧ MappedApart knownHashing g ∧
      ¬ IssuanceConserved (buildBalances knownHashing g) := by
  refine ⟨_, rfl, ⟨by decide, by decide⟩, ?_⟩
  rw [IssuanceConserved]
  decide

theorem developmentGenesis_issuance_saturates :
    ∃ g, developmentGenesis firstRng = .ok g ∧
      (buildBalances knownHashing g).issuance = u128Max ∧
      ¬ IssuanceConserved (buildBalances knownHashing g) := by
  refine ⟨_, rfl, ?_⟩
  exact (testnetGenesis_issuance_saturates knownHashing firstRng alice
    [alice, bob, aliceStash, bobStash] [aliceAuthority] [] 42 _ rfl (by decide)
    ⟨by decide, by decide⟩).2.2

end Solochain
