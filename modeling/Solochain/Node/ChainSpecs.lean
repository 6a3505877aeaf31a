import Solochain.Node.GenesisGovernance

/-!
The chain specifications that the node has built in.

Their accounts are derived from the well-known seeds by code of another crate. Every
other id is taken for the path of a file.
-/
namespace Solochain
namespace ChainSpecs

inductive Seed
  | alice
  | bob
  | charlie
  | dave
  | eve
  | ferdie
  deriving DecidableEq

/-- `stash` is the account of the seed with the junction `//stash`. -/
structure SeedKeys where
  account : Seed → AccountId
  stash : Seed → AccountId
  grandpa : Seed → PublicKey

structure ChainSpec where
  id : String
  sudoKey : AccountId
  endowedAccounts : List AccountId
  initialAuthorities : List Authority
  initialNominators : List AccountId
  chainId : Nat
  deriving DecidableEq

def ChainSpec.genesis (spec : ChainSpec) (rng : ThreadRng) : Except Panic GenesisConfig :=
  testnetGenesis rng spec.sudoKey spec.endowedAccounts spec.initialAuthorities
    spec.initialNominators spec.chainId

def ss58Prefix : Nat := 42

section Configs
variable (keys : SeedKeys)

def authorityKeysFromSeed (seed : Seed) : Authority where
  stash := keys.stash seed
  controller := keys.account seed
  babe := keys.account seed
  grandpa := keys.grandpa seed
  imOnline := keys.account seed

def developmentConfig : ChainSpec where
  id := "dev"
  sudoKey := keys.account .alice
  endowedAccounts :=
    [keys.account .alice, keys.account .bob, keys.stash .alice, keys.stash .bob]
  initialAuthorities := [authorityKeysFromSeed keys .alice]
  initialNominators := []
  chainId := ss58Prefix

/-- The accounts that both test networks endow. -/
def testAccounts : List AccountId :=
  [keys.account .alice, keys.account .bob, keys.account .charlie, keys.account .dave,
    keys.account .eve, keys.account .ferdie, keys.stash .alice, keys.stash .bob,
    keys.stash .charlie, keys.stash .dave, keys.stash .eve, keys.stash .ferdie]

def localTestnetConfig : ChainSpec where
  id := "local"
  sudoKey := keys.account .alice
  endowedAccounts := testAccounts keys
  initialAuthorities := [authorityKeysFromSeed keys .alice, authorityKeysFromSeed keys .bob]
  initialNominators := []
  chainId := ss58Prefix

def testnetConfig : ChainSpec where
  id := "testnet"
  sudoKey := keys.account .alice
  endowedAccounts := testAccounts keys
  initialAuthorities :=
    [authorityKeysFromSeed keys .alice, authorityKeysFromSeed keys .bob,
      authorityKeysFromSeed keys .charlie]
  initialNominators := []
  chainId := ss58Prefix

/-- `load_spec`: a specification, or the path of a file that holds one. -/
def loadSpec (id : String) : ChainSpec ⊕ String :=
  if id = "dev" then .inl (developmentConfig keys)
  else if id = "" ∨ id = "local" then .inl (localTestnetConfig keys)
  else if id = "testnet" then .inl (testnetConfig keys)
  else .inr id

end Configs

/-- The id of a built-in specification loads it again, so no two of them share one. -/
theorem loadSpec_id {keys : SeedKeys} {id : String} {spec : ChainSpec}
    (loaded : loadSpec keys id = .inl spec) : loadSpec keys spec.id = .inl spec := by
  rw [loadSpec] at loaded
  split at loaded
  · cases loaded
    rfl
  · split at loaded
    · cases loaded
      rfl
    · split at loaded
      · cases loaded
        rfl
      · cases loaded

/-- What the built-in specifications have in common. -/
structure WellFormed (spec : ChainSpec) : Prop where
  stashes : (spec.initialAuthorities.map Authority.stash).Sublist spec.endowedAccounts
  authorities : spec.initialAuthorities ≠ []
  nominators : spec.initialNominators = []
  few : spec.endowedAccounts.length ≤ 26
  sudoEndowed : spec.sudoKey ∈ spec.endowedAccounts

theorem wellFormed_development (keys : SeedKeys) : WellFormed (developmentConfig keys) where
  stashes := .cons _ (.cons _ (.cons_cons _ (.cons _ .slnil)))
  authorities := List.cons_ne_nil _ _
  nominators := rfl
  few := Nat.le_of_ble_eq_true rfl
  sudoEndowed := List.mem_cons_self

theorem stashes_sublist (keys : SeedKeys) :
    [keys.stash .alice, keys.stash .bob, keys.stash .charlie].Sublist (testAccounts keys) := by
  have last : [keys.stash .alice, keys.stash .bob, keys.stash .charlie] <+:
      [keys.stash .alice, keys.stash .bob, keys.stash .charlie, keys.stash .dave,
        keys.stash .eve, keys.stash .ferdie] := List.prefix_append _ _
  exact last.sublist.trans (List.sublist_append_right
    [keys.account .alice, keys.account .bob, keys.account .charlie, keys.account .dave,
      keys.account .eve, keys.account .ferdie] _)

theorem wellFormed_localTestnet (keys : SeedKeys) : WellFormed (localTestnetConfig keys) where
  stashes := (List.take_sublist 2 _).trans (stashes_sublist keys)
  authorities := List.cons_ne_nil _ _
  nominators := rfl
  few := Nat.le_of_ble_eq_true rfl
  sudoEndowed := List.mem_cons_self

theorem wellFormed_testnet (keys : SeedKeys) : WellFormed (testnetConfig keys) where
  stashes := stashes_sublist keys
  authorities := List.cons_ne_nil _ _
  nominators := rfl
  few := Nat.le_of_ble_eq_true rfl
  sudoEndowed := List.mem_cons_self

theorem wellFormed_of_loaded {keys : SeedKeys} {id : String} {spec : ChainSpec}
    (loaded : loadSpec keys id = .inl spec) : WellFormed spec := by
  rw [loadSpec] at loaded
  split at loaded
  · cases loaded
    exact wellFormed_development keys
  · split at loaded
    · cases loaded
      exact wellFormed_localTestnet keys
    · split at loaded
      · cases loaded
        exact wellFormed_testnet keys
      · cases loaded

/-- What the pallets ask of a genesis, and the validators that it starts with. -/
structure Accepted (spec : ChainSpec) (g : GenesisConfig) : Prop where
  governance : GovernanceAccepted g
  staking : StakingAccepted spec.initialAuthorities spec.initialNominators g.staking.stakers
  funded : ∀ s ∈ g.staking.stakers, Funded g s.stash s.bond
  bonds : ∀ s ∈ g.staking.stakers, g.staking.minValidatorBond ≤ s.bond
  validators : g.staking.stakers = spec.initialAuthorities.map validator
  nonempty : g.staking.stakers ≠ []
  nodup : (g.staking.stakers.map Staker.stash).Nodup
  counted : g.staking.validatorCount = g.staking.stakers.length
  keyed : g.sessionKeys.map (fun entry => entry.2.1) = g.staking.stakers.map Staker.stash
  sudoFunded : ∃ key, g.sudoKey = some key ∧ Funded g key endowment

theorem foldl_endow_of_subset {endowed xs : List AccountId} (known : ∀ x ∈ xs, x ∈ endowed) :
    xs.foldl endow endowed = endowed := by
  induction xs with
  | nil => rfl
  | cons x xs ih =>
      rw [List.forall_mem_cons] at known
      rw [List.foldl_cons, endow, if_pos known.1]
      exact ih known.2

section Genesis
variable {rng : ThreadRng} {spec : ChainSpec} {g : GenesisConfig}

theorem endowAll_eq (wellFormed : WellFormed spec) :
    endowAll spec.endowedAccounts spec.initialAuthorities spec.initialNominators =
      spec.endowedAccounts := by
  rw [endowAll, wellFormed.nominators, List.append_nil]
  exact foldl_endow_of_subset fun _ listed => wellFormed.stashes.subset listed

theorem governance_accepted (wellFormed : WellFormed spec) (nodup : spec.endowedAccounts.Nodup)
    (built : BuiltFrom rng spec.endowedAccounts spec.initialAuthorities spec.initialNominators g) :
    GovernanceAccepted g := by
  have few := wellFormed.few
  have distinct := technicalCommittee_nodup built nodup
  have seats := length_technicalCommittee built
  have elected := length_elections built
  rw [endowAll_eq wellFormed] at seats elected
  refine ⟨?_, ?_, ?_, distinct, ?_⟩
  · rwa [elections_accounts built]
  · rw [elected, desiredMembers]
    omega
  · intro member seated
    rw [← elections_stake built seated]
    exact elections_funded built seated
  · rw [seats, technicalMaxMembers]
    omega

theorem minValidatorBond_le_stashAmount : 75_000 * Currency.dollars ≤ stashAmount := by decide

/-- Without nominators nothing is drawn. -/
theorem genesis_sections (rng : ThreadRng) (nominators : spec.initialNominators = []) :
    ∃ g, spec.genesis rng = .ok g ∧
      g.staking.stakers = spec.initialAuthorities.map validator ∧
      g.staking.validatorCount = spec.initialAuthorities.length % 2 ^ 32 ∧
      g.staking.minValidatorBond = 75_000 * Currency.dollars ∧
      g.sessionKeys = (spec.initialAuthorities.map fun x =>
        (x.controller, x.stash, ⟨x.babe, x.grandpa, x.imOnline⟩)) ∧
      g.sudoKey = some spec.sudoKey := by
  have stakers : stakersOf rng spec.initialAuthorities [] =
      .ok (spec.initialAuthorities.map validator) := by
    rw [stakersOf_eq_ok (Or.inr rfl), List.zipIdx_nil, List.map_nil, List.append_nil]
  rw [ChainSpec.genesis, testnetGenesis, nominators, stakers]
  exact ⟨_, rfl, rfl, rfl, rfl, rfl, rfl⟩

/-- The genesis of a well-formed specification is built, whatever is drawn, and accepted. -/
theorem genesis_accepted (rng : ThreadRng) (wellFormed : WellFormed spec)
    (nodup : spec.endowedAccounts.Nodup) : ∃ g, spec.genesis rng = .ok g ∧ Accepted spec g := by
  obtain ⟨g, ok, stakers, count, minBond, session, key⟩ :=
    genesis_sections rng wellFormed.nominators
  have built := testnetGenesis_eq_ok ok
  have stashes : g.staking.stakers.map Staker.stash =
      spec.initialAuthorities.map Authority.stash := by
    rw [stakers, List.map_map]
    rfl
  have number : spec.initialAuthorities.length < 2 ^ 32 := by
    have shorter := wellFormed.stashes.length_le
    rw [List.length_map] at shorter
    exact (shorter.trans wellFormed.few).trans_lt (by decide)
  refine ⟨g, ok, governance_accepted wellFormed nodup built, ?_, fun _ => staker_funded built, ?_,
    stakers, ?_, ?_, ?_, ?_, spec.sudoKey, key, ?_⟩
  · have none := stakingAccepted_nil rng spec.initialAuthorities
    rw [List.zipIdx_nil, List.map_nil, List.append_nil] at none
    rwa [wellFormed.nominators, stakers]
  · intro s listed
    rw [stakers] at listed
    obtain ⟨a, _, rfl⟩ := List.mem_map.mp listed
    rw [minBond]
    exact minValidatorBond_le_stashAmount
  · rw [stakers]
    exact fun none => wellFormed.authorities (List.map_eq_nil_iff.mp none)
  · rw [stashes]
    exact nodup.sublist wellFormed.stashes
  · rw [count, stakers, List.length_map, Nat.mod_eq_of_lt number]
  · rw [stashes, session, List.map_map]
    rfl
  · refine ⟨(spec.sudoKey, endowment), ?_, rfl, Nat.le_refl _⟩
    rw [built.balances, endowAll_eq wellFormed]
    exact List.mem_map_of_mem wellFormed.sudoEndowed

end Genesis

/-- Whichever built-in specification a node is started with, its genesis is built and accepted,
and no other one has its id, which names the directory of the chain. -/
theorem loadSpec_accepted (keys : SeedKeys) (rng : ThreadRng) (id : String) (spec : ChainSpec)
    (loaded : loadSpec keys id = .inl spec) (nodup : spec.endowedAccounts.Nodup) :
    (∃ g, spec.genesis rng = .ok g ∧ Accepted spec g) ∧
      ∀ id' spec', loadSpec keys id' = .inl spec' → (spec'.id = spec.id ↔ spec' = spec) := by
  refine ⟨genesis_accepted rng (wellFormed_of_loaded loaded) nodup, ?_⟩
  intro id' spec' loaded'
  constructor
  · intro same
    have again := loadSpec_id loaded'
    rw [same, loadSpec_id loaded] at again
    exact (Sum.inl.inj again).symm
  · exact congrArg ChainSpec.id

def devAccount : Seed → AccountId
  | .bob => bob
  | _ => alice

def devStash : Seed → AccountId
  | .bob => bobStash
  | _ => aliceStash

/-- The keys of the two seeds that the development chain uses. -/
def devKeys : SeedKeys where
  account := devAccount
  stash := devStash
  grandpa _ := aliceAuthority.grandpa

theorem loadSpec_accepted_sample :
    ∃ g, developmentGenesis firstRng = .ok g ∧ Accepted (developmentConfig devKeys) g :=
  (loadSpec_accepted devKeys firstRng "dev" _ rfl (by decide)).1

end ChainSpecs
end Solochain
