import Mathlib.Data.List.Nodup
import Solochain.Library.Saturating
import Solochain.Runtime.Types

/-!
The genesis configuration that the node writes for its development and test
networks.

The random draws enter as a parameter. Sections that the JSON document leaves out
are `none`, so that the runtime falls back to the default of the pallet.
-/
namespace Solochain

structure Authority where
  stash : AccountId
  controller : AccountId
  babe : PublicKey
  grandpa : PublicKey
  imOnline : PublicKey
  deriving DecidableEq

structure SessionKeys where
  babe : PublicKey
  grandpa : PublicKey
  imOnline : PublicKey
  deriving DecidableEq

inductive StakerStatus
  | validator
  | nominator (targets : List AccountId)
  deriving DecidableEq

structure Staker where
  stash : AccountId
  controller : AccountId
  bond : Balance
  status : StakerStatus
  deriving DecidableEq

/-- `fp_evm::GenesisAccount`; balance and nonce are `U256`. -/
structure GenesisAccount where
  balance : Nat
  code : Bytes
  nonce : Nat
  storage : List (H256 × H256)
  deriving DecidableEq

inductive AllowedSlots
  | primarySlots
  | primaryAndSecondaryPlainSlots
  | primaryAndSecondaryVRFSlots
  deriving DecidableEq

structure BabeEpochConfiguration where
  c : Nat × Nat
  allowedSlots : AllowedSlots
  deriving DecidableEq

def babeGenesisEpochConfig : BabeEpochConfiguration :=
  { c := (1, 4), allowedSlots := .primaryAndSecondaryPlainSlots }

structure StakingGenesis where
  validatorCount : Nat
  minimumValidatorCount : Nat
  invulnerables : List AccountId
  slashRewardFraction : Perbill
  stakers : List Staker
  minValidatorBond : Balance
  minNominatorBond : Balance

structure NominationPoolsGenesis where
  minCreateBond : Balance
  minJoinBond : Balance

structure GenesisConfig where
  sudoKey : Option AccountId
  balances : List (AccountId × Balance)
  epochConfig : Option BabeEpochConfiguration
  sessionKeys : List (AccountId × AccountId × SessionKeys)
  staking : StakingGenesis
  electionsMembers : List (AccountId × Balance)
  technicalCommitteeMembers : List AccountId
  technicalMembershipMembers : Option (List AccountId)
  evmChainId : Nat
  evmAccounts : List (H160 × GenesisAccount)
  nominationPools : NominationPoolsGenesis

/-- `rand::thread_rng()`, its draws numbered by the nominator they serve. -/
structure ThreadRng where
  gen : Nat → Nat
  chooseMultiple : Nat → List Authority → Nat → List Authority

def endowment : Balance := 100_000_000 * Currency.dollars

def stashAmount : Balance := endowment / 1000

def maxNominations : Nat := 16

/-- The push loop tests each account against the list it is extending. -/
def endow (endowed : List AccountId) (x : AccountId) : List AccountId :=
  if x ∈ endowed then endowed else endowed ++ [x]

def endowAll (endowed : List AccountId) (authorities : List Authority)
    (nominators : List AccountId) : List AccountId :=
  (authorities.map Authority.stash ++ nominators).foldl endow endowed

def nominate (rng : ThreadRng) (authorities : List Authority) (x : AccountId) (draw : Nat) :
    Except Panic Staker :=
  let limit := min maxNominations authorities.length
  if limit = 0 then .error .remainderByZero
  else
    let count := rng.gen draw % limit
    let nominations := (rng.chooseMultiple draw authorities count).map Authority.stash
    .ok { stash := x, controller := x, bond := stashAmount, status := .nominator nominations }

def stakersOf (rng : ThreadRng) (authorities : List Authority) (nominators : List AccountId) :
    Except Panic (List Staker) := do
  let validators := authorities.map fun a =>
    { stash := a.stash, controller := a.controller, bond := stashAmount, status := .validator }
  let nominating ← nominators.zipIdx.mapM fun (x, draw) => nominate rng authorities x draw
  .ok (validators ++ nominating)

/-- `BTreeMap::insert`, on the list of entries in the order of their keys. -/
def btreeInsert {V : Type} (key : H160) (value : V) : List (H160 × V) → List (H160 × V)
  | [] => [(key, value)]
  | (k, v) :: rest =>
      if key = k then (key, value) :: rest
      else if key.bytes < k.bytes then (key, value) :: (k, v) :: rest
      else (k, v) :: btreeInsert key value rest

/-- The dev account, the account of the CI test runner and the benchmark account. -/
def evmAccounts : List (H160 × GenesisAccount) :=
  btreeInsert (.ofNat 20 0x1000000000000000000000000000000000000001)
    { nonce := 1, balance := 1_000_000_000_000_000_000_000_000, storage := [], code := [0x00] } <|
  btreeInsert (.ofNat 20 0x6be02d1d3665660d22ff9624b7be0551ee1ac91b)
    { balance := 0xffffffffffffffffffffffffffffffff, code := [], nonce := 0, storage := [] } <|
  btreeInsert (.ofNat 20 0x8097c3C354652CB1EEed3E5B65fBa2576470678A)
    { balance := 0xffffffffffffffffffffffffffffffff, code := [], nonce := 0, storage := [] } []

def testnetGenesis (rng : ThreadRng) (sudoKey : AccountId) (endowedAccounts : List AccountId)
    (initialAuthorities : List Authority) (initialNominators : List AccountId) (chainId : Nat) :
    Except Panic GenesisConfig := do
  let endowed := endowAll endowedAccounts initialAuthorities initialNominators
  let numEndowedAccounts := endowed.length
  let stakers ← stakersOf rng initialAuthorities initialNominators
  .ok
    { sudoKey := some sudoKey
      balances := endowed.map fun k => (k, endowment)
      epochConfig := some babeGenesisEpochConfig
      sessionKeys := initialAuthorities.map fun x =>
        (x.controller, x.stash, ⟨x.babe, x.grandpa, x.imOnline⟩)
      staking :=
        { validatorCount := initialAuthorities.length % 2 ^ 32
          minimumValidatorCount := initialAuthorities.length % 2 ^ 32
          invulnerables := initialAuthorities.map Authority.stash
          slashRewardFraction := Perbill.fromPercent 10
          stakers := stakers
          minValidatorBond := 75_000 * Currency.dollars
          minNominatorBond := 10 * Currency.dollars }
      electionsMembers := (endowed.take ((numEndowedAccounts + 1) / 2)).map fun member =>
        (member, stashAmount)
      technicalCommitteeMembers := endowed.take ((numEndowedAccounts + 1) / 2)
      -- the JSON has a `technicalCommittee` section, but none for `technicalMembership`
      technicalMembershipMembers := none
      evmChainId := chainId
      evmAccounts := evmAccounts
      nominationPools :=
        { minCreateBond := 10 * Currency.dollars, minJoinBond := Currency.dollars } }

section Endowment
variable {endowed : List AccountId}

theorem endow_nodup (h : endowed.Nodup) (x : AccountId) : (endow endowed x).Nodup := by
  simp only [endow]
  split
  · exact h
  · rename_i fresh
    rw [List.nodup_append]
    refine ⟨h, List.nodup_singleton x, ?_⟩
    intro a ha b hb same
    rw [List.mem_singleton] at hb
    exact fresh (hb ▸ same ▸ ha)

theorem mem_endow (x a : AccountId) : a ∈ endow endowed x ↔ a ∈ endowed ∨ a = x := by
  rw [endow]
  split
  · rename_i present
    constructor
    · exact Or.inl
    · rintro (old | rfl)
      · exact old
      · exact present
  · rw [List.mem_append, List.mem_singleton]

theorem mem_foldl_endow (xs : List AccountId) (a : AccountId) :
    a ∈ xs.foldl endow endowed ↔ a ∈ endowed ∨ a ∈ xs := by
  induction xs generalizing endowed with
  | nil => simp
  | cons x xs ih =>
      rw [List.foldl_cons, ih, mem_endow, List.mem_cons, or_assoc]

theorem foldl_endow_nodup (h : endowed.Nodup) (xs : List AccountId) :
    (xs.foldl endow endowed).Nodup := by
  induction xs generalizing endowed with
  | nil => exact h
  | cons x xs ih => exact ih (endow_nodup h x)

theorem mem_endowAll (authorities : List Authority) (nominators : List AccountId)
    (a : AccountId) :
    a ∈ endowAll endowed authorities nominators ↔
      a ∈ endowed ∨ a ∈ authorities.map Authority.stash ∨ a ∈ nominators := by
  rw [endowAll, mem_foldl_endow, List.mem_append]

theorem endowAll_nodup (h : endowed.Nodup) (authorities : List Authority)
    (nominators : List AccountId) : (endowAll endowed authorities nominators).Nodup :=
  foldl_endow_nodup h _

theorem endowAll_eq_nil_iff (authorities : List Authority) (nominators : List AccountId) :
    endowAll endowed authorities nominators = [] ↔
      endowed = [] ∧ authorities = [] ∧ nominators = [] := by
  simp only [List.eq_nil_iff_forall_not_mem, mem_endowAll, not_or, List.mem_map, not_exists,
    not_and]
  constructor
  · intro none
    exact ⟨fun a => (none a).1, fun a ha => (none a.stash).2.1 a ha rfl, fun a => (none a).2.2⟩
  · rintro ⟨noEndowed, noAuthority, noNominator⟩ a
    exact ⟨noEndowed a, fun b hb _ => noAuthority b hb, noNominator a⟩

end Endowment

/-- The sections of a genesis that was built, by what they are made of. -/
structure BuiltFrom (rng : ThreadRng) (endowed : List AccountId) (authorities : List Authority)
    (nominators : List AccountId) (g : GenesisConfig) : Prop where
  balances : g.balances =
    (endowAll endowed authorities nominators).map fun k => (k, endowment)
  stakers : stakersOf rng authorities nominators = .ok g.staking.stakers
  elections : g.electionsMembers = ((endowAll endowed authorities nominators).take
    (((endowAll endowed authorities nominators).length + 1) / 2)).map fun member =>
      (member, stashAmount)
  technicalCommittee : g.technicalCommitteeMembers =
    (endowAll endowed authorities nominators).take
      (((endowAll endowed authorities nominators).length + 1) / 2)
  technicalMembership : g.technicalMembershipMembers = none
  evm : g.evmAccounts = evmAccounts

section Built
variable {rng : ThreadRng} {sudoKey : AccountId} {endowed : List AccountId}
  {authorities : List Authority} {nominators : List AccountId} {chainId : Nat} {g : GenesisConfig}

theorem testnetGenesis_eq_ok
    (h : testnetGenesis rng sudoKey endowed authorities nominators chainId = .ok g) :
    BuiltFrom rng endowed authorities nominators g := by
  obtain ⟨s, stakers, built⟩ := bind_eq_ok h
  cases built
  exact ⟨rfl, stakers, rfl, rfl, rfl, rfl⟩

theorem testnetGenesis_of_stakers (sudoKey : AccountId) (endowed : List AccountId)
    (chainId : Nat) {stakers : List Staker}
    (h : stakersOf rng authorities nominators = .ok stakers) :
    ∃ g, testnetGenesis rng sudoKey endowed authorities nominators chainId = .ok g ∧
      g.staking.stakers = stakers := by
  rw [testnetGenesis, h]
  exact ⟨_, rfl, rfl⟩

theorem accounts_of_built (built : BuiltFrom rng endowed authorities nominators g) :
    g.balances.map Prod.fst = endowAll endowed authorities nominators := by
  rw [built.balances, List.map_map]
  exact List.map_id _

end Built

/-! The development chain. Deriving a key pair from a seed is code of another
crate: the public keys of the seeds are listed. -/

def alice : AccountId :=
  .ofNat 32 0xd43593c715fdd31c61141abd04a99fd6822c8558854ccde39a5684e7a56da27d

def bob : AccountId :=
  .ofNat 32 0x8eaf04151687736326c9fea17e25fc5287613693c912909cb226aa4794f26a48

def aliceStash : AccountId :=
  .ofNat 32 0xbe5ddb1579b72e84524fc29e78609e3caf42e85aa118ebfe0b0ad404b5bdd25f

def bobStash : AccountId :=
  .ofNat 32 0xfe65717dad0447d715f660a0a58411de509b42e6efb8375f562f58a554d5860e

/-- `authority_keys_from_seed("Alice")`; the GRANDPA key is of the other curve. -/
def aliceAuthority : Authority where
  stash := aliceStash
  controller := alice
  babe := alice
  grandpa := .ofNat 32 0x88dc3417d5058ec4b4503e0c12ea1a0a89be200fe98922423d4334014fa6b0ee
  imOnline := alice

def developmentGenesis (rng : ThreadRng) : Except Panic GenesisConfig :=
  testnetGenesis rng alice [alice, bob, aliceStash, bobStash] [aliceAuthority] [] 42

def firstRng : ThreadRng where
  gen _ := 1
  chooseMultiple _ authorities amount := authorities.take amount

end Solochain
