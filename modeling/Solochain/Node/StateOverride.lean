import Solochain.Runtime.AddressMapping

/-!
The state override of `eth_call` against the account that the EVM reads.

The node picks `SystemAccountId20StorageOverride` in `DefaultEthConfig`, the
runtime picks `HashedAddressMapping`. What pallet_evm makes of an account entry,
and how an override rewrites one, is code of other crates.
-/
namespace Solochain

structure EVMAccount where
  nonce : Nat
  balance : Nat
  deriving DecidableEq

/-- The entries of `System.Account` under their raw keys. -/
abbrev SystemAccounts (Info : Type) := Bytes → Option Info

structure EvmBackend (Info : Type) where
  hashing : Hashing
  basicOf : Option Info → EVMAccount
  rewrite : EVMAccount → Info → Info

namespace EvmBackend
variable {Info : Type} (E : EvmBackend Info)

def accountInfo (s : SystemAccounts Info) (id : AccountId) : Option Info :=
  s (E.hashing.systemAccountKey id.bytes)

def accountBasic (s : SystemAccounts Info) (address : H160) : EVMAccount :=
  E.basicOf (E.accountInfo s (E.hashing.intoAccountId address))

/-- The overlay of an override that looks for the account under `idBytes`: it
rewrites an entry that is there and makes none. -/
def setOverlayedChanges (idBytes : H160 → Bytes) (s : SystemAccounts Info) (address : H160)
    (overriding : EVMAccount) : SystemAccounts Info :=
  fun key =>
    if key = E.hashing.systemAccountKey (idBytes address) then (s key).map (E.rewrite overriding)
    else s key

def accountId20Bytes (address : H160) : Bytes := address.bytes

/-- `DefaultEthConfig::RuntimeStorageOverride`. -/
def runtimeStorageOverride : SystemAccounts Info → H160 → EVMAccount → SystemAccounts Info :=
  E.setOverlayedChanges accountId20Bytes

structure OverrideReaches (idBytes : H160 → Bytes) (s : SystemAccounts Info) (address : H160)
    (overriding : EVMAccount) : Prop where
  sameEntry : E.hashing.systemAccountKey (idBytes address) =
    E.hashing.systemAccountKey (E.hashing.intoAccountId address).bytes
  reads : E.accountBasic (E.setOverlayedChanges idBytes s address overriding) address = overriding
  others : ∀ id, id ≠ E.hashing.intoAccountId address →
    E.accountInfo (E.setOverlayedChanges idBytes s address overriding) id = E.accountInfo s id

theorem accountInfo_setOverlayedChanges (idBytes : H160 → Bytes) (s : SystemAccounts Info)
    (address : H160) (overriding : EVMAccount) (id : AccountId) :
    E.accountInfo (E.setOverlayedChanges idBytes s address overriding) id =
      if id.bytes = idBytes address then (E.accountInfo s id).map (E.rewrite overriding)
      else E.accountInfo s id := by
  simp only [accountInfo, setOverlayedChanges, Hashing.systemAccountKey_inj]

/-- An override works as soon as it derives the account as the runtime does, given
that what it rewrites reads back. -/
theorem overrideReaches_of_derivation (idBytes : H160 → Bytes) (s : SystemAccounts Info)
    (address : H160) (overriding : EVMAccount)
    (derived : idBytes address = (E.hashing.intoAccountId address).bytes)
    (readsBack : ∀ info, E.accountInfo s (E.hashing.intoAccountId address) = some info →
      E.basicOf (some (E.rewrite overriding info)) = overriding)
    (present : (E.accountInfo s (E.hashing.intoAccountId address)).isSome) :
    E.OverrideReaches idBytes s address overriding where
  sameEntry := congrArg _ derived
  reads := by
    obtain ⟨info, found⟩ := Option.isSome_iff_exists.mp present
    rw [accountBasic, accountInfo_setOverlayedChanges, if_pos derived.symm, found]
    exact readsBack info found
  others := by
    intro id other
    rw [accountInfo_setOverlayedChanges, derived, if_neg (FixedBytes.bytes_ne other)]

theorem accountInfo_runtimeStorageOverride (s : SystemAccounts Info) (address : H160)
    (overriding : EVMAccount) (id : AccountId) :
    E.accountInfo (E.runtimeStorageOverride s address overriding) id = E.accountInfo s id := by
  have shorter : id.bytes ≠ accountId20Bytes address := by
    intro same
    have lengths := congrArg List.length same
    rw [id.length_eq, accountId20Bytes, address.length_eq] at lengths
    exact absurd lengths (by decide)
  rw [runtimeStorageOverride, accountInfo_setOverlayedChanges, if_neg shorter]

/-- The override of the node reaches no account: the EVM reads on as if there
were none. -/
theorem runtimeStorageOverride_reaches_nothing (s : SystemAccounts Info) (address : H160)
    (overriding : EVMAccount) :
    ¬ E.OverrideReaches accountId20Bytes s address overriding ∧
      E.accountBasic (E.runtimeStorageOverride s address overriding) address =
        E.accountBasic s address := by
  refine ⟨?_, ?_⟩
  · intro reaches
    apply E.hashing.accountKey_ne_of_length_ne (E.hashing.intoAccountId address)
      _ reaches.sameEntry.symm
    rw [accountId20Bytes, address.length_eq]
    decide
  · rw [accountBasic, accountInfo_runtimeStorageOverride]
    rfl

end EvmBackend

structure AccountInfo where
  nonce : Nat
  free : Balance
  reserved : Balance
  frozen : Balance
  deriving DecidableEq

/-- The balance that can be spent without losing the account, and an override that
splices the low bits of both values. -/
def sampleBackend : EvmBackend AccountInfo where
  hashing := knownHashing
  basicOf
    | some info =>
        { nonce := info.nonce
          balance := info.free - max (info.frozen - info.reserved) existentialDeposit }
    | none => { nonce := 0, balance := 0 }
  rewrite overriding info :=
    { info with nonce := overriding.nonce % 2 ^ 32, free := overriding.balance % 2 ^ 128 }

def devAddress : H160 := .ofNat 20 0x8097c3C354652CB1EEed3E5B65fBa2576470678A

def sampleAccounts : SystemAccounts AccountInfo := fun key =>
  if key = knownHashing.systemAccountKey (knownHashing.intoAccountId devAddress).bytes then
    some { nonce := 3, free := 2 * Currency.dollars, reserved := 0, frozen := 0 }
  else none

theorem runtimeStorageOverride_reads_old_account :
    (sampleBackend.accountInfo sampleAccounts
        (sampleBackend.hashing.intoAccountId devAddress)).isSome ∧
      ¬ sampleBackend.OverrideReaches EvmBackend.accountId20Bytes sampleAccounts devAddress
        { nonce := 7, balance := 5 * Currency.dollars } :=
  ⟨by decide, fun reaches => absurd reaches.reads (by decide)⟩

end Solochain
