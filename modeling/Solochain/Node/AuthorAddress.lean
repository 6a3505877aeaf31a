import Solochain.Node.Genesis
import Solochain.Node.PendingInherents
import Solochain.Runtime.AddressMapping
import Solochain.Runtime.Call

/-!
Who may act for the address that the EVM takes for the author of a block.

The runtime cuts the address out of the key of the author; the origins of the EVM
cut one out of the account that signs. The origin type is of another crate and
enters as a parameter.
-/
namespace Solochain

/-- `EnsureAddressTruncated`, by which an account acts for its first twenty bytes. -/
structure TruncatedOriginCrate where
  ensureAddressTruncated : H160 → RuntimeOrigin → Option AccountId
  signed : ∀ address who, (ensureAddressTruncated address (.signed who)).isSome ↔
    who.slice 0 20 (by decide) = address

def ensureTruncated : TruncatedOriginCrate where
  ensureAddressTruncated
    | address, .signed who => if who.slice 0 20 (by decide) = address then some who else none
    | _, _ => none
  signed address who := by
    rw [Option.isSome_ite]

namespace Evm
variable (E : TruncatedOriginCrate)

def callOrigin (address : H160) (origin : RuntimeOrigin) : Option AccountId :=
  E.ensureAddressTruncated address origin

def withdrawOrigin (address : H160) (origin : RuntimeOrigin) : Option AccountId :=
  E.ensureAddressTruncated address origin

structure MayActFor (who : AccountId) (address : H160) : Prop where
  call : (callOrigin E address (.signed who)).isSome
  withdraw : (withdrawOrigin E address (.signed who)).isSome

theorem mayActFor_iff (who : AccountId) (address : H160) :
    MayActFor E who address ↔ who.slice 0 20 (by decide) = address := by
  constructor
  · intro acts
    exact (E.signed address who).mp acts.call
  · intro cut
    have accepted := (E.signed address who).mpr cut
    exact ⟨accepted, accepted⟩

/-- An account is withdrawn from under an address that is mapped to it. -/
def CanWithdraw (H : Hashing) (who account : AccountId) : Prop :=
  ∃ address, H.intoAccountId address = account ∧
    (withdrawOrigin E address (.signed who)).isSome

/-- The account that the priority fees of a block go to. -/
def feeAccount (H : Hashing) (author : H160) : AccountId := H.intoAccountId author

theorem canWithdraw_feeAccount (H : Hashing) {who : AccountId} {author : H160}
    (acts : MayActFor E who author) : CanWithdraw E H who (feeAccount H author) :=
  ⟨author, rfl, acts.withdraw⟩

end Evm

/-- The account may act for the author address of the block and get at its fees. -/
def AuthorReached (E : TruncatedOriginCrate) (H : Hashing) (B : BabeCrate)
    (authorities : List (PublicKey × UInt64)) (digests : List (ConsensusEngineId × Bytes))
    (who : AccountId) : Prop :=
  ∃ author, findAuthorTruncated B authorities digests = .ok (some author) ∧
    Evm.MayActFor E who author ∧ Evm.CanWithdraw E H who (Evm.feeAccount H author)

/-- The first four bytes make up the next twenty as well. -/
def RepeatsFour (key : PublicKey) : Prop := ∀ j < 20, key.bytes[j]? = key.bytes[j + 4]?

theorem repeatsFour_iff (key : PublicKey) :
    RepeatsFour key ↔ key.slice 0 20 (by decide) = key.slice 4 20 (by decide) := by
  simp only [RepeatsFour, FixedBytes.slice_eq_slice_iff, Nat.zero_add, Nat.add_comm 4]

def repeatedKey : PublicKey :=
  .ofNat 32 0x8eaf04158eaf04158eaf04158eaf04158eaf04158eaf041587613693c912909c

theorem findAuthorTruncated_of_named {B : BabeCrate} {authorities : List (PublicKey × UInt64)}
    {digests : List (ConsensusEngineId × Bytes)} {authorIndex : UInt32} {key : PublicKey}
    {weight : UInt64} (named : B.findAuthor digests = some authorIndex)
    (member : authorities[authorIndex.toNat]? = some (key, weight)) :
    findAuthorTruncated B authorities digests = .ok (some (key.slice 4 20 (by decide))) := by
  simp only [findAuthorTruncated, named, member]

/-- Both cuts meet only in keys that start with four bytes six times over. -/
theorem authorReached_iff (E : TruncatedOriginCrate) (H : Hashing) (B : BabeCrate)
    (authorities : List (PublicKey × UInt64)) (digests : List (ConsensusEngineId × Bytes))
    (authorIndex : UInt32) (key : PublicKey) (weight : UInt64)
    (named : B.findAuthor digests = some authorIndex)
    (member : authorities[authorIndex.toNat]? = some (key, weight)) :
    AuthorReached E H B authorities digests key ↔ RepeatsFour key := by
  have found := findAuthorTruncated_of_named named member
  rw [repeatsFour_iff]
  refine ⟨fun reached => ?_, fun same => ?_⟩
  · obtain ⟨author, returned, acts, _⟩ := reached
    rw [found] at returned
    cases returned
    exact (Evm.mayActFor_iff E key _).mp acts
  · have acts := (Evm.mayActFor_iff E key _).mpr same
    exact ⟨_, found, acts, Evm.canWithdraw_feeAccount E H acts⟩

theorem repeatedKey_authorReached :
    AuthorReached ensureTruncated knownHashing scaleBabe [(alice, 1), (repeatedKey, 1)]
      (Digest.preRuntimes [scaleBabe.digestItem (.secondaryPlain 1 7)]) repeatedKey :=
  (authorReached_iff ensureTruncated knownHashing scaleBabe [(alice, 1), (repeatedKey, 1)]
    (Digest.preRuntimes [scaleBabe.digestItem (.secondaryPlain 1 7)]) 1 repeatedKey 1
    (by decide) (by decide)).mpr (by
      rw [RepeatsFour]
      decide)

theorem alice_author_not_reached :
    aliceAuthority.controller = aliceAuthority.babe ∧
      ¬ AuthorReached ensureTruncated knownHashing scaleBabe [(aliceAuthority.babe, 1)]
        (Digest.preRuntimes [scaleBabe.digestItem (.secondaryPlain 0 7)])
        aliceAuthority.controller := by
  refine ⟨rfl, ?_⟩
  intro reached
  obtain ⟨author, returned, acts, _⟩ := reached
  have cut := (Evm.mayActFor_iff ensureTruncated _ _).mp acts
  rw [findAuthorTruncated_digestItem] at returned
  cases returned
  exact absurd cut (by decide)

end Solochain
