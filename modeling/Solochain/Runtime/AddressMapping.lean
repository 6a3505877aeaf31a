import Solochain.Runtime.Types

/-!
Where the accounts behind Ethereum addresses live.

The hash functions are those of the host and enter as a parameter. All that is
used of them is the length of what they return.
-/
namespace Solochain

structure Hashing where
  twox128 : Bytes → FixedBytes 16
  blake2_128 : Bytes → FixedBytes 16
  blake2_256 : Bytes → H256

namespace Hashing
variable (H : Hashing)

def evmTag : Bytes := [0x65, 0x76, 0x6d, 0x3a]

/-- `HashedAddressMapping<BlakeTwo256>`. -/
def intoAccountId (address : H160) : AccountId := H.blake2_256 (evmTag ++ address.bytes)

def systemAccountRoot : Bytes :=
  (H.twox128 [0x53, 0x79, 0x73, 0x74, 0x65, 0x6d]).bytes ++
    (H.twox128 [0x41, 0x63, 0x63, 0x6f, 0x75, 0x6e, 0x74]).bytes

/-- The storage key of `System.Account`, a `Blake2_128Concat` map, at an encoded
account id. -/
def systemAccountKey (id : Bytes) : Bytes :=
  H.systemAccountRoot ++ ((H.blake2_128 id).bytes ++ id)

theorem systemAccountKey_injective {id id' : Bytes}
    (h : H.systemAccountKey id = H.systemAccountKey id') : id = id' := by
  have hashed := List.append_cancel_left h
  have sameLength : (H.blake2_128 id).bytes.length = (H.blake2_128 id').bytes.length := by
    rw [(H.blake2_128 id).length_eq, (H.blake2_128 id').length_eq]
  exact (List.append_inj hashed sameLength).2

theorem systemAccountKey_inj (id id' : Bytes) :
    H.systemAccountKey id = H.systemAccountKey id' ↔ id = id' :=
  ⟨H.systemAccountKey_injective, congrArg H.systemAccountKey⟩

theorem accountKey_ne_of_length_ne (id : AccountId) {id' : Bytes} (h : id'.length ≠ 32) :
    H.systemAccountKey id.bytes ≠ H.systemAccountKey id' := by
  intro same
  apply h
  rw [← H.systemAccountKey_injective same, id.length_eq]

end Hashing

/-- The digests that the accounts of the genesis need, zero elsewhere. -/
def knownHashing : Hashing where
  twox128 bytes :=
    if bytes = [0x53, 0x79, 0x73, 0x74, 0x65, 0x6d] then
      .ofNat 16 0x26aa394eea5630e07c48ae0c9558cef7
    else .ofNat 16 0xb99d880ec681799c0cf30e8886371da9
  blake2_128 bytes :=
    if bytes.length = 20 then .ofNat 16 0x26abc342e01bb6b0db4e06ff1b5b9b66
    else .ofNat 16 0x8792ddaec51862593069e2f02f2964c7
  blake2_256 bytes :=
    if bytes.drop 4 = (FixedBytes.ofNat 20 0x8097c3c354652cb1eeed3e5b65fba2576470678a).bytes then
      .ofNat 32 0x37e151225b96ae717e5e094b3e67f90f18c66ecad11024432df30cb38c007de7
    else if bytes.drop 4 =
        (FixedBytes.ofNat 20 0x6be02d1d3665660d22ff9624b7be0551ee1ac91b).bytes then
      .ofNat 32 0x0d6d2fcaed2f2ccd5c1d5c86468490f2aafeec8b7cb14af512cdf8c7980183a3
    else .ofNat 32 0x0e140211b5dca00bc5ac64b80bfec07ecc45022e5c9010a53090e770322a66f9

end Solochain
