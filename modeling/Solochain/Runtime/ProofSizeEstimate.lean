import Solochain.Library.Compact
import Solochain.Runtime.Limits
import Solochain.Runtime.Types

/-!
The length of an Ethereum transaction as the call and create RPC methods of the
runtime estimate it, against its SCALE encoding.

The transaction enumeration and its encoding belong to another crate. On chain the
proof size starts from the indices of the pallet and the call, and the length of
that encoding.
-/
namespace Solochain

abbrev U256 := FixedBytes 32

inductive TransactionAction
  | call (target : H160)
  | create
  deriving DecidableEq

abbrev AccessList := List (H160 × List H256)

structure TransactionSignature where
  v : UInt64
  r : H256
  s : H256

structure LegacyTransaction where
  nonce : U256
  gasPrice : U256
  gasLimit : U256
  action : TransactionAction
  value : U256
  input : Bytes
  signature : TransactionSignature

structure EIP2930Transaction where
  chainId : UInt64
  nonce : U256
  gasPrice : U256
  gasLimit : U256
  action : TransactionAction
  value : U256
  input : Bytes
  accessList : AccessList
  oddYParity : Bool
  r : H256
  s : H256

structure EIP1559Transaction where
  chainId : UInt64
  nonce : U256
  maxPriorityFeePerGas : U256
  maxFeePerGas : U256
  gasLimit : U256
  action : TransactionAction
  value : U256
  input : Bytes
  accessList : AccessList
  oddYParity : Bool
  r : H256
  s : H256

inductive EthereumTransaction
  | legacy (tx : LegacyTransaction)
  | eip2930 (tx : EIP2930Transaction)
  | eip1559 (tx : EIP1559Transaction)

namespace Scale

def u64 (v : UInt64) : Bytes := FixedBytes.littleEndian 8 v.toNat

def bool (b : Bool) : Bytes := [if b then 1 else 0]

def bytes (input : Bytes) : Bytes := Compact.encode input.length ++ input

def vec {α : Type} (item : α → Bytes) (items : List α) : Bytes :=
  Compact.encode items.length ++ items.flatMap item

def option {α : Type} (item : α → Bytes) : Option α → Bytes
  | none => [0]
  | some a => 1 :: item a

def accessList : AccessList → Bytes :=
  vec fun (address, storageKeys) => address.bytes ++ vec FixedBytes.bytes storageKeys

def action : TransactionAction → Bytes
  | .call target => 0 :: target.bytes
  | .create => [1]

def legacy (tx : LegacyTransaction) : Bytes :=
  tx.nonce.bytes ++ tx.gasPrice.bytes ++ tx.gasLimit.bytes ++ action tx.action ++
    tx.value.bytes ++ bytes tx.input ++
    u64 tx.signature.v ++ tx.signature.r.bytes ++ tx.signature.s.bytes

def eip2930 (tx : EIP2930Transaction) : Bytes :=
  u64 tx.chainId ++ tx.nonce.bytes ++ tx.gasPrice.bytes ++ tx.gasLimit.bytes ++
    action tx.action ++ tx.value.bytes ++ bytes tx.input ++ accessList tx.accessList ++
    bool tx.oddYParity ++ tx.r.bytes ++ tx.s.bytes

def eip1559 (tx : EIP1559Transaction) : Bytes :=
  u64 tx.chainId ++ tx.nonce.bytes ++ tx.maxPriorityFeePerGas.bytes ++ tx.maxFeePerGas.bytes ++
    tx.gasLimit.bytes ++ action tx.action ++ tx.value.bytes ++ bytes tx.input ++
    accessList tx.accessList ++ bool tx.oddYParity ++ tx.r.bytes ++ tx.s.bytes

def transaction : EthereumTransaction → Bytes
  | .legacy tx => 0 :: legacy tx
  | .eip2930 tx => 1 :: eip2930 tx
  | .eip1559 tx => 2 :: eip1559 tx

end Scale

/-- The base cost on chain: pallet index, call index, transaction. -/
def proofSizeBaseCost (tx : EthereumTransaction) : Nat := 2 + (Scale.transaction tx).length

namespace EthereumTransaction

def action : EthereumTransaction → TransactionAction
  | .legacy tx => tx.action
  | .eip2930 tx => tx.action
  | .eip1559 tx => tx.action

def input : EthereumTransaction → Bytes
  | .legacy tx => tx.input
  | .eip2930 tx => tx.input
  | .eip1559 tx => tx.input

def accessList : EthereumTransaction → AccessList
  | .legacy _ => []
  | .eip2930 tx => tx.accessList
  | .eip1559 tx => tx.accessList

end EthereumTransaction

/-- The limits that `call` and `create` hand to the runner: none without a proof size. -/
def runnerLimits (baseExtrinsic : Weight) (gasLimit estimatedTransactionLen : Nat) :
    Option Weight × Option Nat :=
  let gasLimit := if gasLimit > u64Max then u64Max else gasLimit
  let weightLimit := gasToWeight baseExtrinsic gasLimit true
  if weightLimit.proofSize > 0 then (some weightLimit, some estimatedTransactionLen)
  else (none, none)

def callTransactionLen (data : Bytes) (accessList : Option AccessList) : Nat :=
  let estimatedTransactionLen := data.length + 258
  if accessList.isSome then
    estimatedTransactionLen + (Scale.option Scale.accessList accessList).length
  else estimatedTransactionLen

def createTransactionLen (data : Bytes) (maxFeePerGas maxPriorityFeePerGas : Option U256)
    (accessList : Option AccessList) : Nat :=
  let estimatedTransactionLen := data.length + 190
  let estimatedTransactionLen :=
    if maxFeePerGas.isSome then estimatedTransactionLen + 32 else estimatedTransactionLen
  let estimatedTransactionLen :=
    if maxPriorityFeePerGas.isSome then estimatedTransactionLen + 32 else estimatedTransactionLen
  if accessList.isSome then
    estimatedTransactionLen + (Scale.option Scale.accessList accessList).length
  else estimatedTransactionLen

namespace Scale

theorem length_bytes (input : Bytes) :
    (bytes input).length = Compact.size input.length + input.length := by
  rw [bytes, List.length_append, Compact.length_encode]

theorem length_u64 (v : UInt64) : (u64 v).length = 8 :=
  FixedBytes.length_littleEndian 8 v.toNat

theorem one_le_length_accessList (items : AccessList) :
    1 ≤ (accessList items).length := by
  rw [accessList, vec, List.length_append, Compact.length_encode]
  exact (Compact.one_le_size _).trans (Nat.le_add_right _ _)

theorem length_legacy (tx : LegacyTransaction) :
    (legacy tx).length = 200 + (action tx.action).length +
      (Compact.size tx.input.length + tx.input.length) := by
  simp only [legacy, List.length_append, FixedBytes.length_eq, length_bytes,
    length_u64]
  omega

theorem length_eip2930 (tx : EIP2930Transaction) :
    (eip2930 tx).length = 201 + (action tx.action).length +
      (Compact.size tx.input.length + tx.input.length) +
      (accessList tx.accessList).length := by
  simp only [eip2930, List.length_append, FixedBytes.length_eq, length_bytes,
    length_u64, bool, List.length_singleton]
  omega

theorem length_eip1559 (tx : EIP1559Transaction) :
    (eip1559 tx).length = 233 + (action tx.action).length +
      (Compact.size tx.input.length + tx.input.length) +
      (accessList tx.accessList).length := by
  simp only [eip1559, List.length_append, FixedBytes.length_eq, length_bytes,
    length_u64, bool, List.length_singleton]
  omega

end Scale

theorem runnerLimits_passed {baseExtrinsic : Weight} {gasLimit len estimate : Nat}
    (h : (runnerLimits baseExtrinsic gasLimit len).2 = some estimate) : len = estimate := by
  simp only [runnerLimits] at h
  generalize gasToWeight baseExtrinsic _ true = weightLimit at h
  split at h
  · exact Option.some.inj h
  · cases h

theorem runnerLimits_some (len : Nat) :
    (runnerLimits ⟨0, 0⟩ blockGasLimit len).2 = some len := by
  rfl

/-- The cost of an EIP-1559 transaction, which is the most that a transaction with such an
action, input and access list costs. -/
def heaviestCost (action : TransactionAction) (input : Bytes) (accessList : AccessList) : Nat :=
  236 + (Scale.action action).length + (Compact.size input.length + input.length) +
    (Scale.accessList accessList).length

theorem proofSizeBaseCost_eip1559 (tx : EIP1559Transaction) :
    proofSizeBaseCost (.eip1559 tx) = heaviestCost tx.action tx.input tx.accessList := by
  rw [proofSizeBaseCost, Scale.transaction, List.length_cons, Scale.length_eip1559, heaviestCost]
  omega

theorem proofSizeBaseCost_le (tx : EthereumTransaction) :
    proofSizeBaseCost tx ≤ heaviestCost tx.action tx.input tx.accessList := by
  have some := Scale.one_le_length_accessList tx.accessList
  cases tx with
  | legacy tx =>
      rw [proofSizeBaseCost, Scale.transaction, List.length_cons, Scale.length_legacy, heaviestCost]
      simp only [EthereumTransaction.action, EthereumTransaction.input]
      omega
  | eip2930 tx =>
      rw [proofSizeBaseCost, Scale.transaction, List.length_cons, Scale.length_eip2930,
        heaviestCost]
      simp only [EthereumTransaction.action, EthereumTransaction.input,
        EthereumTransaction.accessList]
      omega
  | eip1559 tx => exact (proofSizeBaseCost_eip1559 tx).le

def heaviest (action : TransactionAction) (input : Bytes) (accessList : AccessList) :
    EIP1559Transaction where
  chainId := 42
  nonce := .ofNat 32 0
  maxPriorityFeePerGas := .ofNat 32 0
  maxFeePerGas := .ofNat 32 0
  gasLimit := .ofNat 32 blockGasLimit
  action := action
  value := .ofNat 32 0
  input := input
  accessList := accessList
  oddYParity := false
  r := .ofNat 32 1
  s := .ofNat 32 1

/-- What is passed to the runner covers every transaction with such an action that
carries the data and the access list. -/
def Covers (estimatedTransactionLen : Nat) (IsAction : TransactionAction → Prop) (data : Bytes)
    (accessList : Option AccessList) : Prop :=
  ∀ baseExtrinsic gasLimit estimate,
    (runnerLimits baseExtrinsic gasLimit estimatedTransactionLen).2 = some estimate →
    ∀ tx : EthereumTransaction, IsAction tx.action → tx.input = data →
      tx.accessList = accessList.getD [] → proofSizeBaseCost tx ≤ estimate

theorem covers_iff {len n : Nat} {IsAction : TransactionAction → Prop}
    (length : ∀ action, IsAction action → (Scale.action action).length = n)
    (some : ∃ action, IsAction action) (data : Bytes) (accessList : Option AccessList) :
    Covers len IsAction data accessList ↔
      236 + n + (Compact.size data.length + data.length) +
        (Scale.accessList (accessList.getD [])).length ≤ len := by
  constructor
  · intro covers
    obtain ⟨action, kind⟩ := some
    have cost := covers _ _ len (runnerLimits_some len)
      (.eip1559 (heaviest action data (accessList.getD []))) kind rfl rfl
    rw [proofSizeBaseCost_eip1559, heaviestCost, heaviest, length action kind] at cost
    exact cost
  · intro enough baseExtrinsic gasLimit estimate passed tx kind input list
    have cost := proofSizeBaseCost_le tx
    rw [heaviestCost, length tx.action kind, input, list] at cost
    rw [← runnerLimits_passed passed]
    exact cost.trans enough

def TransactionAction.IsCall (action : TransactionAction) : Prop := ∃ target, action = .call target

def TransactionAction.IsCreate (action : TransactionAction) : Prop := action = .create

theorem length_call (action : TransactionAction) (h : action.IsCall) :
    (Scale.action action).length = 21 := by
  obtain ⟨target, rfl⟩ := h
  rw [Scale.action, List.length_cons, target.length_eq]

theorem length_create (action : TransactionAction) (h : action.IsCreate) :
    (Scale.action action).length = 1 := by
  rw [h]
  rfl

def CallCovers (data : Bytes) (accessList : Option AccessList) : Prop :=
  Covers (callTransactionLen data accessList) TransactionAction.IsCall data accessList

def CreateCovers (data : Bytes) (maxFeePerGas maxPriorityFeePerGas : Option U256)
    (accessList : Option AccessList) : Prop :=
  Covers (createTransactionLen data maxFeePerGas maxPriorityFeePerGas accessList)
    TransactionAction.IsCreate data accessList

theorem callTransactionLen_none (data : Bytes) : callTransactionLen data none = data.length + 258 :=
  rfl

theorem callTransactionLen_some (data : Bytes) (list : AccessList) :
    callTransactionLen data (some list) =
      data.length + 258 + ((Scale.accessList list).length + 1) :=
  rfl

/-- The estimate leaves out the compact length of the data. Only the tag of a given access list
and the byte of an empty one make up for it. -/
theorem callCovers_iff (data : Bytes) (accessList : Option AccessList) :
    CallCovers data accessList ↔ accessList.isSome ∧ data.length < 2 ^ 14 := by
  rw [CallCovers, covers_iff length_call ⟨.call (.ofNat 20 0), _, rfl⟩,
    ← Compact.size_le_two_iff]
  have prefixed := Compact.one_le_size data.length
  cases accessList with
  | none =>
      have empty : (Scale.accessList []).length = 1 := rfl
      rw [callTransactionLen_none, Option.getD_none, empty]
      refine iff_of_false (by omega) ?_
      exact fun h => Bool.false_ne_true h.1
  | some list =>
      rw [callTransactionLen_some, Option.getD_some, Option.isSome_some, and_iff_right rfl]
      omega

/-- What a fee field adds to the estimate. -/
def feeLen (fee : Option U256) : Nat := if fee.isSome then 32 else 0

theorem feeLen_add_eq {fee fee' : Option U256} (given : fee.isSome ∧ fee'.isSome) :
    feeLen fee + feeLen fee' = 64 := by
  rw [feeLen, feeLen, if_pos given.1, if_pos given.2]

theorem feeLen_add_le {fee fee' : Option U256} (missing : ¬ (fee.isSome ∧ fee'.isSome)) :
    feeLen fee + feeLen fee' ≤ 32 := by
  rw [feeLen, feeLen]
  split
  · rename_i first
    rw [if_neg fun second => missing ⟨first, second⟩]
  · split <;> decide

theorem createTransactionLen_none (data : Bytes) (maxFeePerGas maxPriorityFeePerGas : Option U256) :
    createTransactionLen data maxFeePerGas maxPriorityFeePerGas none =
      data.length + 190 + (feeLen maxFeePerGas + feeLen maxPriorityFeePerGas) := by
  cases maxFeePerGas <;> cases maxPriorityFeePerGas <;> rfl

theorem createTransactionLen_some (data : Bytes) (maxFeePerGas maxPriorityFeePerGas : Option U256)
    (list : AccessList) :
    createTransactionLen data maxFeePerGas maxPriorityFeePerGas (some list) =
      createTransactionLen data maxFeePerGas maxPriorityFeePerGas none +
        ((Scale.accessList list).length + 1) :=
  rfl

/-- An access list is counted to within one byte, given or not. -/
theorem createTransactionLen_bounds (data : Bytes)
    (maxFeePerGas maxPriorityFeePerGas : Option U256) (accessList : Option AccessList) :
    createTransactionLen data maxFeePerGas maxPriorityFeePerGas none +
        (Scale.accessList (accessList.getD [])).length ≤
      createTransactionLen data maxFeePerGas maxPriorityFeePerGas accessList + 1 ∧
    createTransactionLen data maxFeePerGas maxPriorityFeePerGas accessList ≤
      createTransactionLen data maxFeePerGas maxPriorityFeePerGas none +
        (Scale.accessList (accessList.getD [])).length + 1 := by
  cases accessList with
  | none =>
      have empty : (Scale.accessList []).length = 1 := rfl
      rw [Option.getD_none, empty]
      omega
  | some list =>
      rw [createTransactionLen_some, Option.getD_some]
      omega

/-- Each missing fee field takes 32 bytes from the estimate that the transaction has anyway. -/
theorem createCovers_iff (data : Bytes) (maxFeePerGas maxPriorityFeePerGas : Option U256)
    (accessList : Option AccessList) :
    CreateCovers data maxFeePerGas maxPriorityFeePerGas accessList ↔
      maxFeePerGas.isSome ∧ maxPriorityFeePerGas.isSome := by
  have prefixed := Compact.one_le_size data.length
  have small := Compact.size_le_five data.length
  have counted :=
    createTransactionLen_bounds data maxFeePerGas maxPriorityFeePerGas accessList
  rw [createTransactionLen_none] at counted
  rw [CreateCovers, covers_iff length_create ⟨.create, rfl⟩]
  by_cases given : maxFeePerGas.isSome ∧ maxPriorityFeePerGas.isSome
  · have fees := feeLen_add_eq given
    exact iff_of_true (by omega) given
  · have fees := feeLen_add_le given
    exact iff_of_false (by omega) given

theorem estimates_cover_iff (data : Bytes) (maxFeePerGas maxPriorityFeePerGas : Option U256)
    (accessList : Option AccessList) :
    (CallCovers data accessList ↔ accessList.isSome ∧ data.length < 2 ^ 14) ∧
      (CreateCovers data maxFeePerGas maxPriorityFeePerGas accessList ↔
        maxFeePerGas.isSome ∧ maxPriorityFeePerGas.isSome) :=
  ⟨callCovers_iff data accessList,
    createCovers_iff data maxFeePerGas maxPriorityFeePerGas accessList⟩

theorem empty_data_underestimated :
    ¬ CallCovers [] none ∧ ¬ CreateCovers [] none none none := by
  constructor
  · intro covers
    have cost := covers _ _ _ (runnerLimits_some _)
      (.eip1559 (heaviest (.call (.ofNat 20 1)) [] [])) ⟨_, rfl⟩ rfl rfl
    rw [proofSizeBaseCost_eip1559] at cost
    exact absurd cost (by decide)
  · intro covers
    have cost := covers _ _ _ (runnerLimits_some _) (.eip1559 (heaviest .create [] [])) rfl rfl rfl
    rw [proofSizeBaseCost_eip1559] at cost
    exact absurd cost (by decide)

end Solochain
