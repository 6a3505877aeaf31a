import Solochain.Library.Wire
import Solochain.Runtime.ProofSizeEstimate

/-!
The bytes of an Ethereum transaction in an unsigned extrinsic, and what the runtime
reads back from them.

The signature of a legacy transaction is checked while it is decoded, by another
crate; the check is a parameter.
-/
namespace Solochain
namespace TransactionWire
open Wire
variable (validSignature : TransactionSignature → Bool)

def actionCase : TransactionAction → H160 ⊕ Unit
  | .call target => .inl target
  | .create => .inr ()

def action : Wire TransactionAction :=
  (orElse (tagged 0 (fixed 20)) (tagged 1 empty) (apart_tagged _ _ (by decide))).iso
    (Sum.elim .call fun _ => .create) actionCase
    (by intro a; cases a <;> rfl) (by intro a; cases a <;> rfl)

def accessList : Wire AccessList := ((fixed 20).pair (fixed 32).list).list

def signature : Wire TransactionSignature :=
  ((u64.pair ((fixed 32).pair (fixed 32))).iso
    (fun t => { v := t.1, r := t.2.1, s := t.2.2 }) (fun s => (s.v, s.r, s.s))
    (fun _ => rfl) fun _ => rfl).guarded validSignature

def legacy : Wire LegacyTransaction :=
  ((fixed 32).pair ((fixed 32).pair ((fixed 32).pair (action.pair ((fixed 32).pair
    (bytes.pair (signature validSignature))))))).iso
    (fun t =>
      { nonce := t.1
        gasPrice := t.2.1
        gasLimit := t.2.2.1
        action := t.2.2.2.1
        value := t.2.2.2.2.1
        input := t.2.2.2.2.2.1
        signature := t.2.2.2.2.2.2 })
    (fun tx => (tx.nonce, tx.gasPrice, tx.gasLimit, tx.action, tx.value, tx.input, tx.signature))
    (fun _ => rfl) fun _ => rfl

def eip2930 : Wire EIP2930Transaction :=
  (u64.pair ((fixed 32).pair ((fixed 32).pair ((fixed 32).pair (action.pair ((fixed 32).pair
    (bytes.pair (accessList.pair (bool.pair ((fixed 32).pair (fixed 32))))))))))).iso
    (fun t =>
      { chainId := t.1
        nonce := t.2.1
        gasPrice := t.2.2.1
        gasLimit := t.2.2.2.1
        action := t.2.2.2.2.1
        value := t.2.2.2.2.2.1
        input := t.2.2.2.2.2.2.1
        accessList := t.2.2.2.2.2.2.2.1
        oddYParity := t.2.2.2.2.2.2.2.2.1
        r := t.2.2.2.2.2.2.2.2.2.1
        s := t.2.2.2.2.2.2.2.2.2.2 })
    (fun tx => (tx.chainId, tx.nonce, tx.gasPrice, tx.gasLimit, tx.action, tx.value, tx.input,
      tx.accessList, tx.oddYParity, tx.r, tx.s))
    (fun _ => rfl) fun _ => rfl

def eip1559 : Wire EIP1559Transaction :=
  (u64.pair ((fixed 32).pair ((fixed 32).pair ((fixed 32).pair ((fixed 32).pair (action.pair
    ((fixed 32).pair (bytes.pair (accessList.pair (bool.pair ((fixed 32).pair
      (fixed 32)))))))))))).iso
    (fun t =>
      { chainId := t.1
        nonce := t.2.1
        maxPriorityFeePerGas := t.2.2.1
        maxFeePerGas := t.2.2.2.1
        gasLimit := t.2.2.2.2.1
        action := t.2.2.2.2.2.1
        value := t.2.2.2.2.2.2.1
        input := t.2.2.2.2.2.2.2.1
        accessList := t.2.2.2.2.2.2.2.2.1
        oddYParity := t.2.2.2.2.2.2.2.2.2.1
        r := t.2.2.2.2.2.2.2.2.2.2.1
        s := t.2.2.2.2.2.2.2.2.2.2.2 })
    (fun tx => (tx.chainId, tx.nonce, tx.maxPriorityFeePerGas, tx.maxFeePerGas, tx.gasLimit,
      tx.action, tx.value, tx.input, tx.accessList, tx.oddYParity, tx.r, tx.s))
    (fun _ => rfl) fun _ => rfl

theorem typed_apart : Apart (tagged 1 eip2930) (tagged 2 eip1559) :=
  apart_tagged _ _ (by decide)

theorem legacy_apart :
    Apart (tagged 0 (legacy validSignature))
      (orElse (tagged 1 eip2930) (tagged 2 eip1559) typed_apart) :=
  apart_orElse (apart_tagged _ _ (by decide)) (apart_tagged _ _ (by decide))

def transactionCase :
    EthereumTransaction → LegacyTransaction ⊕ EIP2930Transaction ⊕ EIP1559Transaction
  | .legacy tx => .inl tx
  | .eip2930 tx => .inr (.inl tx)
  | .eip1559 tx => .inr (.inr tx)

def transaction : Wire EthereumTransaction :=
  (orElse (tagged 0 (legacy validSignature))
    (orElse (tagged 1 eip2930) (tagged 2 eip1559) typed_apart) (legacy_apart validSignature)).iso
    (Sum.elim .legacy (Sum.elim .eip2930 .eip1559)) transactionCase
    (by
      intro t
      obtain tx | tx | tx := t <;> rfl)
    (by intro tx; cases tx <;> rfl)

/-- The index of `Ethereum` in the runtime. -/
def palletIndex : UInt8 := 10

/-- The index of `transact` in its pallet. -/
def callIndex : UInt8 := 0

/-- The version of an extrinsic without signature. -/
def extrinsicVersion : UInt8 := 4

def transactCall : Wire EthereumTransaction :=
  tagged palletIndex (tagged callIndex (transaction validSignature))

def transactExtrinsic : Wire EthereumTransaction :=
  (tagged extrinsicVersion (transactCall validSignature)).sized

theorem encode_action (a : TransactionAction) : action.encode a = Scale.action a := by
  cases a <;> rfl

theorem encode_bool (b : Bool) : bool.encode b = Scale.bool b := by
  cases b <;> rfl

theorem encode_legacy (tx : LegacyTransaction) :
    (legacy validSignature).encode tx = Scale.legacy tx := by
  simp only [Scale.legacy, Scale.bytes, List.append_assoc, ← encode_action, ← encode_bytes]
  rfl

theorem encode_eip2930 (tx : EIP2930Transaction) : eip2930.encode tx = Scale.eip2930 tx := by
  simp only [Scale.eip2930, Scale.bytes, List.append_assoc, ← encode_action, ← encode_bytes,
    ← encode_bool]
  rfl

theorem encode_eip1559 (tx : EIP1559Transaction) : eip1559.encode tx = Scale.eip1559 tx := by
  simp only [Scale.eip1559, Scale.bytes, List.append_assoc, ← encode_action, ← encode_bytes,
    ← encode_bool]
  rfl

theorem encode_transaction (tx : EthereumTransaction) :
    (transaction validSignature).encode tx = Scale.transaction tx := by
  cases tx with
  | legacy tx => exact congrArg _ (encode_legacy validSignature tx)
  | eip2930 tx => exact congrArg _ (encode_eip2930 tx)
  | eip1559 tx => exact congrArg _ (encode_eip1559 tx)

/-- Vectors have lengths that a compact prefix can count. -/
structure Fits (data : Bytes) (accesses : AccessList) : Prop where
  input : data.length < 2 ^ 32
  items : accesses.length < 2 ^ 32
  keys : ∀ item ∈ accesses, item.2.length < 2 ^ 32

/-- What can be encoded and is decoded again. -/
structure Encodable (tx : EthereumTransaction) : Prop where
  fits : Fits tx.input tx.accessList
  signature : ∀ legacy, tx = .legacy legacy → validSignature legacy.signature = true

theorem valid_action (a : TransactionAction) : action.Valid a := by
  cases a <;> trivial

theorem valid_bool (b : Bool) : bool.Valid b := by
  cases b <;> trivial

theorem valid_accessList (items : AccessList) :
    accessList.Valid items ↔
      items.length < 2 ^ 32 ∧ ∀ item ∈ items, item.2.length < 2 ^ 32 := by
  refine and_congr_right fun _ => forall₂_congr fun item _ => ?_
  refine (and_iff_right trivial).trans (and_iff_left fun _ _ => trivial)

theorem valid_legacy (tx : LegacyTransaction) :
    (legacy validSignature).Valid tx ↔
      tx.input.length < 2 ^ 32 ∧ validSignature tx.signature = true := by
  simp only [legacy, iso, pair, fixed, signature, guarded, u64, valid_action, valid_bytes,
    true_and]

theorem valid_eip2930 (tx : EIP2930Transaction) :
    eip2930.Valid tx ↔ Fits tx.input tx.accessList := by
  simp only [eip2930, iso, pair, fixed, u64, valid_action, valid_bytes, valid_accessList,
    valid_bool, true_and, and_true]
  exact ⟨fun h => ⟨h.1, h.2.1, h.2.2⟩, fun h => ⟨h.input, h.items, h.keys⟩⟩

theorem valid_eip1559 (tx : EIP1559Transaction) :
    eip1559.Valid tx ↔ Fits tx.input tx.accessList := by
  simp only [eip1559, iso, pair, fixed, u64, valid_action, valid_bytes, valid_accessList,
    valid_bool, true_and, and_true]
  exact ⟨fun h => ⟨h.1, h.2.1, h.2.2⟩, fun h => ⟨h.input, h.items, h.keys⟩⟩

theorem valid_transaction (tx : EthereumTransaction) :
    (transaction validSignature).Valid tx ↔ Encodable validSignature tx := by
  cases tx with
  | legacy tx =>
      refine (valid_legacy validSignature tx).trans ⟨?_, ?_⟩
      · intro h
        have none : 0 < 2 ^ 32 := by decide
        refine ⟨⟨h.1, none, fun item listed => absurd listed List.not_mem_nil⟩, ?_⟩
        intro legacy same
        cases same
        exact h.2
      · exact fun h => ⟨h.fits.input, h.signature tx rfl⟩
  | eip2930 tx =>
      exact (valid_eip2930 tx).trans ⟨fun h => ⟨h, by intro _ same; cases same⟩, Encodable.fits⟩
  | eip1559 tx =>
      exact (valid_eip1559 tx).trans ⟨fun h => ⟨h, by intro _ same; cases same⟩, Encodable.fits⟩

/-- The bytes behind the length of the extrinsic. -/
def transactBody (tx : EthereumTransaction) : Bytes :=
  extrinsicVersion :: palletIndex :: callIndex :: Scale.transaction tx

theorem length_transactBody (tx : EthereumTransaction) :
    (transactBody tx).length = proofSizeBaseCost tx + 1 := by
  simp only [transactBody, List.length_cons, proofSizeBaseCost]
  omega

theorem encode_transactExtrinsic (tx : EthereumTransaction) :
    (transactExtrinsic validSignature).encode tx = bytes.encode (transactBody tx) := by
  rw [encode_bytes, transactBody, ← encode_transaction validSignature]
  rfl

theorem valid_transactExtrinsic (tx : EthereumTransaction) :
    (transactExtrinsic validSignature).Valid tx ↔
      Encodable validSignature tx ∧ proofSizeBaseCost tx + 1 < 2 ^ 32 := by
  rw [← length_transactBody, ← valid_transaction, transactBody,
    ← encode_transaction validSignature]
  rfl

/-- The runtime reads a transaction from exactly the bytes of its extrinsic, and the node can
carry them as opaque ones: it neither fails to take them over nor changes them. -/
theorem transact_read_iff :
    (∀ bytes tx rest, (transactExtrinsic validSignature).read bytes = some (tx, rest) ↔
      (Encodable validSignature tx ∧ proofSizeBaseCost tx + 1 < 2 ^ 32) ∧
        bytes = Compact.encode (proofSizeBaseCost tx + 1) ++ transactBody tx ++ rest) ∧
    ∀ tx, proofSizeBaseCost tx + 1 < 2 ^ 32 →
      Wire.bytes.decodeAll (Compact.encode (proofSizeBaseCost tx + 1) ++ transactBody tx) =
        some (transactBody tx) := by
  constructor
  · intro bytes tx rest
    rw [read_eq_some_iff, valid_transactExtrinsic, encode_transactExtrinsic, encode_bytes,
      length_transactBody]
  · intro tx small
    rw [decodeAll_eq_some_iff, valid_bytes, encode_bytes, length_transactBody]
    exact ⟨small, rfl⟩

end TransactionWire
end Solochain
