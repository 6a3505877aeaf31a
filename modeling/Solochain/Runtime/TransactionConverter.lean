import Solochain.Library.Compact
import Solochain.Runtime.SelfContained

/-!
Ethereum transactions as extrinsics: the converter of the runtime, the one the
node instantiates at its opaque block, and the filter that takes the
transactions out again.

The body of an extrinsic is encoded by other crates. It is a parameter that
carries its law: what was encoded parses back.
-/
namespace Solochain
variable {Args Tx Signature : Type}

structure ExtrinsicBody (Args Tx Signature : Type) where
  encode : UncheckedExtrinsic Args Tx Signature → ByteVec
  parse : ByteVec → Option (UncheckedExtrinsic Args Tx Signature)
  parse_encode : ∀ xt, parse (encode xt) = some xt

/-- An unchecked extrinsic is its body behind a compact length. -/
def ExtrinsicBody.codec (body : ExtrinsicBody Args Tx Signature) :
    Codec (UncheckedExtrinsic Args Tx Signature) :=
  Codec.byteVec.refine body.parse body.encode body.parse_encode

/-- `OpaqueExtrinsic(Vec<u8>)`. -/
structure OpaqueExtrinsic where
  inner : ByteVec

def OpaqueExtrinsic.codec : Codec OpaqueExtrinsic :=
  Codec.byteVec.iso OpaqueExtrinsic.mk OpaqueExtrinsic.inner fun _ => rfl

def UncheckedExtrinsic.newUnsigned (function : RuntimeCall Args Tx) :
    UncheckedExtrinsic Args Tx Signature :=
  ⟨none, function⟩

/-- `ConvertTransactionRuntimeApi::convert_transaction`. -/
def convertTransaction (transaction : Tx) : UncheckedExtrinsic Args Tx Signature :=
  .newUnsigned (.ethereum (.transact transaction))

/-- The converter of the node, at a block whose extrinsics have the codec `block`.
`none` is the panic of its `expect`. -/
def TransactionConverter.convertTransaction {Extrinsic : Type}
    (body : ExtrinsicBody Args Tx Signature) (block : Codec Extrinsic) (transaction : Tx) :
    Option Extrinsic :=
  let extrinsic := UncheckedExtrinsic.newUnsigned (.ethereum (.transact transaction))
  let encoded := body.codec.encode extrinsic
  block.decode encoded

def extrinsicFilter (xts : List (UncheckedExtrinsic Args Tx Signature)) : List Tx :=
  xts.filterMap fun xt =>
    match xt.function with
    | .ethereum (.transact transaction) => some transaction
    | _ => none

/-- An extrinsic whose call is none of the Ethereum pallet. -/
def NonEthereum (Args Tx Signature : Type) : Type :=
  { xt : UncheckedExtrinsic Args Tx Signature // ∀ call, xt.function ≠ .ethereum call }

/-- Transactions among other extrinsics, as a block holds them after conversion. -/
def interleave (items : List (Tx ⊕ NonEthereum Args Tx Signature)) :
    List (UncheckedExtrinsic Args Tx Signature) :=
  items.map (Sum.elim convertTransaction Subtype.val)

theorem extrinsicFilter_cons_transact (transaction : Tx)
    (xt : UncheckedExtrinsic Args Tx Signature)
    (h : xt.function = .ethereum (.transact transaction))
    (xts : List (UncheckedExtrinsic Args Tx Signature)) :
    extrinsicFilter (xt :: xts) = transaction :: extrinsicFilter xts := by
  rw [extrinsicFilter, List.filterMap_cons, h]
  rfl

theorem extrinsicFilter_cons_other (xt : UncheckedExtrinsic Args Tx Signature)
    (h : xt.function.isTransact = false) (xts : List (UncheckedExtrinsic Args Tx Signature)) :
    extrinsicFilter (xt :: xts) = extrinsicFilter xts := by
  rw [extrinsicFilter, List.filterMap_cons]
  split
  · rfl
  · rename_i picked
    split at picked
    · rename_i same
      rw [same] at h
      cases h
    · cases picked

theorem eq_transact_of_isTransact {call : RuntimeCall Args Tx} (h : call.isTransact = true) :
    ∃ transaction, call = .ethereum (.transact transaction) := by
  cases call with
  | ethereum call =>
      cases call with
      | transact transaction => exact ⟨transaction, rfl⟩
      | other args => cases h
  | _ => cases h

/-- The calls of the transact extrinsics, in order, are the filtered transactions. -/
theorem map_extrinsicFilter (xts : List (UncheckedExtrinsic Args Tx Signature)) :
    (extrinsicFilter xts).map (fun transaction => .ethereum (.transact transaction)) =
      (xts.filter fun xt => xt.function.isTransact).map UncheckedExtrinsic.function := by
  induction xts with
  | nil => rfl
  | cons xt xts ih =>
      cases transact : xt.function.isTransact with
      | true =>
          obtain ⟨transaction, function⟩ := eq_transact_of_isTransact transact
          rw [extrinsicFilter_cons_transact transaction xt function, List.map_cons, ih,
            List.filter_cons, if_pos transact, List.map_cons, function]
      | false =>
          rw [extrinsicFilter_cons_other xt transact, ih, List.filter_cons,
            if_neg (Bool.eq_false_iff.mp transact)]

theorem NonEthereum.isTransact (xt : NonEthereum Args Tx Signature) :
    xt.val.function.isTransact = false := by
  cases transact : xt.val.function.isTransact with
  | false => rfl
  | true =>
      obtain ⟨transaction, function⟩ := eq_transact_of_isTransact transact
      exact absurd function (xt.property _)

theorem extrinsicFilter_interleave (items : List (Tx ⊕ NonEthereum Args Tx Signature)) :
    extrinsicFilter (interleave items) = items.filterMap Sum.getLeft? := by
  induction items with
  | nil => rfl
  | cons item items ih =>
      cases item with
      | inl transaction =>
          have head := extrinsicFilter_cons_transact transaction (convertTransaction transaction)
            rfl (interleave items)
          exact head.trans (congrArg (transaction :: ·) ih)
      | inr other =>
          have head := extrinsicFilter_cons_other _ other.isTransact (interleave items)
          exact head.trans ih

/-- At the block of the runtime the two converters are one. -/
theorem TransactionConverter.convert_eq_runtime (body : ExtrinsicBody Args Tx Signature)
    (transaction : Tx) :
    TransactionConverter.convertTransaction body body.codec transaction =
      some (Solochain.convertTransaction transaction) :=
  Codec.decode_encode body.codec _

theorem TransactionConverter.convert_opaque (body : ExtrinsicBody Args Tx Signature)
    (transaction : Tx) :
    TransactionConverter.convertTransaction body OpaqueExtrinsic.codec transaction =
      some ⟨body.encode (Solochain.convertTransaction transaction)⟩ :=
  Codec.decode_encode OpaqueExtrinsic.codec ⟨_⟩

end Solochain
