import Mathlib.Data.Nat.Cast.Basic
import Solochain.Library.Metering
import Solochain.Runtime.Limits

/-!
Gas against weight: what the weight limit of the normal class leaves to Ethereum
transactions.

An extrinsic carries what happened to it: what it declared, what the post-dispatch
correction left recorded, and the gas it used. The bounds between them are
fields, so that only corrections that pallet_ethereum and FRAME make can be
written down.
-/
namespace Solochain

structure EthereumExtrinsic (baseExtrinsic : Weight) where
  gasLimit : Nat
  gasUsed : Nat
  recorded : Weight
  gasLimit_le : gasLimit ≤ u64Max
  gasUsed_le : gasUsed ≤ gasLimit
  recorded_le : recorded.refTime ≤
    ((transactWeight baseExtrinsic gasLimit).add baseExtrinsic).refTime
  recorded_covers : (weightPerGas.saturatingMul gasUsed).refTime ≤ recorded.refTime

def EthereumExtrinsic.uncorrected (baseExtrinsic : Weight) (gasLimit gasUsed : Nat)
    (gasLimit_le : gasLimit ≤ u64Max) (gasUsed_le : gasUsed ≤ gasLimit) :
    EthereumExtrinsic baseExtrinsic where
  gasLimit := gasLimit
  gasUsed := gasUsed
  recorded := (transactWeight baseExtrinsic gasLimit).add baseExtrinsic
  gasLimit_le := gasLimit_le
  gasUsed_le := gasUsed_le
  recorded_le := Nat.le_refl _
  recorded_covers := by
    have monotone := Saturating.mul_le_mul u64Max weightPerGas.refTime gasUsed_le
    rw [Weight.add_refTime, transactWeight_refTime]
    exact monotone.trans le_tsub_add

structure OtherExtrinsic (baseExtrinsic : Weight) where
  declared : Weight
  recorded : Weight
  recorded_le : recorded.refTime ≤ (declared.add baseExtrinsic).refTime

inductive NormalExtrinsic (baseExtrinsic : Weight)
  | ethereum (xt : EthereumExtrinsic baseExtrinsic)
  | other (xt : OtherExtrinsic baseExtrinsic)

namespace NormalExtrinsic
variable {baseExtrinsic : Weight}

def declared : NormalExtrinsic baseExtrinsic → Weight
  | .ethereum xt => transactWeight baseExtrinsic xt.gasLimit
  | .other xt => xt.declared

def recorded : NormalExtrinsic baseExtrinsic → Weight
  | .ethereum xt => xt.recorded
  | .other xt => xt.recorded

def gasUsed : NormalExtrinsic baseExtrinsic → Nat
  | .ethereum xt => xt.gasUsed
  | .other _ => 0

theorem recorded_le (x : NormalExtrinsic baseExtrinsic) :
    x.recorded.refTime ≤ (x.declared.add baseExtrinsic).refTime := by
  cases x with
  | ethereum xt => exact xt.recorded_le
  | other xt => exact xt.recorded_le

theorem recorded_covers (x : NormalExtrinsic baseExtrinsic) :
    Saturating.mul u64Max weightPerGas.refTime x.gasUsed ≤ x.recorded.refTime := by
  cases x with
  | ethereum xt => exact xt.recorded_covers
  | other xt => simp [gasUsed, Saturating.mul]

end NormalExtrinsic

def admitNormal (limits : WeightsPerClass) (total declared : Weight) : Option Weight :=
  let next := total.add (declared.add limits.baseExtrinsic)
  match limits.maxTotal with
  | some maxTotal => if next.anyGt maxTotal then none else some next
  | none => some next

/-- Admission, dispatch and correction of one extrinsic: the total of the normal
class afterwards. -/
def applyNormal (baseExtrinsic : Weight) (total : Weight)
    (x : NormalExtrinsic baseExtrinsic) : Option Weight :=
  (admitNormal (runtimeBlockWeights baseExtrinsic).normal total x.declared).map
    fun _ => total.add x.recorded

def applyNormals (baseExtrinsic : Weight) (total : Weight)
    (xts : List (NormalExtrinsic baseExtrinsic)) : Option Weight :=
  xts.foldlM (applyNormal baseExtrinsic) total

def totalGasUsed {baseExtrinsic : Weight} (xts : List (NormalExtrinsic baseExtrinsic)) : Nat :=
  (xts.map NormalExtrinsic.gasUsed).sum

theorem applyNormal_eq_some {baseExtrinsic total total' : Weight}
    {x : NormalExtrinsic baseExtrinsic} (h : applyNormal baseExtrinsic total x = some total') :
    total' = total.add x.recorded ∧
      total.refTime + (x.declared.add baseExtrinsic).refTime ≤ normalMaxTotal.refTime := by
  simp only [applyNormal, admitNormal] at h
  simp only [normal_maxTotal] at h
  split at h
  · exact absurd h (Option.some_ne_none total').symm
  · rename_i fits
    refine ⟨(Option.some.inj h).symm, ?_⟩
    exact Weight.refTime_le_of_not_anyGt (Bool.eq_false_iff.mpr fits)

/-- The admission limit excludes every gas amount whose weight saturates: what an
admitted extrinsic has recorded pays the unit price for all the gas it used. -/
theorem admitted_pays {baseExtrinsic total total' : Weight}
    {x : NormalExtrinsic baseExtrinsic} (h : applyNormal baseExtrinsic total x = some total') :
    x.gasUsed • weightPerGas.refTime ≤ x.recorded.refTime := by
  have fits := (applyNormal_eq_some h).2
  have covers := x.recorded_covers
  have below : Saturating.mul u64Max weightPerGas.refTime x.gasUsed < u64Max := by
    have recorded := x.recorded_le
    have limit := normalMaxTotal_lt_u64Max
    omega
  rw [Saturating.mul_eq_of_lt below] at covers
  rwa [nsmul_eq_mul, Nat.cast_id, Nat.mul_comm]

theorem applyNormals_metered {baseExtrinsic total final : Weight}
    {xts : List (NormalExtrinsic baseExtrinsic)}
    (h : applyNormals baseExtrinsic total xts = some final) :
    ∃ items : List (Metering.Item weightPerGas.refTime),
      items.map Metering.Item.used = xts.map NormalExtrinsic.gasUsed ∧
        Metering.settle normalMaxTotal.refTime total.refTime items = some final.refTime := by
  induction xts generalizing total with
  | nil =>
      have same : total = final := Option.some.inj h
      subst same
      exact ⟨[], rfl, rfl⟩
  | cons x xts ih =>
      obtain ⟨middle, first, rest⟩ := Option.bind_eq_some_iff.mp h
      obtain ⟨rfl, fits⟩ := applyNormal_eq_some first
      obtain ⟨items, used, settled⟩ := ih rest
      let item : Metering.Item weightPerGas.refTime :=
        { charged := (x.declared.add baseExtrinsic).refTime
          kept := x.recorded.refTime
          used := x.gasUsed
          kept_le := x.recorded_le
          paid := admitted_pays first }
      refine ⟨item :: items, ?_, ?_⟩
      · simp only [List.map_cons, used, item]
      · rw [Metering.settle, if_pos fits]
        exact settled

/-- Whatever extrinsics of the normal class a block admits, in whatever order, its
Ethereum transactions use at most the block gas limit. -/
theorem totalGasUsed_le_blockGasLimit (baseExtrinsic total final : Weight)
    (xts : List (NormalExtrinsic baseExtrinsic))
    (h : applyNormals baseExtrinsic total xts = some final) :
    totalGasUsed xts ≤ blockGasLimit := by
  cases xts with
  | nil => exact Nat.zero_le _
  | cons x xts =>
      obtain ⟨items, used, settled⟩ := applyNormals_metered h
      have paid := Metering.used_paid settled
      have capped : final.refTime ≤ normalMaxTotal.refTime := by
        cases items with
        | nil => simp at used
        | cons i is => exact Metering.final_le_capacity_cons settled
      rw [used, nsmul_eq_mul, Nat.cast_id] at paid
      have bound : totalGasUsed (x :: xts) * weightPerGas.refTime ≤
          blockGasLimit * weightPerGas.refTime := by
        rw [blockGasLimit_priced]
        exact (Nat.le_add_left _ _).trans (paid.trans capped)
      exact Nat.le_of_mul_le_mul_right bound weightPerGas_pos

def sampleNormals : List (NormalExtrinsic ⟨107_074_000, 0⟩) :=
  [.ethereum
      { gasLimit := 50_000_000
        gasUsed := 21_000
        recorded := ⟨527_074_000, 0⟩
        gasLimit_le := by decide
        gasUsed_le := by decide
        recorded_le := by decide
        recorded_covers := by decide },
    .other { declared := ⟨1_000_000, 0⟩, recorded := ⟨108_074_000, 0⟩, recorded_le := by decide },
    .ethereum (.uncorrected _ 70_000_000 70_000_000 (by decide) (by decide))]

theorem totalGasUsed_le_blockGasLimit_sample :
    applyNormals ⟨107_074_000, 0⟩ ⟨0, 0⟩ sampleNormals = some ⟨1_400_635_148_000, 5_000_000⟩ ∧
      totalGasUsed sampleNormals ≤ blockGasLimit :=
  have admitted : applyNormals ⟨107_074_000, 0⟩ ⟨0, 0⟩ sampleNormals =
    some ⟨1_400_635_148_000, 5_000_000⟩ := by decide
  ⟨admitted, totalGasUsed_le_blockGasLimit _ _ _ _ admitted⟩

end Solochain
