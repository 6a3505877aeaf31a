import Solochain.Runtime.Limits

/-!
The two limits that a single Ethereum transaction meets: the gas limit of a block
and the weight limit of an extrinsic.

The first is the whole capacity of the normal class, in gas. The second leaves
out the tenth of the block that is kept for initialization.
-/
namespace Solochain

/-- `CheckWeight::check_extrinsic_limit`. -/
def BlockWeights.checkExtrinsicLimit (weights : BlockWeights) (declared : Weight) : Bool :=
  match weights.normal.maxExtrinsic with
  | some max => !declared.anyGt max
  | none => true

def normalMaxExtrinsic : Weight :=
  normalMaxTotal.saturatingSub
    ((Weight.mk (2 * weightRefTimePerSecond) u64Max).scale (Perbill.fromPercent 10))

/-- The benchmarked weight of an empty extrinsic: it proves nothing, and leaves
room for a call, as the builder of the limits checks. -/
structure BaseExtrinsicWeight (baseExtrinsic : Weight) : Prop where
  proofSize_eq : baseExtrinsic.proofSize = 0
  refTime_le : baseExtrinsic.refTime ≤ normalMaxExtrinsic.refTime

def maxTransactionGas : Nat := 65_000_000

@[simp] theorem normal_maxExtrinsic (baseExtrinsic : Weight) :
    (runtimeBlockWeights baseExtrinsic).normal.maxExtrinsic =
      some (normalMaxExtrinsic.saturatingSub baseExtrinsic) := rfl

theorem maxTransactionGas_priced :
    weightPerGas.refTime * maxTransactionGas = normalMaxExtrinsic.refTime := by
  decide

theorem Weight.anyGt_eq_false_iff (a b : Weight) :
    a.anyGt b = false ↔ a.refTime ≤ b.refTime ∧ a.proofSize ≤ b.proofSize := by
  simp only [anyGt, Bool.or_eq_false_iff, decide_eq_false_iff_not, Nat.not_lt]

theorem transactWeight_proofSize (baseExtrinsic : Weight) (gasLimit : Nat) :
    (transactWeight baseExtrinsic gasLimit).proofSize = gasLimit / gasLimitPovSizeRatio := by
  rfl

theorem priced_of_le {gasLimit : Nat} (h : gasLimit ≤ blockGasLimit) :
    Saturating.mul u64Max weightPerGas.refTime gasLimit = weightPerGas.refTime * gasLimit := by
  refine Nat.min_eq_left ?_
  calc weightPerGas.refTime * gasLimit ≤ weightPerGas.refTime * blockGasLimit :=
        Nat.mul_le_mul_left _ h
    _ ≤ u64Max := by decide

theorem proofSize_fits {gasLimit : Nat} (h : gasLimit ≤ blockGasLimit) :
    gasLimit / gasLimitPovSizeRatio ≤ normalMaxExtrinsic.proofSize :=
  calc gasLimit / gasLimitPovSizeRatio ≤ blockGasLimit / gasLimitPovSizeRatio :=
        Nat.div_le_div_right h
    _ ≤ normalMaxExtrinsic.proofSize := by decide

end Solochain
