import Solochain.Library.Saturating

/-!
Block weights and gas: the limits set in the runtime configuration.

The builder of FRAME's block weights and the gas mapping of pallet_evm belong to
other crates and follow their documented arithmetic. FRAME's benchmarked weight
of an empty extrinsic stays a parameter.
-/
namespace Solochain

def u64Max : Nat := 2 ^ 64 - 1

structure Weight where
  refTime : Nat
  proofSize : Nat
  deriving DecidableEq

namespace Weight

def add (a b : Weight) : Weight := ⟨a.refTime + b.refTime, a.proofSize + b.proofSize⟩

def saturatingSub (a b : Weight) : Weight := ⟨a.refTime - b.refTime, a.proofSize - b.proofSize⟩

def saturatingMul (a : Weight) (n : Nat) : Weight :=
  ⟨Saturating.mul u64Max a.refTime n, Saturating.mul u64Max a.proofSize n⟩

def scale (p : Perbill) (a : Weight) : Weight := ⟨p.mul a.refTime, p.mul a.proofSize⟩

def anyGt (a b : Weight) : Bool := b.refTime < a.refTime || b.proofSize < a.proofSize

@[simp] theorem add_refTime (a b : Weight) : (a.add b).refTime = a.refTime + b.refTime := rfl

theorem refTime_le_of_not_anyGt {a b : Weight} (h : a.anyGt b = false) :
    a.refTime ≤ b.refTime := by
  simp only [anyGt, Bool.or_eq_false_iff, decide_eq_false_iff_not, Nat.not_lt] at h
  exact h.1

end Weight

def weightRefTimePerSecond : Nat := 1_000_000_000_000

def weightRefTimePerMillis : Nat := 1_000_000_000

/-- The limits of one dispatch class; `none` means unlimited. -/
structure WeightsPerClass where
  baseExtrinsic : Weight
  maxExtrinsic : Option Weight
  maxTotal : Option Weight
  deriving DecidableEq

structure BlockWeights where
  maxBlock : Weight
  normal : WeightsPerClass
  deriving DecidableEq

/-- Only the normal class: the other ones bound nothing that is modelled here. -/
def BlockWeights.withSensibleDefaults (baseExtrinsic expectedBlockWeight : Weight)
    (normalRatio : Perbill) : BlockWeights :=
  let maxTotal := expectedBlockWeight.scale normalRatio
  let initCost := expectedBlockWeight.scale (Perbill.fromPercent 10)
  { maxBlock := expectedBlockWeight
    normal :=
      { baseExtrinsic := baseExtrinsic
        maxExtrinsic := some ((maxTotal.saturatingSub initCost).saturatingSub baseExtrinsic)
        maxTotal := some maxTotal } }

def normalDispatchRatio : Perbill := Perbill.fromPercent 75

def runtimeBlockWeights (baseExtrinsic : Weight) : BlockWeights :=
  BlockWeights.withSensibleDefaults baseExtrinsic
    ⟨2 * weightRefTimePerSecond, u64Max⟩ normalDispatchRatio

def blockGasLimit : Nat := 75_000_000

def maxPovSize : Nat := 5 * 1024 * 1024

def weightMillisecsPerBlock : Nat := 2000

def gasLimitPovSizeRatio : Nat := blockGasLimit / maxPovSize

def weightPerGasOf (blockGasLimit : Nat) (txnRatio : Perbill) (millisecs : Nat) : Nat :=
  txnRatio.mul (Saturating.mul u64Max weightRefTimePerMillis millisecs) / blockGasLimit

def weightPerGas : Weight :=
  ⟨weightPerGasOf blockGasLimit normalDispatchRatio weightMillisecsPerBlock, 0⟩

def gasToWeight (baseExtrinsic : Weight) (gas : Nat) (withoutBaseWeight : Bool) : Weight :=
  let weight := weightPerGas.saturatingMul gas
  let weight := if withoutBaseWeight then weight.saturatingSub baseExtrinsic else weight
  if gasLimitPovSizeRatio > 0 then { weight with proofSize := gas / gasLimitPovSizeRatio }
  else weight

/-- What the call of an Ethereum transaction declares before dispatch. -/
def transactWeight (baseExtrinsic : Weight) (gasLimit : Nat) : Weight :=
  gasToWeight baseExtrinsic gasLimit true

def normalMaxTotal : Weight :=
  (Weight.mk (2 * weightRefTimePerSecond) u64Max).scale normalDispatchRatio

@[simp] theorem normal_maxTotal (baseExtrinsic : Weight) :
    (runtimeBlockWeights baseExtrinsic).normal.maxTotal = some normalMaxTotal := rfl

/-- The price of gas divides the capacity without a remainder, so no gas is
given away by rounding the price down. -/
theorem blockGasLimit_priced :
    blockGasLimit * weightPerGas.refTime = normalMaxTotal.refTime := by
  decide

theorem weightPerGas_pos : 0 < weightPerGas.refTime := by decide

theorem normalMaxTotal_lt_u64Max : normalMaxTotal.refTime < u64Max := by decide

theorem transactWeight_refTime (baseExtrinsic : Weight) (gasLimit : Nat) :
    (transactWeight baseExtrinsic gasLimit).refTime =
      Saturating.mul u64Max weightPerGas.refTime gasLimit - baseExtrinsic.refTime := by
  simp only [transactWeight, gasToWeight]
  simp only [if_true]
  split <;> rfl

end Solochain
