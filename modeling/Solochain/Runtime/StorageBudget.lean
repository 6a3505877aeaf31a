import Solochain.Runtime.ExtrinsicLimit
import Solochain.Runtime.GasBudget

/-!
What the gas of a block buys besides computation: proof size and storage growth.

pallet_evm charges each byte of either at a fixed ratio of gas. The ratios are the
quotients of the block gas limit and the size of which a block is allowed, rounded
down, so that whole blocks come out a little above those sizes.
-/
namespace Solochain

/-- The maximum storage growth per block in bytes. -/
def maxStorageGrowth : Nat := 400 * 1024

def gasLimitStorageGrowthRatio : Nat := blockGasLimit / maxStorageGrowth

/-- An extrinsic of the normal class with the bytes its EVM execution recorded. -/
structure MeteredExtrinsic (baseExtrinsic : Weight) where
  normal : NormalExtrinsic baseExtrinsic
  proofSize : Nat
  storageGrowth : Nat
  proofSize_paid : proofSize * gasLimitPovSizeRatio ≤ normal.gasUsed
  storageGrowth_paid : storageGrowth * gasLimitStorageGrowthRatio ≤ normal.gasUsed

namespace MeteredExtrinsic
variable {baseExtrinsic : Weight}

def totalProofSize (xts : List (MeteredExtrinsic baseExtrinsic)) : Nat :=
  (xts.map MeteredExtrinsic.proofSize).sum

def totalStorageGrowth (xts : List (MeteredExtrinsic baseExtrinsic)) : Nat :=
  (xts.map MeteredExtrinsic.storageGrowth).sum

/-- An Ethereum transaction that spends all its gas on bytes of both kinds. -/
def filling (baseExtrinsic : Weight) (gas : Nat) (gas_le : gas ≤ u64Max) :
    MeteredExtrinsic baseExtrinsic where
  normal := .ethereum (.uncorrected baseExtrinsic gas gas gas_le (Nat.le_refl gas))
  proofSize := gas / gasLimitPovSizeRatio
  storageGrowth := gas / gasLimitStorageGrowthRatio
  proofSize_paid := Nat.div_mul_le_self gas _
  storageGrowth_paid := Nat.div_mul_le_self gas _

/-- The gas of a block pays for the bytes for which its extrinsics pay. -/
theorem total_le (bytes : MeteredExtrinsic baseExtrinsic → Nat) {ratio : Nat} (pos : 0 < ratio)
    (paid : ∀ x, bytes x * ratio ≤ x.normal.gasUsed) {total final : Weight}
    {xts : List (MeteredExtrinsic baseExtrinsic)}
    (admitted : applyNormals baseExtrinsic total (xts.map MeteredExtrinsic.normal) = some final) :
    (xts.map bytes).sum ≤ blockGasLimit / ratio := by
  obtain ⟨items, used, settled⟩ := applyNormals_metered admitted
  have spent : (xts.map bytes).sum * ratio ≤ (items.map Metering.Item.used).sum :=
    calc (xts.map bytes).sum * ratio = (xts.map fun x => bytes x * ratio).sum :=
          (List.sum_map_mul_right xts bytes ratio).symm
      _ ≤ (xts.map fun x => x.normal.gasUsed).sum := List.sum_le_sum fun x _ => paid x
      _ = (items.map Metering.Item.used).sum := by
          rw [used, List.map_map]
          rfl
  refine (Nat.le_div_iff_mul_le pos).mpr (spent.trans ?_)
  by_cases empty : items = []
  · rw [empty]
    exact Nat.zero_le _
  · have capped := Metering.used_le_capacity (Nat.zero_le _) empty settled
    rw [nsmul_eq_mul, Nat.cast_id, ← blockGasLimit_priced] at capped
    exact Nat.le_of_mul_le_mul_right capped weightPerGas_pos

theorem applyNormal_of_fits {total : Weight} {x : NormalExtrinsic baseExtrinsic}
    (fits : (total.add (x.declared.add baseExtrinsic)).anyGt normalMaxTotal = false) :
    applyNormal baseExtrinsic total x = some (total.add x.recorded) := by
  have admitted : admitNormal (runtimeBlockWeights baseExtrinsic).normal total x.declared =
      some (total.add (x.declared.add baseExtrinsic)) := if_neg (Bool.eq_false_iff.mp fits)
  rw [applyNormal, admitted, Option.map_some]

theorem filling_weight (gas : Nat) (gas_le : gas ≤ blockGasLimit) (word : gas ≤ u64Max)
    (base : baseExtrinsic.refTime ≤ weightPerGas.refTime * gas)
    (proves : baseExtrinsic.proofSize = 0) :
    (filling baseExtrinsic gas word).normal.declared.add baseExtrinsic =
        ⟨weightPerGas.refTime * gas, gas / gasLimitPovSizeRatio⟩ ∧
      (filling baseExtrinsic gas word).normal.recorded =
        ⟨weightPerGas.refTime * gas, gas / gasLimitPovSizeRatio⟩ := by
  have time : ((transactWeight baseExtrinsic gas).add baseExtrinsic).refTime =
      weightPerGas.refTime * gas := by
    rw [Weight.add_refTime, transactWeight_refTime, priced_of_le gas_le]
    exact Nat.sub_add_cancel base
  have size : ((transactWeight baseExtrinsic gas).add baseExtrinsic).proofSize =
      gas / gasLimitPovSizeRatio := by
    rw [Weight.add, proves]
    exact transactWeight_proofSize baseExtrinsic gas
  have weight : (transactWeight baseExtrinsic gas).add baseExtrinsic =
      ⟨weightPerGas.refTime * gas, gas / gasLimitPovSizeRatio⟩ := by
    rw [← time, ← size]
  exact ⟨weight, weight⟩

/-- Half of the block gas limit. -/
def halfBlockGas : Nat := blockGasLimit / 2

def fillingPair (baseExtrinsic : Weight) : List (MeteredExtrinsic baseExtrinsic) :=
  [filling baseExtrinsic halfBlockGas (by decide), filling baseExtrinsic halfBlockGas (by decide)]

theorem halfBlockGas_priced :
    weightPerGas.refTime * halfBlockGas + weightPerGas.refTime * halfBlockGas =
      normalMaxTotal.refTime := by
  decide

theorem halfBlockGas_proofSize :
    halfBlockGas / gasLimitPovSizeRatio + halfBlockGas / gasLimitPovSizeRatio =
      blockGasLimit / gasLimitPovSizeRatio := by
  decide

theorem povSize_fits : blockGasLimit / gasLimitPovSizeRatio ≤ normalMaxTotal.proofSize := by decide

theorem fillingPair_admitted (base : baseExtrinsic.refTime ≤ weightPerGas.refTime * halfBlockGas)
    (proves : baseExtrinsic.proofSize = 0) :
    applyNormals baseExtrinsic ⟨0, 0⟩ ((fillingPair baseExtrinsic).map MeteredExtrinsic.normal) =
      some ⟨normalMaxTotal.refTime, blockGasLimit / gasLimitPovSizeRatio⟩ := by
  obtain ⟨declared, recorded⟩ :=
    filling_weight halfBlockGas (by decide) (by decide) base proves
  have apply (total : Weight)
      (refTime : total.refTime + weightPerGas.refTime * halfBlockGas ≤ normalMaxTotal.refTime)
      (proofSize : total.proofSize + halfBlockGas / gasLimitPovSizeRatio ≤
        normalMaxTotal.proofSize) :
      applyNormal baseExtrinsic total (filling baseExtrinsic halfBlockGas (by decide)).normal =
        some ⟨total.refTime + weightPerGas.refTime * halfBlockGas,
          total.proofSize + halfBlockGas / gasLimitPovSizeRatio⟩ := by
    rw [applyNormal_of_fits, recorded, Weight.add]
    rw [declared]
    exact (Weight.anyGt_eq_false_iff _ _).mpr ⟨refTime, proofSize⟩
  have time := halfBlockGas_priced
  have size := halfBlockGas_proofSize
  have limit := povSize_fits
  have first := apply ⟨0, 0⟩ (by dsimp only; omega) (by dsimp only; omega)
  simp only [Nat.zero_add] at first
  have second := apply ⟨weightPerGas.refTime * halfBlockGas, halfBlockGas / gasLimitPovSizeRatio⟩
    (by dsimp only; omega) (by dsimp only; omega)
  simp only [time, size] at second
  simp only [fillingPair, List.map_cons, List.map_nil, applyNormals, List.foldlM_cons,
    List.foldlM_nil, first, second, Option.bind_eq_bind, Option.bind_some, Option.pure_def]

theorem fillingPair_fits (proves : baseExtrinsic.proofSize = 0) :
    ∀ x ∈ fillingPair baseExtrinsic,
      (runtimeBlockWeights baseExtrinsic).checkExtrinsicLimit x.normal.declared = true := by
  have fits : (runtimeBlockWeights baseExtrinsic).checkExtrinsicLimit
      (transactWeight baseExtrinsic halfBlockGas) = true := by
    rw [BlockWeights.checkExtrinsicLimit, normal_maxExtrinsic, Bool.not_eq_true',
      Weight.anyGt_eq_false_iff, transactWeight_refTime, transactWeight_proofSize,
      priced_of_le (by decide)]
    simp only [Weight.saturatingSub, proves, Nat.sub_zero]
    exact ⟨Nat.sub_le_sub_right (by decide) _, by decide⟩
  intro x hx
  rw [List.mem_pair.mp hx |>.elim id id]
  exact fits

theorem fillingPair_total (bytes : MeteredExtrinsic baseExtrinsic → Nat) :
    ((fillingPair baseExtrinsic).map bytes).sum =
      bytes (filling baseExtrinsic halfBlockGas (by decide)) +
        bytes (filling baseExtrinsic halfBlockGas (by decide)) := by
  simp only [fillingPair, List.map_cons, List.map_nil, List.sum_cons, List.sum_nil, Nat.add_zero]

end MeteredExtrinsic
end Solochain
