import Solochain.Runtime.BlockResources
import Solochain.Runtime.Types

/-!
The fees of a block: what its signed extrinsics pay for what the block records of them.

Weight and length convert to the balance one to one and the multiplier stays one. Tips
are apart. An Ethereum transaction pays for its gas, so that its inclusion fee is waived.
-/
namespace Solochain
namespace BlockFees
open BlockResources

/-- `IdentityFee`, of a weight capped at that of a block. -/
def weightToFee (weight : Weight) : Balance := min weight.refTime expectedBlockWeight.refTime

def lengthToFee (length : Nat) : Balance := length

structure Signed where
  operational : Bool
  declared : Weight
  actual : Weight
  len : Nat
  paysFee : Bool
  deriving DecidableEq

def Signed.extrinsic (x : Signed) : Extrinsic :=
  ⟨if x.operational then .operational else .normal, x.declared, x.actual, x.len⟩

/-- `calc_actual_weight` -/
def Signed.actualWeight (x : Signed) : Weight :=
  ⟨min x.actual.refTime x.declared.refTime, min x.actual.proofSize x.declared.proofSize⟩

/-- The inclusion fee, once the weight that was not used is refunded. -/
def Signed.inclusionFee (baseExtrinsic : Weight) (x : Signed) : Balance :=
  weightToFee baseExtrinsic + lengthToFee x.len + weightToFee x.actualWeight

/-- A block with the fees that were burnt and those that were waived. -/
structure Collected where
  block : BlockState
  fees : Balance
  waived : Balance

def apply (baseExtrinsic : Weight) (s : Collected) (x : Signed) : Collected :=
  match prepare baseExtrinsic s.block x.extrinsic with
  | some next =>
      { block := postDispatch next x.extrinsic
        fees := s.fees + if x.paysFee then x.inclusionFee baseExtrinsic else 0
        waived := s.waived + if x.paysFee then 0 else x.inclusionFee baseExtrinsic }
  | none => s

/-- What the block records of its normal and operational extrinsics. -/
def recorded (s : BlockState) : Nat :=
  s.normal.refTime + s.operational.refTime + s.allExtrinsicsLen

theorem apply_block (baseExtrinsic : Weight) (s : Collected) (x : Signed) :
    (apply baseExtrinsic s x).block = step baseExtrinsic s.block (.extrinsic x.extrinsic) := by
  rw [apply, step]
  cases prepare baseExtrinsic s.block x.extrinsic <;> rfl

/-- The fee of an extrinsic that fits into a block is not capped. -/
theorem inclusionFee_eq {baseExtrinsic : Weight} (x : Signed)
    (fits : x.declared.refTime + baseExtrinsic.refTime ≤ expectedBlockWeight.refTime) :
    x.inclusionFee baseExtrinsic =
      baseExtrinsic.refTime + x.len + min x.actual.refTime x.declared.refTime := by
  have base : weightToFee baseExtrinsic = baseExtrinsic.refTime :=
    Nat.min_eq_left ((Nat.le_add_left _ _).trans fits)
  have used : weightToFee x.actualWeight = min x.actual.refTime x.declared.refTime :=
    Nat.min_eq_left ((Nat.min_le_right _ _).trans ((Nat.le_add_right _ _).trans fits))
  rw [Signed.inclusionFee, base, used, lengthToFee]

theorem len_added {s : BlockState} {cls : DispatchClass} {len next : Nat}
    (h : checkBlockLength s cls len = some next) : next = s.allExtrinsicsLen + len := by
  have limit := (checkBlockLength_eq_some h).2.trans (lengthLimit_le cls)
  rw [checkBlockLength] at h
  split at h
  · cases h
  · cases h
    have word : maxLength < 2 ^ 32 - 1 := by decide
    exact Nat.min_eq_left (((add_le_iff word).mp limit).trans word.le)

theorem normalMaxTotal_le_expected : normalMaxTotal.refTime ≤ expectedBlockWeight.refTime := by
  decide

/-- What is taken back after the dispatch leaves the base weight and the weight that was used. -/
theorem settled_refTime {before declared base actual used : Nat}
    (charged : used = before + (declared + base)) :
    used - (declared - actual) = before + (base + min actual declared) := by
  omega

theorem recorded_settled {baseExtrinsic : Weight} {s next : BlockState} {x : Signed}
    (prepared : prepare baseExtrinsic s x.extrinsic = some next) :
    recorded (postDispatch next x.extrinsic) = recorded s + x.inclusionFee baseExtrinsic := by
  obtain ⟨used, len, length, accrued, checked, rfl⟩ := prepare_eq_some prepared
  have added := len_added length
  have below := expected_lt_u64Max
  obtain ⟨operational, declared, actual, bytes, paysFee⟩ := x
  cases operational with
  | false =>
      have capped : used.refTime ≤ expectedBlockWeight.refTime :=
        checked.ordinary.1.trans normalMaxTotal_le_expected
      have charged : used.refTime = s.normal.refTime + (declared.refTime + baseExtrinsic.refTime) :=
        accrued_refTime rfl accrued (capped.trans_lt below)
      have fits : declared.refTime + baseExtrinsic.refTime ≤ expectedBlockWeight.refTime := by
        omega
      calc used.refTime - (declared.refTime - actual.refTime) + s.operational.refTime + len
          = recorded s + (baseExtrinsic.refTime + bytes + min actual.refTime declared.refTime) := by
            rw [settled_refTime charged, added, recorded]
            dsimp only [Signed.extrinsic]
            omega
        _ = _ := by rw [inclusionFee_eq ⟨false, declared, actual, bytes, paysFee⟩ fits]
  | true =>
      have capped : used.refTime ≤ expectedBlockWeight.refTime := checked.privileged.1
      have charged : used.refTime =
          s.operational.refTime + (declared.refTime + baseExtrinsic.refTime) :=
        accrued_refTime rfl accrued (capped.trans_lt below)
      have fits : declared.refTime + baseExtrinsic.refTime ≤ expectedBlockWeight.refTime := by
        omega
      calc s.normal.refTime + (used.refTime - (declared.refTime - actual.refTime)) + len
          = recorded s + (baseExtrinsic.refTime + bytes + min actual.refTime declared.refTime) := by
            rw [settled_refTime charged, added, recorded]
            dsimp only [Signed.extrinsic]
            omega
        _ = _ := by rw [inclusionFee_eq ⟨true, declared, actual, bytes, paysFee⟩ fits]

/-- Whatever the block has come to record since the start is paid for or waived. -/
theorem balanced_apply {baseExtrinsic : Weight} {start : Nat} {s : Collected}
    (h : s.fees + s.waived + start = recorded s.block) (x : Signed) :
    (apply baseExtrinsic s x).fees + (apply baseExtrinsic s x).waived + start =
      recorded (apply baseExtrinsic s x).block := by
  rw [apply]
  split
  · rename_i next prepared
    dsimp only
    rw [recorded_settled prepared, ← h]
    cases x.paysFee with
    | false =>
        rw [if_neg Bool.false_ne_true, if_neg Bool.false_ne_true, Nat.add_zero, ← Nat.add_assoc,
          Nat.add_right_comm]
    | true =>
        rw [if_pos rfl, if_pos rfl, Nat.add_zero, Nat.add_right_comm s.fees,
          Nat.add_right_comm]
  · exact h

/-- A whole block of fees is worth a fraction of a millicent. -/
theorem full_block_lt_millicents :
    expectedBlockWeight.refTime + maxLength < Currency.millicents := by
  decide

/-- What signed extrinsics pay in a block, with what is waived, is exactly what the block comes
to record of their weight and length, whichever it refuses: never more than its limits. -/
theorem block_fees (baseExtrinsic : Weight) (first : List Event) (xs : List Signed) :
    let s := Machine.run (step baseExtrinsic) .empty first
    let final := Machine.run (apply baseExtrinsic) ⟨s, 0, 0⟩ xs
    final.block = Machine.run (step baseExtrinsic) .empty
        (first ++ xs.map fun x => .extrinsic x.extrinsic) ∧
      final.fees + final.waived + recorded s = recorded final.block ∧
      final.fees + final.waived ≤ expectedBlockWeight.refTime + maxLength ∧
      final.fees + final.waived < Currency.millicents := by
  intro s final
  have block : final.block = Machine.run (step baseExtrinsic) .empty
      (first ++ xs.map fun x => .extrinsic x.extrinsic) := by
    rw [Machine.run_append]
    exact Machine.run_of_projected (apply_block baseExtrinsic) _ xs
  have balanced : final.fees + final.waived + recorded s = recorded final.block :=
    Machine.run_of_preserved
      (I := fun c : Collected => c.fees + c.waived + recorded s = recorded c.block)
      (fun _ x h => balanced_apply h x) (Nat.zero_add _) xs
  have sound : pool.Sound final.block.used := by
    rw [block]
    exact Machine.run_of_preserved (I := fun s : BlockState => pool.Sound s.used)
      (fun _ e h => sound_step baseExtrinsic h e) ⟨Nat.zero_le _, Nat.zero_le _⟩ _
  have short : final.block.allExtrinsicsLen ≤ maxLength := by
    have start : BlockState.empty.allExtrinsicsLen ≤ lengthLimit .normal + 0 := Nat.zero_le _
    rw [block]
    exact (len_run baseExtrinsic (Nat.zero_le _) start _).1
  have whole : recorded final.block ≤ expectedBlockWeight.refTime + maxLength :=
    Nat.add_le_add sound.capacity short
  have limit : final.fees + final.waived ≤ expectedBlockWeight.refTime + maxLength :=
    (Nat.le_add_right _ _).trans (balanced.le.trans whole)
  exact ⟨block, balanced, limit, limit.trans_lt full_block_lt_millicents⟩

end BlockFees
end Solochain
