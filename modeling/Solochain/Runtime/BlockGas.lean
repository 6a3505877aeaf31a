import Solochain.Runtime.BlockResources

/-!
The gas of a block beside everything else that a block takes in.

Hooks and inherents come first, and no weight is too much for them; the transactions
that follow are of the normal and the operational class, and each may be refused.
-/
namespace Solochain
namespace BlockGas
open BlockResources

inductive Mandatory
  | hook (weight : Weight)
  | inherent (declared actual : Weight) (len : Nat)

def Mandatory.event : Mandatory → Event
  | .hook weight => .hook weight
  | .inherent declared actual len => .extrinsic ⟨.mandatory, declared, actual, len⟩

/-- A call of `transact` with what is known of it after its execution. -/
structure Transact (baseExtrinsic : Weight) where
  gasLimit : Nat
  gasUsed : Nat
  /-- What stays recorded of the declared weight, if it is corrected at all. -/
  actual : Weight
  len : Nat
  gasUsed_le : gasUsed ≤ gasLimit
  actual_covers : (gasToWeight baseExtrinsic gasUsed true).refTime ≤ actual.refTime

inductive Transaction (baseExtrinsic : Weight)
  | ethereum (t : Transact baseExtrinsic)
  | other (operational : Bool) (declared actual : Weight) (len : Nat)

namespace Transaction
variable {baseExtrinsic : Weight}

def extrinsic : Transaction baseExtrinsic → Extrinsic
  | .ethereum t => ⟨.normal, transactWeight baseExtrinsic t.gasLimit, t.actual, t.len⟩
  | .other operational declared actual len =>
      ⟨if operational then .operational else .normal, declared, actual, len⟩

def gasUsed : Transaction baseExtrinsic → Nat
  | .ethereum t => t.gasUsed
  | .other _ _ _ _ => 0

end Transaction

/-- A block with the gas that its transactions have used. -/
structure Metered where
  block : BlockState
  gasUsed : Nat

def apply {baseExtrinsic : Weight} (s : Metered) (t : Transaction baseExtrinsic) : Metered :=
  match prepare baseExtrinsic s.block t.extrinsic with
  | some next => ⟨postDispatch next t.extrinsic, s.gasUsed + t.gasUsed⟩
  | none => s

def maximumSchedulerWeight : Weight := expectedBlockWeight.scale (Perbill.fromPercent 80)

theorem apply_block {baseExtrinsic : Weight} (s : Metered) (t : Transaction baseExtrinsic) :
    (apply s t).block = step baseExtrinsic s.block (.extrinsic t.extrinsic) := by
  rw [apply, step]
  cases prepare baseExtrinsic s.block t.extrinsic <;> rfl

/-- The weight of the gas is recorded, beside what hooks and inherents have taken. -/
structure Accounted (taken : Nat) (s : Metered) : Prop where
  paid : weightPerGas.refTime * s.gasUsed ≤ s.block.normal.refTime
  sound : pool.Sound s.block.used
  beside : s.block.normal.refTime + taken ≤ expectedBlockWeight.refTime ∨
    s.block.normal.refTime = 0
  taken : s.block.mandatory.refTime = taken

/-- An admitted extrinsic of the normal class, corrected after its dispatch. -/
theorem normal_settled {baseExtrinsic declared actual : Weight} {s next : BlockState} {len : Nat}
    (prepared : prepare baseExtrinsic s ⟨.normal, declared, actual, len⟩ = some next) :
    ∃ used : Weight, used.refTime = s.normal.refTime + (declared.refTime + baseExtrinsic.refTime) ∧
      pool.Ordinary s.used used.refTime ∧
      (postDispatch next ⟨.normal, declared, actual, len⟩).used =
        { s.used with ordinary := used.refTime - (declared.refTime - actual.refTime) } := by
  obtain ⟨used, _, _, accrued, checked, rfl⟩ := prepare_eq_some prepared
  have below : used.refTime < u64Max := checked.ordinary.1.trans_lt normalMaxTotal_lt_u64Max
  exact ⟨used, accrued_refTime rfl accrued below, checked.ordinary, rfl⟩

theorem accounted_normal {baseExtrinsic declared actual : Weight} {s next : BlockState}
    {len taken gasUsed more : Nat} (h : Accounted taken ⟨s, gasUsed⟩)
    (prepared : prepare baseExtrinsic s ⟨.normal, declared, actual, len⟩ = some next)
    (covers : weightPerGas.refTime * more ≤
      declared.refTime + baseExtrinsic.refTime - (declared.refTime - actual.refTime)) :
    Accounted taken ⟨postDispatch next ⟨.normal, declared, actual, len⟩, gasUsed + more⟩ := by
  obtain ⟨used, charged, ordinary, settled⟩ := normal_settled prepared
  have normal : (postDispatch next ⟨.normal, declared, actual, len⟩).normal.refTime =
      used.refTime - (declared.refTime - actual.refTime) := congrArg Reserve.Used.ordinary settled
  have forced : (postDispatch next ⟨.normal, declared, actual, len⟩).mandatory.refTime = taken :=
    (congrArg Reserve.Used.forced settled).trans h.taken
  have paid := h.paid
  refine ⟨?_, ?_, ?_, forced⟩
  · rw [Nat.mul_add, normal, charged]
    dsimp only at paid
    omega
  · rw [settled]
    exact ordinary.sound h.sound (Nat.sub_le _ _)
  · rw [normal]
    have before : s.used.forced = taken := h.taken
    obtain fits | none := ordinary.2
    · have whole : used.refTime + s.used.privileged + s.used.forced ≤
          expectedBlockWeight.refTime := fits
      exact Or.inl (by omega)
    · exact Or.inr (by omega)

theorem accounted_operational {baseExtrinsic declared actual : Weight} {s next : BlockState}
    {len taken gasUsed : Nat} (h : Accounted taken ⟨s, gasUsed⟩)
    (prepared : prepare baseExtrinsic s ⟨.operational, declared, actual, len⟩ = some next) :
    Accounted taken ⟨postDispatch next ⟨.operational, declared, actual, len⟩, gasUsed⟩ := by
  obtain ⟨used, _, _, _, checked, rfl⟩ := prepare_eq_some prepared
  exact ⟨h.paid, checked.privileged.sound h.sound (Nat.sub_le _ _), h.beside, h.taken⟩

/-- The weight that a transaction keeps pays for its gas: a limit whose weight saturates is not
admitted. -/
theorem transact_covers {baseExtrinsic : Weight} (t : Transact baseExtrinsic)
    (below : (transactWeight baseExtrinsic t.gasLimit).refTime + baseExtrinsic.refTime < u64Max) :
    weightPerGas.refTime * t.gasUsed ≤
      (transactWeight baseExtrinsic t.gasLimit).refTime + baseExtrinsic.refTime -
        ((transactWeight baseExtrinsic t.gasLimit).refTime - t.actual.refTime) := by
  have less := Nat.mul_le_mul_left weightPerGas.refTime t.gasUsed_le
  have covers : (transactWeight baseExtrinsic t.gasUsed).refTime ≤ t.actual.refTime :=
    t.actual_covers
  rw [transactWeight_refTime, Saturating.mul] at below covers
  rw [transactWeight_refTime, Saturating.mul]
  omega

theorem accounted_apply {baseExtrinsic : Weight} {taken : Nat} {s : Metered}
    (h : Accounted taken s) (t : Transaction baseExtrinsic) : Accounted taken (apply s t) := by
  rw [apply]
  split
  · rename_i next prepared
    cases t with
    | ethereum t =>
        obtain ⟨used, charged, ordinary, _⟩ := normal_settled prepared
        have capped : used.refTime ≤ normalMaxTotal.refTime := ordinary.1
        have below := normalMaxTotal_lt_u64Max
        exact accounted_normal h prepared (transact_covers t (by omega))
    | other operational declared actual len =>
        cases operational with
        | false => exact accounted_normal h prepared (Nat.zero_le _)
        | true => exact accounted_operational h prepared
  · exact h

theorem mandatory_normal (baseExtrinsic : Weight) (s : BlockState) (m : Mandatory) :
    (step baseExtrinsic s m.event).normal = s.normal := by
  cases m with
  | hook weight => rfl
  | inherent declared actual len =>
      rw [Mandatory.event, step]
      split
      · rename_i next prepared
        obtain ⟨used, _, _, _, _, rfl⟩ := prepare_eq_some prepared
        rfl
      · rfl

theorem accounted_mandatory (baseExtrinsic : Weight) (first : List Mandatory) :
    let s := Machine.run (step baseExtrinsic) .empty (first.map Mandatory.event)
    Accounted s.mandatory.refTime ⟨s, 0⟩ := by
  intro s
  have untouched : ∀ (s : BlockState) (e : Event), (∃ m : Mandatory, m.event = e) →
      s.normal = ⟨0, 0⟩ → (step baseExtrinsic s e).normal = ⟨0, 0⟩ := by
    rintro s _ ⟨m, rfl⟩ h
    rw [mandatory_normal, h]
  have none : s.normal = ⟨0, 0⟩ :=
    Machine.run_of_allowed (I := fun s : BlockState => s.normal = ⟨0, 0⟩) untouched rfl
      (fun e he => (List.mem_map.mp he).imp fun _ => And.right)
  have sound : pool.Sound s.used :=
    Machine.run_of_preserved (I := fun s : BlockState => pool.Sound s.used)
      (fun _ e h => sound_step baseExtrinsic h e) ⟨Nat.zero_le _, Nat.zero_le _⟩ _
  refine ⟨Nat.zero_le _, sound, Or.inr ?_, rfl⟩
  rw [none]

/-- What is left beside a full agenda of the scheduler. -/
theorem scheduled_gas :
    (expectedBlockWeight.refTime - maximumSchedulerWeight.refTime) / weightPerGas.refTime =
      20_000_000 := by
  decide

/-- Whatever hooks, inherents and other extrinsics a block takes in, and whichever of them it
refuses, its Ethereum transactions use at most the block gas limit, and at most what the hooks
and inherents before them leave of its time. -/
theorem block_gas (baseExtrinsic : Weight) (first : List Mandatory)
    (ts : List (Transaction baseExtrinsic)) :
    let s := Machine.run (step baseExtrinsic) .empty (first.map Mandatory.event)
    let final := Machine.run apply ⟨s, 0⟩ ts
    final.block = Machine.run (step baseExtrinsic) .empty
        (first.map Mandatory.event ++ ts.map fun t => .extrinsic t.extrinsic) ∧
      final.gasUsed ≤ blockGasLimit ∧
      final.gasUsed ≤
        (expectedBlockWeight.refTime - s.mandatory.refTime) / weightPerGas.refTime ∧
      (maximumSchedulerWeight.refTime ≤ s.mandatory.refTime → final.gasUsed ≤ 20_000_000) := by
  intro s final
  have accounted : Accounted s.mandatory.refTime final :=
    Machine.run_of_preserved (I := Accounted s.mandatory.refTime)
      (fun _ t h => accounted_apply h t)
      (accounted_mandatory baseExtrinsic first) ts
  have paid := accounted.paid
  have capped : final.block.normal.refTime ≤ normalMaxTotal.refTime := accounted.sound.cap
  have left : final.gasUsed ≤
      (expectedBlockWeight.refTime - s.mandatory.refTime) / weightPerGas.refTime := by
    refine (Nat.le_div_iff_mul_le weightPerGas_pos).mpr ?_
    rw [Nat.mul_comm]
    obtain beside | none := accounted.beside
    · exact paid.trans (Nat.le_sub_of_add_le beside)
    · exact (paid.trans none.le).trans (Nat.zero_le _)
  refine ⟨?_, ?_, left, fun scheduled => ?_⟩
  · rw [Machine.run_append]
    exact Machine.run_of_projected apply_block _ ts
  · refine Nat.le_of_mul_le_mul_left ?_ weightPerGas_pos
    rw [Nat.mul_comm _ blockGasLimit, blockGasLimit_priced]
    exact paid.trans capped
  · exact left.trans ((Nat.div_le_div_right (Nat.sub_le_sub_left scheduled _)).trans
      scheduled_gas.le)

end BlockGas
end Solochain
