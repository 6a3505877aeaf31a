import Solochain.Library.Machine
import Solochain.Library.Reserve
import Solochain.Runtime.ExtrinsicLimit

/-!
What a block admits of each dispatch class, by weight and by length.

The checks are those of the weight extension of FRAME, with the limits that the runtime
configures. Hooks and inherents are mandatory and are never refused by weight.
-/
namespace Solochain

namespace Weight

def saturatingAdd (a b : Weight) : Weight :=
  ⟨Saturating.add u64Max a.refTime b.refTime, Saturating.add u64Max a.proofSize b.proofSize⟩

def checkedAdd (a b : Weight) : Option Weight :=
  if a.refTime + b.refTime ≤ u64Max ∧ a.proofSize + b.proofSize ≤ u64Max then some (a.add b)
  else none

end Weight

namespace BlockResources

inductive DispatchClass
  | normal
  | operational
  | mandatory
  deriving DecidableEq

structure ClassLimits where
  baseExtrinsic : Weight
  maxExtrinsic : Option Weight
  maxTotal : Option Weight
  reserved : Option Weight
  deriving DecidableEq

def expectedBlockWeight : Weight := ⟨2 * weightRefTimePerSecond, u64Max⟩

def operationalReserved : Weight := expectedBlockWeight.saturatingSub normalMaxTotal

/-- `BlockWeights::with_sensible_defaults`, for every class. -/
def perClass (baseExtrinsic : Weight) : DispatchClass → ClassLimits
  | .normal =>
      { baseExtrinsic := baseExtrinsic
        maxExtrinsic := (runtimeBlockWeights baseExtrinsic).normal.maxExtrinsic
        maxTotal := (runtimeBlockWeights baseExtrinsic).normal.maxTotal
        reserved := some ⟨0, 0⟩ }
  | .operational =>
      let initCost := expectedBlockWeight.scale (Perbill.fromPercent 10)
      { baseExtrinsic := baseExtrinsic
        maxExtrinsic := some
          ((expectedBlockWeight.saturatingSub initCost).saturatingSub baseExtrinsic)
        maxTotal := some expectedBlockWeight
        reserved := some operationalReserved }
  | .mandatory =>
      { baseExtrinsic := baseExtrinsic
        maxExtrinsic := none
        maxTotal := none
        reserved := none }

def maxLength : Nat := 5 * 1024 * 1024

/-- `RuntimeBlockLength` -/
def lengthLimit : DispatchClass → Nat
  | .normal => normalDispatchRatio.mul maxLength
  | .operational | .mandatory => maxLength

theorem lengthLimit_le (cls : DispatchClass) : lengthLimit cls ≤ maxLength := by
  cases cls <;> decide

/-- `BlockWeight` and `AllExtrinsicsLen` of `frame_system`. -/
structure BlockState where
  normal : Weight
  operational : Weight
  mandatory : Weight
  allExtrinsicsLen : Nat
  deriving DecidableEq

namespace BlockState

def empty : BlockState := ⟨⟨0, 0⟩, ⟨0, 0⟩, ⟨0, 0⟩, 0⟩

def get (s : BlockState) : DispatchClass → Weight
  | .normal => s.normal
  | .operational => s.operational
  | .mandatory => s.mandatory

def set (s : BlockState) (weight : Weight) : DispatchClass → BlockState
  | .normal => { s with normal := weight }
  | .operational => { s with operational := weight }
  | .mandatory => { s with mandatory := weight }

def total (s : BlockState) : Weight :=
  (s.normal.saturatingAdd s.operational).saturatingAdd s.mandatory

end BlockState

structure Extrinsic where
  cls : DispatchClass
  declared : Weight
  /-- What the dispatch reports to have used. -/
  actual : Weight
  len : Nat
  deriving DecidableEq

def exceeds (limit : Option Weight) (weight : Weight) : Bool :=
  match limit with
  | some max => weight.anyGt max
  | none => false

def accrue (limits : ClassLimits) (used charge : Weight) : Option Weight :=
  if limits.maxTotal.isNone && limits.reserved.isNone then some (used.saturatingAdd charge)
  else used.checkedAdd charge

/-- `calculate_consumed_weight`: the length counts as proof size. -/
def checkBlockWeight (limits : ClassLimits) (s : BlockState) (xt : Extrinsic) :
    Option BlockState := do
  let charge := (xt.declared.saturatingAdd limits.baseExtrinsic).saturatingAdd ⟨0, xt.len⟩
  let used ← accrue limits (s.get xt.cls) charge
  let next := s.set used xt.cls
  if exceeds limits.maxTotal used then none
  else if next.total.anyGt expectedBlockWeight && exceeds limits.reserved used then none
  else some next

def checkBlockLength (s : BlockState) (cls : DispatchClass) (len : Nat) : Option Nat :=
  let next := Saturating.add (2 ^ 32 - 1) s.allExtrinsicsLen len
  if next > lengthLimit cls then none else some next

def prepare (baseExtrinsic : Weight) (s : BlockState) (xt : Extrinsic) : Option BlockState := do
  let allExtrinsicsLen ← checkBlockLength s xt.cls xt.len
  if exceeds (perClass baseExtrinsic xt.cls).maxExtrinsic xt.declared then none
  else
    let next ← checkBlockWeight (perClass baseExtrinsic xt.cls) s xt
    some { next with allExtrinsicsLen := allExtrinsicsLen }

/-- The unspent part of the declared weight is given back. -/
def postDispatch (s : BlockState) (xt : Extrinsic) : BlockState :=
  s.set ((s.get xt.cls).saturatingSub (xt.declared.saturatingSub xt.actual)) xt.cls

inductive Event
  | extrinsic (xt : Extrinsic)
  | hook (weight : Weight)
  deriving DecidableEq

def step (baseExtrinsic : Weight) (s : BlockState) : Event → BlockState
  | .extrinsic xt =>
      match prepare baseExtrinsic s xt with
      | some next => postDispatch next xt
      | none => s
  | .hook weight => s.set (s.mandatory.saturatingAdd weight) .mandatory

theorem add_le_iff {limit bound a b : Nat} (below : bound < limit) :
    Saturating.add limit a b ≤ bound ↔ a + b ≤ bound := by
  rw [Saturating.add]
  omega

theorem expected_lt_u64Max : expectedBlockWeight.refTime < u64Max := by decide

/-- The computation time of a block. -/
def pool : Reserve.Pool where
  capacity := expectedBlockWeight.refTime
  cap := normalMaxTotal.refTime
  reserve := operationalReserved.refTime
  fits := by decide

def BlockState.used (s : BlockState) : Reserve.Used where
  ordinary := s.normal.refTime
  privileged := s.operational.refTime
  forced := s.mandatory.refTime

theorem total_le {s : BlockState} (h : s.total.anyGt expectedBlockWeight = false) :
    s.normal.refTime + s.operational.refTime + s.mandatory.refTime ≤
      expectedBlockWeight.refTime := by
  have bound := Weight.refTime_le_of_not_anyGt h
  have inner : Saturating.add u64Max s.normal.refTime s.operational.refTime + s.mandatory.refTime ≤
      expectedBlockWeight.refTime := (add_le_iff expected_lt_u64Max).mp bound
  have first : s.normal.refTime + s.operational.refTime ≤ expectedBlockWeight.refTime :=
    (add_le_iff expected_lt_u64Max).mp ((Nat.le_add_right _ _).trans inner)
  have same : Saturating.add u64Max s.normal.refTime s.operational.refTime =
      s.normal.refTime + s.operational.refTime :=
    Nat.min_eq_left (first.trans expected_lt_u64Max.le)
  rwa [same] at inner

/-- What an admission has checked. -/
structure Checked (limits : ClassLimits) (s : BlockState) (cls : DispatchClass) (used : Weight) :
    Prop where
  maxTotal : exceeds limits.maxTotal used = false
  shared : (s.set used cls).total.anyGt expectedBlockWeight = false ∨
    exceeds limits.reserved used = false

theorem checkBlockWeight_eq_some {limits : ClassLimits} {s next : BlockState} {xt : Extrinsic}
    (h : checkBlockWeight limits s xt = some next) :
    ∃ used, accrue limits (s.get xt.cls)
        ((xt.declared.saturatingAdd limits.baseExtrinsic).saturatingAdd ⟨0, xt.len⟩) = some used ∧
      Checked limits s xt.cls used ∧ next = s.set used xt.cls := by
  rw [checkBlockWeight, Option.bind_eq_bind, Option.bind_eq_some_iff] at h
  obtain ⟨used, accrued, kept⟩ := h
  dsimp only at kept
  split at kept
  · cases kept
  · rename_i inside
    split at kept
    · cases kept
    · rename_i room
      rw [Bool.not_eq_true, Bool.and_eq_false_iff] at room
      exact ⟨used, accrued, ⟨Bool.eq_false_iff.mpr inside, room⟩, (Option.some.inj kept).symm⟩

/-- A charge that was added without an overflow and stays below the largest weight was not
saturated either. -/
theorem accrued_refTime {limits : ClassLimits} {before used declared base : Weight} {len : Nat}
    (limited : limits.maxTotal.isNone = false)
    (accrued : accrue limits before
      ((declared.saturatingAdd base).saturatingAdd ⟨0, len⟩) = some used)
    (below : used.refTime < u64Max) :
    used.refTime = before.refTime + (declared.refTime + base.refTime) := by
  rw [accrue, limited, Bool.false_and, if_neg Bool.false_ne_true, Weight.checkedAdd] at accrued
  split at accrued
  · cases accrued
    simp only [Weight.add, Weight.saturatingAdd, Saturating.add] at below ⊢
    omega
  · cases accrued

theorem checkBlockLength_eq_some {s : BlockState} {cls : DispatchClass} {len next : Nat}
    (h : checkBlockLength s cls len = some next) :
    next ≤ s.allExtrinsicsLen + len ∧ next ≤ lengthLimit cls := by
  rw [checkBlockLength] at h
  split at h
  · cases h
  · rename_i inside
    cases h
    exact ⟨Nat.min_le_left _ _, Nat.not_lt.mp inside⟩

theorem prepare_eq_some {baseExtrinsic : Weight} {s next : BlockState} {xt : Extrinsic}
    (h : prepare baseExtrinsic s xt = some next) :
    ∃ used len, checkBlockLength s xt.cls xt.len = some len ∧
      accrue (perClass baseExtrinsic xt.cls) (s.get xt.cls)
        ((xt.declared.saturatingAdd (perClass baseExtrinsic xt.cls).baseExtrinsic).saturatingAdd
          ⟨0, xt.len⟩) = some used ∧
      Checked (perClass baseExtrinsic xt.cls) s xt.cls used ∧
      next = { s.set used xt.cls with allExtrinsicsLen := len } := by
  rw [prepare, Option.bind_eq_bind, Option.bind_eq_some_iff] at h
  obtain ⟨len, length, kept⟩ := h
  split at kept
  · cases kept
  · rw [Option.bind_eq_bind, Option.bind_eq_some_iff] at kept
    obtain ⟨next, weight, same⟩ := kept
    obtain ⟨used, accrued, checked, rfl⟩ := checkBlockWeight_eq_some weight
    exact ⟨used, len, length, accrued, checked, (Option.some.inj same).symm⟩

theorem Checked.ordinary {baseExtrinsic used : Weight} {s : BlockState}
    (h : Checked (perClass baseExtrinsic .normal) s .normal used) :
    pool.Ordinary s.used used.refTime := by
  refine ⟨Weight.refTime_le_of_not_anyGt h.maxTotal, ?_⟩
  obtain inside | none := h.shared
  · exact Or.inl (total_le inside)
  · exact Or.inr (Nat.le_zero.mp (Weight.refTime_le_of_not_anyGt none))

theorem Checked.privileged {baseExtrinsic used : Weight} {s : BlockState}
    (h : Checked (perClass baseExtrinsic .operational) s .operational used) :
    pool.Privileged s.used used.refTime := by
  refine ⟨Weight.refTime_le_of_not_anyGt h.maxTotal, ?_⟩
  obtain inside | reserved := h.shared
  · exact Or.inl (total_le inside)
  · exact Or.inr (Weight.refTime_le_of_not_anyGt reserved)

theorem sound_step (baseExtrinsic : Weight) {s : BlockState} (sound : pool.Sound s.used)
    (e : Event) : pool.Sound (step baseExtrinsic s e).used := by
  cases e with
  | hook weight => exact sound.forced _
  | extrinsic xt =>
      rw [step]
      split
      · rename_i next prepared
        obtain ⟨used, len, _, _, checked, rfl⟩ := prepare_eq_some prepared
        obtain ⟨cls, declared, actual, length⟩ := xt
        cases cls with
        | normal => exact checked.ordinary.sound sound (Nat.sub_le _ _)
        | operational => exact checked.privileged.sound sound (Nat.sub_le _ _)
        | mandatory => exact sound.forced _
      · exact sound

/-- The bytes that do not count against the share of the normal class. -/
def Event.otherLen : Event → Nat
  | .extrinsic xt => if xt.cls = .normal then 0 else xt.len
  | .hook _ => 0

theorem postDispatch_len (s : BlockState) (xt : Extrinsic) :
    (postDispatch s xt).allExtrinsicsLen = s.allExtrinsicsLen := by
  rw [postDispatch]
  cases xt.cls <;> rfl

theorem len_step (baseExtrinsic : Weight) {s : BlockState} {others : Nat}
    (short : s.allExtrinsicsLen ≤ maxLength)
    (shared : s.allExtrinsicsLen ≤ lengthLimit .normal + others) (e : Event) :
    (step baseExtrinsic s e).allExtrinsicsLen ≤ maxLength ∧
      (step baseExtrinsic s e).allExtrinsicsLen ≤
        lengthLimit .normal + (others + e.otherLen) := by
  have later : s.allExtrinsicsLen ≤ lengthLimit .normal + (others + e.otherLen) :=
    shared.trans (by omega)
  cases e with
  | hook weight => exact ⟨short, later⟩
  | extrinsic xt =>
      rw [step]
      split
      · rename_i next prepared
        obtain ⟨used, len, length, _, _, rfl⟩ := prepare_eq_some prepared
        obtain ⟨added, limit⟩ := checkBlockLength_eq_some length
        rw [postDispatch_len]
        refine ⟨limit.trans (lengthLimit_le xt.cls), ?_⟩
        by_cases normal : xt.cls = .normal
        · rw [normal] at limit
          exact limit.trans (Nat.le_add_right _ _)
        · rw [Event.otherLen, if_neg normal, ← Nat.add_assoc]
          exact added.trans (Nat.add_le_add_right shared _)
      · exact ⟨short, later⟩

theorem len_run (baseExtrinsic : Weight) {s : BlockState} {others : Nat}
    (short : s.allExtrinsicsLen ≤ maxLength)
    (shared : s.allExtrinsicsLen ≤ lengthLimit .normal + others) (events : List Event) :
    (Machine.run (step baseExtrinsic) s events).allExtrinsicsLen ≤ maxLength ∧
      (Machine.run (step baseExtrinsic) s events).allExtrinsicsLen ≤
        lengthLimit .normal + (others + (events.map Event.otherLen).sum) := by
  induction events generalizing s others with
  | nil => exact ⟨short, shared⟩
  | cons e events ih =>
      obtain ⟨short', shared'⟩ := len_step baseExtrinsic short shared e
      rw [List.map_cons, List.sum_cons, ← Nat.add_assoc others, Machine.run_cons]
      exact ih short' shared'

/-- What an extrinsic adds to the weight of its class. -/
def Extrinsic.charge (xt : Extrinsic) (baseExtrinsic : Weight) : Weight :=
  (xt.declared.add baseExtrinsic).add ⟨0, xt.len⟩

/-- An operational extrinsic that fits into what is reserved for its class. -/
structure FitsReserve (baseExtrinsic : Weight) (s : BlockState) (xt : Extrinsic) : Prop where
  operational : xt.cls = .operational
  weight : (s.operational.add (xt.charge baseExtrinsic)).anyGt operationalReserved = false

theorem saturatingAdd_eq_add {a b bound : Weight} (fits : (a.add b).anyGt bound = false)
    (time : bound.refTime ≤ u64Max) (size : bound.proofSize ≤ u64Max) :
    a.saturatingAdd b = a.add b := by
  obtain ⟨time', size'⟩ := (Weight.anyGt_eq_false_iff _ _).mp fits
  have first : a.refTime + b.refTime ≤ u64Max := time'.trans time
  have second : a.proofSize + b.proofSize ≤ u64Max := size'.trans size
  rw [Weight.saturatingAdd, Saturating.add, Saturating.add, Nat.min_eq_left first,
    Nat.min_eq_left second]
  rfl

theorem anyGt_of_add_left {a b bound : Weight} (fits : (a.add b).anyGt bound = false) :
    a.anyGt bound = false := by
  obtain ⟨time, size⟩ := (Weight.anyGt_eq_false_iff _ _).mp fits
  exact (Weight.anyGt_eq_false_iff _ _).mpr
    ⟨(Nat.le_add_right _ _).trans time, (Nat.le_add_right _ _).trans size⟩

theorem anyGt_of_add_right {a b bound : Weight} (fits : (a.add b).anyGt bound = false) :
    b.anyGt bound = false := by
  obtain ⟨time, size⟩ := (Weight.anyGt_eq_false_iff _ _).mp fits
  exact (Weight.anyGt_eq_false_iff _ _).mpr
    ⟨(Nat.le_add_left _ _).trans time, (Nat.le_add_left _ _).trans size⟩

section Reserved
variable {baseExtrinsic : Weight} {s : BlockState} {xt : Extrinsic}

theorem reserved_le_u64Max :
    operationalReserved.refTime ≤ u64Max ∧ operationalReserved.proofSize ≤ u64Max := by
  decide

theorem FitsReserve.declared (fits : FitsReserve baseExtrinsic s xt) :
    (xt.declared.add baseExtrinsic).anyGt operationalReserved = false :=
  anyGt_of_add_left (anyGt_of_add_right fits.weight)

theorem FitsReserve.accrued (fits : FitsReserve baseExtrinsic s xt) :
    accrue (perClass baseExtrinsic .operational) s.operational
      ((xt.declared.saturatingAdd baseExtrinsic).saturatingAdd ⟨0, xt.len⟩) =
        some (s.operational.add (xt.charge baseExtrinsic)) := by
  obtain ⟨time, size⟩ := reserved_le_u64Max
  have whole : ((xt.declared.add baseExtrinsic).add ⟨0, xt.len⟩).anyGt operationalReserved =
      false := anyGt_of_add_right fits.weight
  rw [saturatingAdd_eq_add fits.declared time size, saturatingAdd_eq_add whole time size]
  obtain ⟨time', size'⟩ := (Weight.anyGt_eq_false_iff _ _).mp fits.weight
  have room : s.operational.refTime + (xt.charge baseExtrinsic).refTime ≤ u64Max ∧
      s.operational.proofSize + (xt.charge baseExtrinsic).proofSize ≤ u64Max :=
    ⟨time'.trans time, size'.trans size⟩
  exact if_pos room

theorem reserved_le_expected :
    operationalReserved.refTime ≤ expectedBlockWeight.refTime ∧
      operationalReserved.proofSize ≤ expectedBlockWeight.proofSize := by
  decide

/-- The reserve is smaller than what a single extrinsic may take. -/
theorem reserved_le_maxExtrinsic :
    operationalReserved.refTime ≤ (expectedBlockWeight.saturatingSub
        (expectedBlockWeight.scale (Perbill.fromPercent 10))).refTime ∧
      operationalReserved.proofSize ≤ (expectedBlockWeight.saturatingSub
        (expectedBlockWeight.scale (Perbill.fromPercent 10))).proofSize := by
  decide

theorem FitsReserve.maxExtrinsic (fits : FitsReserve baseExtrinsic s xt) :
    exceeds (perClass baseExtrinsic .operational).maxExtrinsic xt.declared = false := by
  obtain ⟨time, size⟩ := (Weight.anyGt_eq_false_iff _ _).mp fits.declared
  obtain ⟨time', size'⟩ := reserved_le_maxExtrinsic
  refine (Weight.anyGt_eq_false_iff _ _).mpr ⟨?_, ?_⟩
  · exact Nat.le_sub_of_add_le (time.trans time')
  · exact Nat.le_sub_of_add_le (size.trans size')

theorem FitsReserve.checkBlockWeight (fits : FitsReserve baseExtrinsic s xt) :
    checkBlockWeight (perClass baseExtrinsic .operational) s xt =
      some (s.set (s.operational.add (xt.charge baseExtrinsic)) .operational) := by
  obtain ⟨time, size⟩ := (Weight.anyGt_eq_false_iff _ _).mp fits.weight
  obtain ⟨time', size'⟩ := reserved_le_expected
  have inside : exceeds (perClass baseExtrinsic .operational).maxTotal
      (s.operational.add (xt.charge baseExtrinsic)) = false :=
    (Weight.anyGt_eq_false_iff _ _).mpr ⟨time.trans time', size.trans size'⟩
  have reserved : exceeds (perClass baseExtrinsic .operational).reserved
      (s.operational.add (xt.charge baseExtrinsic)) = false := fits.weight
  have accrued : accrue (perClass baseExtrinsic .operational) (s.get .operational)
      ((xt.declared.saturatingAdd (perClass baseExtrinsic .operational).baseExtrinsic).saturatingAdd
        ⟨0, xt.len⟩) = some (s.operational.add (xt.charge baseExtrinsic)) := fits.accrued
  simp only [BlockResources.checkBlockWeight, fits.operational, accrued, Option.bind_eq_bind,
    Option.bind_some, inside, reserved, Bool.and_false, Bool.false_eq_true, if_false]

theorem FitsReserve.prepare (fits : FitsReserve baseExtrinsic s xt)
    (short : s.allExtrinsicsLen + xt.len ≤ maxLength) :
    (prepare baseExtrinsic s xt).isSome = true := by
  have length : checkBlockLength s .operational xt.len =
      some (Saturating.add (2 ^ 32 - 1) s.allExtrinsicsLen xt.len) := by
    rw [checkBlockLength]
    exact if_neg (Nat.not_lt.mpr ((Nat.min_le_left _ _).trans short))
  rw [BlockResources.prepare, fits.operational, length, fits.maxExtrinsic, fits.checkBlockWeight]
  rfl

end Reserved

/-- Whatever a block has taken in before, in any order: normal extrinsics stay inside their
share, normal and operational ones inside the block, and an operational one that fits into
the reserve of its class is not refused. -/
theorem operational_reserved (baseExtrinsic : Weight) (events : List Event) :
    let s := Machine.run (step baseExtrinsic) .empty events
    s.normal.refTime ≤ normalMaxTotal.refTime ∧
      s.normal.refTime + s.operational.refTime ≤ expectedBlockWeight.refTime ∧
      s.allExtrinsicsLen ≤ maxLength ∧
      ∀ xt, FitsReserve baseExtrinsic s xt →
        (events.map Event.otherLen).sum + xt.len ≤ maxLength - lengthLimit .normal →
          (prepare baseExtrinsic s xt).isSome = true := by
  intro s
  have sound : pool.Sound s.used :=
    Machine.run_of_preserved (I := fun s : BlockState => pool.Sound s.used)
      (fun _ e h => sound_step baseExtrinsic h e) ⟨Nat.zero_le _, Nat.zero_le _⟩ events
  have lengths : s.allExtrinsicsLen ≤ maxLength ∧ s.allExtrinsicsLen ≤
      lengthLimit .normal + (0 + (events.map Event.otherLen).sum) :=
    len_run baseExtrinsic (Nat.zero_le _) (Nat.zero_le _) events
  refine ⟨sound.cap, sound.capacity, lengths.1, ?_⟩
  intro xt fits room
  have share := lengthLimit_le .normal
  refine fits.prepare ?_
  calc s.allExtrinsicsLen + xt.len
      ≤ lengthLimit .normal + (0 + (events.map Event.otherLen).sum) + xt.len :=
        Nat.add_le_add_right lengths.2 _
    _ = lengthLimit .normal + ((events.map Event.otherLen).sum + xt.len) := by
        rw [Nat.zero_add, Nat.add_assoc]
    _ ≤ lengthLimit .normal + (maxLength - lengthLimit .normal) := Nat.add_le_add_left room _
    _ = maxLength := Nat.add_sub_cancel' share

end BlockResources
end Solochain
