import Solochain.Library.Machine
import Solochain.Node.InherentData

/-!
Manual and instant sealing against the timestamp check of BABE.

Both modes drive the same task: its mock clock is a static of the thread that
moves on at every call, whatever becomes of the block, and it runs without a
consensus data provider, so that headers carry no BABE pre-digest.
-/
namespace Solochain
namespace ManualSeal
open Node

structure ChainState where
  currentSlot : UInt64
  now : UInt64
  deriving DecidableEq

/-- The mock clock and the states behind all blocks so far, the last one first. -/
structure SealState where
  clock : UInt64
  blocks : List ChainState
  deriving DecidableEq

def genesis : SealState := { clock := 0, blocks := [{ currentSlot := 0, now := 0 }] }

/-- A request to seal, with what its surroundings decide on it. The parent is the block
that the request names or, as always in instant sealing, the best one. -/
structure Request where
  createEmpty : Bool
  readyTransactions : Nat
  parent : Nat
  imported : Bool
  deriving DecidableEq

def Request.parentState (r : Request) (s : SealState) : Option ChainState :=
  if r.readyTransactions = 0 ∧ r.createEmpty = false then none else s.blocks[r.parent]?

/-- `consensus_data_provider: None`. -/
def digest : Digest := []

def tick (clock : UInt64) : UInt64 := clock + Time.slotDuration

structure Check where
  currentSlot : UInt64
  timestamp : UInt64
  deriving DecidableEq

def Check.Passes (c : Check) : Prop := Babe.onTimestampSet c.currentSlot c.timestamp = .ok ()

section Sealing
variable (B : BabeCrate) (targetGasPrice : UInt64)

def check (s : SealState) (r : Request) : Option Check := do
  let parent ← r.parentState s
  let data ← (InherentData.create (manualSealInherents (tick s.clock) targetGasPrice)).toOption
  let timestamp ← data.timestamp
  some { currentSlot := B.onInitialize parent.currentSlot digest, timestamp := timestamp }

def sealBlock (s : SealState) (r : Request) : SealState :=
  match r.parentState s with
  | none => s
  | some parent =>
      -- the static has moved on also where the block is given up
      let givenUp := { s with clock := tick s.clock }
      match check B targetGasPrice s r with
      | none => givenUp
      | some c =>
          match setTimestamp c.currentSlot parent.now c.timestamp with
          | .error _ => givenUp
          | .ok now =>
              if r.imported then
                { givenUp with blocks := { currentSlot := c.currentSlot, now := now } :: s.blocks }
              else givenUp

def checks (s : SealState) (rs : List Request) : List (Option Check) :=
  Machine.outputs (sealBlock B targetGasPrice) (check B targetGasPrice) s rs

def EveryCheckPasses (s : SealState) (rs : List Request) : Prop :=
  ∀ c, some c ∈ checks B targetGasPrice s rs → c.Passes

end Sealing

variable {B : BabeCrate} {targetGasPrice : UInt64}

theorem check_of_parentState {s : SealState} {r : Request} {parent : ChainState}
    (h : r.parentState s = some parent) :
    check B targetGasPrice s r =
      some { currentSlot := parent.currentSlot, timestamp := tick s.clock } := by
  simp only [check, h, create_manualSealInherents]
  rfl

theorem check_of_unprepared {s : SealState} {r : Request} (h : r.parentState s = none) :
    check B targetGasPrice s r = none := by
  simp only [check, h]
  rfl

theorem sealBlock_of_unprepared {s : SealState} {r : Request} (h : r.parentState s = none) :
    sealBlock B targetGasPrice s r = s := by
  simp only [sealBlock, h]

theorem sealBlock_of_parentState (B : BabeCrate) (targetGasPrice : UInt64) {s : SealState}
    {r : Request} {parent : ChainState} (h : r.parentState s = some parent) :
    (sealBlock B targetGasPrice s r).clock = tick s.clock ∧
      ((sealBlock B targetGasPrice s r).blocks = s.blocks ∨
        parent.currentSlot = Babe.slotOf (tick s.clock) ∧
          (sealBlock B targetGasPrice s r).blocks =
            { currentSlot := parent.currentSlot, now := tick s.clock } :: s.blocks) := by
  simp only [sealBlock, h, check_of_parentState h]
  cases set : setTimestamp parent.currentSlot parent.now (tick s.clock) with
  | error e => exact ⟨rfl, Or.inl rfl⟩
  | ok now =>
      obtain ⟨rfl, passed⟩ := setTimestamp_eq_ok set
      simp only
      split
      · exact ⟨rfl, Or.inr ⟨passed, rfl⟩⟩
      · exact ⟨rfl, Or.inl rfl⟩

theorem parentState_mem {s : SealState} {r : Request} {parent : ChainState}
    (h : r.parentState s = some parent) : parent ∈ s.blocks := by
  rw [Request.parentState] at h
  split at h
  · cases h
  · exact List.mem_of_getElem? h

def NoSlot (s : SealState) : Prop := ∀ b ∈ s.blocks, b.currentSlot = 0

theorem noSlot_genesis : NoSlot genesis := by
  intro b hb
  rw [List.mem_singleton.mp hb]

theorem noSlot_sealBlock (s : SealState) (r : Request) (h : NoSlot s) :
    NoSlot (sealBlock B targetGasPrice s r) := by
  cases prepared : r.parentState s with
  | none => rwa [sealBlock_of_unprepared prepared]
  | some parent =>
      obtain ⟨_, kept | ⟨_, added⟩⟩ := sealBlock_of_parentState B targetGasPrice prepared
      · rw [NoSlot, kept]
        exact h
      · intro b hb
        rw [added] at hb
        rcases List.mem_cons.mp hb with rfl | old
        · exact h parent (parentState_mem prepared)
        · exact h b old

theorem check_currentSlot_of_noSlot (s : SealState) (r : Request) (h : NoSlot s) :
    ∀ c ∈ check B targetGasPrice s r, c.currentSlot = 0 := by
  intro c hc
  cases prepared : r.parentState s with
  | none =>
      rw [check_of_unprepared prepared] at hc
      cases hc
  | some parent =>
      rw [check_of_parentState prepared] at hc
      cases hc
      exact h parent (parentState_mem prepared)

/-- In every run the slot stays zero, so that a check passes only for a timestamp
inside the very first slot. -/
theorem checks_currentSlot (rs : List Request) :
    ∀ c, some c ∈ checks B targetGasPrice genesis rs →
      c.currentSlot = 0 ∧ (c.Passes ↔ Babe.slotOf c.timestamp = 0) := by
  intro c hc
  have zero := Machine.outputs_of_preserved (P := fun out => ∀ c ∈ out, c.currentSlot = 0)
    noSlot_sealBlock check_currentSlot_of_noSlot noSlot_genesis rs (some c) hc c rfl
  refine ⟨zero, ?_⟩
  rw [Check.Passes, Babe.onTimestampSet_eq_ok_iff, zero]
  exact eq_comm

theorem first_check_fails : ¬ Check.Passes { currentSlot := 0, timestamp := tick 0 } := by
  rw [Check.Passes]
  decide

theorem parentState_genesis {r : Request} {parent : ChainState}
    (h : r.parentState genesis = some parent) : parent = { currentSlot := 0, now := 0 } :=
  List.mem_singleton.mp (parentState_mem h)

theorem toNat_tick {clock : UInt64} {n : Nat} (h : clock.toNat = 6000 * n)
    (fits : 6000 * (n + 1) < 2 ^ 64) : (tick clock).toNat = 6000 * (n + 1) := by
  rw [tick, ← Babe.slotDuration_eq, Babe.toNat_add_slotDuration (by omega), h]
  omega

theorem slotOf_tick_ne_zero {clock : UInt64} {n : Nat} (h : clock.toNat = 6000 * n)
    (fits : 6000 * (n + 1) < 2 ^ 64) : Babe.slotOf (tick clock) ≠ 0 := by
  intro zero
  have value := congrArg UInt64.toNat zero
  rw [Babe.toNat_slotOf, toNat_tick h fits, UInt64.toNat_zero] at value
  omega

theorem run_blocks_of_clock {s : SealState} {n : Nat} (clock : s.clock.toNat = 6000 * n)
    (blocks : s.blocks = genesis.blocks) (rs : List Request)
    (fits : 6000 * (n + rs.length) < 2 ^ 64) :
    (Machine.run (sealBlock B targetGasPrice) s rs).blocks = genesis.blocks := by
  induction rs generalizing s n with
  | nil => exact blocks
  | cons r rs ih =>
      rw [List.length_cons] at fits
      rw [Machine.run_cons]
      cases prepared : r.parentState s with
      | none =>
          rw [sealBlock_of_unprepared prepared]
          exact ih clock blocks (by omega)
      | some parent =>
          obtain ⟨moved, kept | ⟨passed, _⟩⟩ :=
            sealBlock_of_parentState B targetGasPrice prepared
          · refine ih (n := n + 1) ?_ (kept.trans blocks) (by omega)
            rw [moved]
            exact toNat_tick clock (by omega)
          · have zero : parent.currentSlot = 0 :=
              noSlot_genesis parent (blocks ▸ parentState_mem prepared)
            exact absurd (passed.symm.trans zero) (slotOf_tick_ne_zero clock (by omega))

/-- No run of fewer than some `3 * 10 ^ 15` requests seals a single block. -/
theorem run_seals_nothing (rs : List Request) (short : 6000 * rs.length < 2 ^ 64) :
    (Machine.run (sealBlock B targetGasPrice) genesis rs).blocks = genesis.blocks :=
  run_blocks_of_clock (n := 0) rfl rfl rs (by omega)

/-- Every check of a run passes only where there is none: the first request that
gets as far as its inherents fails. -/
theorem everyCheckPasses_iff (B : BabeCrate) (targetGasPrice : UInt64) (rs : List Request) :
    EveryCheckPasses B targetGasPrice genesis rs ↔
      ∀ r ∈ rs, r.parentState genesis = none := by
  induction rs with
  | nil => simp [EveryCheckPasses, checks, Machine.outputs]
  | cons r rs ih =>
      cases prepared : r.parentState genesis with
      | none =>
          have idle : EveryCheckPasses B targetGasPrice genesis (r :: rs) ↔
              EveryCheckPasses B targetGasPrice genesis rs := by
            simp [EveryCheckPasses, checks, Machine.outputs, check_of_unprepared prepared,
              sealBlock_of_unprepared prepared]
          rw [idle, ih]
          simp [prepared]
      | some parent =>
          constructor
          · intro passes
            obtain rfl := parentState_genesis prepared
            refine absurd (passes _ ?_) first_check_fails
            rw [checks, Machine.outputs, check_of_parentState prepared]
            exact List.mem_cons_self
          · intro unprepared
            have none := unprepared r List.mem_cons_self
            rw [prepared] at none
            cases none

theorem first_instant_seal_fails :
    ¬ EveryCheckPasses scaleBabe 1 genesis
      [{ createEmpty := false, readyTransactions := 1, parent := 0, imported := true }] := by
  intro passes
  exact absurd (passes { currentSlot := 0, timestamp := 6000 } (by decide)) (by
    rw [Check.Passes]
    decide)

end ManualSeal
end Solochain
