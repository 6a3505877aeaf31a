import Solochain.Node.ManualSeal

/-!
The mock clock of manual and instant sealing over a database that is kept.

The clock starts from zero in every process, the last timestamp of the chain does
not. Which attempts end in a block is left open, up to the check of pallet_timestamp
itself: a history says so.
-/
namespace Solochain
namespace MockTimestamp
open ManualSeal

/-- An attempt seals a block if nothing but its timestamp can stop it. -/
inductive Event
  | start
  | attempt (unhindered : Bool)
  deriving DecidableEq

/-- The timestamp of the last block, zero while none is set. -/
structure NodeState where
  clock : UInt64
  now : UInt64
  deriving DecidableEq

/-- A new process over a database whose last block has the timestamp `recorded`. -/
def kept (recorded : UInt64) : NodeState := { clock := 0, now := recorded }

structure Provided where
  now : UInt64
  timestamp : UInt64
  deriving DecidableEq

/-- The assertion of `pallet_timestamp` turned around. -/
def Provided.TooEarly (p : Provided) : Prop :=
  p.now ≠ 0 ∧ p.timestamp < p.now + Time.minimumPeriod

instance (p : Provided) : Decidable p.TooEarly :=
  inferInstanceAs (Decidable (p.now ≠ 0 ∧ p.timestamp < p.now + Time.minimumPeriod))

def Provided.InOrder (p : Provided) : Prop :=
  p.now = 0 ∨ p.now.toNat + Time.minimumPeriod.toNat ≤ p.timestamp.toNat

def provide (s : NodeState) : Provided := { now := s.now, timestamp := tick s.clock }

def provided (s : NodeState) : Event → Option Provided
  | .start => none
  | .attempt _ => some (provide s)

def step (s : NodeState) : Event → NodeState
  | .start => { s with clock := 0 }
  | .attempt unhindered =>
      { clock := tick s.clock
        now := if unhindered ∧ ¬ (provide s).TooEarly then (provide s).timestamp else s.now }

theorem step_hindered (s : NodeState) :
    step s (.attempt false) = { clock := tick s.clock, now := s.now } := by
  simp [step]

theorem step_sealed {s : NodeState} (accepted : ¬ (provide s).TooEarly) :
    step s (.attempt true) = { clock := tick s.clock, now := tick s.clock } := by
  rw [step, if_pos ⟨rfl, accepted⟩, provide]

@[simp] theorem step_start_now (s : NodeState) : (step s .start).now = s.now := rfl

def EveryInOrder (s : NodeState) (h : List Event) : Prop :=
  ∀ p, some p ∈ Machine.outputs step provided s h → p.InOrder

theorem everyInOrder_nil (s : NodeState) : EveryInOrder s [] := by
  intro p hp
  cases hp

theorem everyInOrder_start (s : NodeState) (h : List Event) :
    EveryInOrder s (.start :: h) ↔ EveryInOrder (step s .start) h := by
  simp [EveryInOrder, Machine.outputs, provided]

theorem everyInOrder_attempt (s : NodeState) (unhindered : Bool) (h : List Event) :
    EveryInOrder s (.attempt unhindered :: h) ↔
      (provide s).InOrder ∧ EveryInOrder (step s (.attempt unhindered)) h := by
  simp [EveryInOrder, Machine.outputs, provided]

def Attempted (h : List Event) : Prop := ∃ b, .attempt b ∈ h

def Resumed (h : List Event) : Prop := ∃ b, [.start, .attempt b].Sublist h

/-- A block sealed, then a start, then an attempt, whatever lies between them. -/
def ResumedAfterSeal (h : List Event) : Prop :=
  ∃ b, [.attempt true, .start, .attempt b].Sublist h

theorem attempted_of_resumed {h : List Event} (resumed : Resumed h) : Attempted h := by
  obtain ⟨b, pattern⟩ := resumed
  exact ⟨b, pattern.subset (by simp)⟩

theorem attempted_of_resumedAfterSeal {h : List Event} (resumed : ResumedAfterSeal h) :
    Attempted h := by
  obtain ⟨b, pattern⟩ := resumed
  exact ⟨b, pattern.subset (by simp)⟩

@[simp] theorem not_attempted_nil : ¬ Attempted [] := by simp [Attempted]

@[simp] theorem not_resumed_nil : ¬ Resumed [] := mt attempted_of_resumed not_attempted_nil

@[simp] theorem not_resumedAfterSeal_nil : ¬ ResumedAfterSeal [] :=
  mt attempted_of_resumedAfterSeal not_attempted_nil

@[simp] theorem attempted_start (h : List Event) : Attempted (.start :: h) ↔ Attempted h := by
  simp [Attempted]

@[simp] theorem attempted_attempt (b : Bool) (h : List Event) : Attempted (.attempt b :: h) :=
  ⟨b, List.mem_cons_self⟩

@[simp] theorem resumed_start (h : List Event) : Resumed (.start :: h) ↔ Attempted h := by
  refine ⟨fun resumed => ?_, fun attempted => ?_⟩
  · simpa using attempted_of_resumed resumed
  · obtain ⟨b, later⟩ := attempted
    exact ⟨b, (List.singleton_sublist.mpr later).cons_cons .start⟩

@[simp] theorem resumed_attempt (b : Bool) (h : List Event) :
    Resumed (.attempt b :: h) ↔ Resumed h := by
  simp [Resumed, List.cons_sublist_cons']

@[simp] theorem resumedAfterSeal_start (h : List Event) :
    ResumedAfterSeal (.start :: h) ↔ ResumedAfterSeal h := by
  simp [ResumedAfterSeal, List.cons_sublist_cons']

@[simp] theorem resumedAfterSeal_attempt (b : Bool) (h : List Event) :
    ResumedAfterSeal (.attempt b :: h) ↔ (b = true ∧ Resumed h) ∨ ResumedAfterSeal h := by
  have head (b' : Bool) : [.attempt true, .start, .attempt b'].Sublist (.attempt b :: h) ↔
      [.attempt true, .start, .attempt b'].Sublist h ∨
        b = true ∧ [.start, .attempt b'].Sublist h := by
    rw [List.cons_sublist_cons', Event.attempt.injEq, eq_comm]
  simp only [ResumedAfterSeal, Resumed, head]
  rw [exists_or, exists_and_left, or_comm]

/-- How many attempts the session has made once the event is over. -/
def Event.number (n : Nat) : Event → Nat
  | start => 0
  | attempt _ => n + 1

/-- No session wraps the clock, where the current one has made `n` attempts so far. -/
def Fits : Nat → List Event → Prop
  | _, [] => True
  | n, e :: h => 6000 * e.number n < 2 ^ 64 ∧ Fits (e.number n) h

/-- After `n` attempts of a session with no timestamp ahead of the clock. -/
structure InSession (n : Nat) (s : NodeState) : Prop where
  clock : s.clock.toNat = 6000 * n
  recorded : s.now.toNat ≤ 3000 ∨ 6000 ≤ s.now.toNat ∧ s.now.toNat ≤ s.clock.toNat

theorem inSession_kept {recorded : UInt64} (low : recorded.toNat ≤ 3000) :
    InSession 0 (kept recorded) := ⟨rfl, Or.inl low⟩

variable {n : Nat} {s : NodeState}

theorem inSession_start (low : s.now.toNat ≤ 3000) : InSession 0 (step s .start) :=
  ⟨rfl, Or.inl low⟩

theorem provide_inOrder (inside : InSession n s) (fits : 6000 * (n + 1) < 2 ^ 64) :
    (provide s).InOrder := by
  have period : Time.minimumPeriod.toNat = 3000 := rfl
  have ticked := toNat_tick inside.clock fits
  right
  change s.now.toNat + _ ≤ (tick s.clock).toNat
  rcases inside.recorded with low | ⟨_, bound⟩
  · omega
  · rw [inside.clock] at bound
    omega

theorem not_tooEarly_of_inOrder {p : Provided} (ordered : p.InOrder) : ¬ p.TooEarly := by
  rcases ordered with unset | period
  · exact fun early => early.1 unset
  · exact not_early_of_le period

/-- Inside a session the check of the pallet never stops an attempt. -/
theorem step_attempt (inside : InSession n s) (fits : 6000 * (n + 1) < 2 ^ 64)
    (unhindered : Bool) :
    step s (.attempt unhindered) =
      { clock := tick s.clock, now := if unhindered then tick s.clock else s.now } := by
  cases unhindered with
  | true => exact step_sealed (not_tooEarly_of_inOrder (provide_inOrder inside fits))
  | false => exact step_hindered s

theorem inSession_attempt (inside : InSession n s) (fits : 6000 * (n + 1) < 2 ^ 64)
    (unhindered : Bool) : InSession (n + 1) (step s (.attempt unhindered)) := by
  have ticked := toNat_tick inside.clock fits
  rw [step_attempt inside fits]
  refine ⟨ticked, ?_⟩
  cases unhindered with
  | true =>
      have late : 6000 ≤ (tick s.clock).toNat := by omega
      exact Or.inr ⟨late, Nat.le_refl _⟩
  | false =>
      rcases inside.recorded with low | ⟨late, bound⟩
      · exact Or.inl low
      · have grown : s.clock.toNat ≤ (tick s.clock).toNat := by
          rw [ticked, inside.clock]
          omega
        exact Or.inr ⟨late, bound.trans grown⟩

theorem first_not_inOrder (restarted : s.clock = 0) (recorded : 3000 < s.now.toNat) :
    ¬ (provide s).InOrder := by
  intro ordered
  rcases ordered with unset | period
  · change s.now = 0 at unset
    rw [unset] at recorded
    cases recorded
  · change s.now.toNat + 3000 ≤ (tick s.clock).toNat at period
    rw [restarted] at period
    have first : (tick 0).toNat = 6000 := rfl
    omega

/-- Over a recorded timestamp a restarted clock fails with its first tick. -/
theorem everyInOrder_restarted (restarted : s.clock = 0) (recorded : 3000 < s.now.toNat)
    (h : List Event) : EveryInOrder s h ↔ ¬ Attempted h := by
  induction h with
  | nil => simp [everyInOrder_nil]
  | cons e h ih =>
      cases e with
      | start =>
          have same : step s .start = s := by rw [step, ← restarted]
          rw [everyInOrder_start, same, ih, attempted_start]
      | attempt b =>
          rw [everyInOrder_attempt]
          simp [first_not_inOrder restarted recorded]

/-- What a history may not do from a state on that has recorded a timestamp or not. -/
def Unresumed (s : NodeState) (h : List Event) : Prop :=
  ¬ ResumedAfterSeal h ∧ (3000 < s.now.toNat → ¬ Resumed h)

theorem unresumed_nil (s : NodeState) : Unresumed s [] :=
  ⟨not_resumedAfterSeal_nil, fun _ => not_resumed_nil⟩

theorem unresumed_start_of_low (low : s.now.toNat ≤ 3000) (h : List Event) :
    Unresumed s (.start :: h) ↔ Unresumed (step s .start) h := by
  have low := Nat.not_lt.mpr low
  simp [Unresumed, low]

theorem unresumed_start_of_high (high : 3000 < s.now.toNat) (h : List Event) :
    Unresumed s (.start :: h) ↔ ¬ Attempted h := by
  rw [Unresumed, resumedAfterSeal_start, resumed_start]
  refine ⟨fun both => both.2 high, fun idle => ?_⟩
  exact ⟨mt attempted_of_resumedAfterSeal idle, fun _ => idle⟩

/-- An attempt that seals a block forbids what a recorded timestamp forbids. -/
theorem unresumed_attempt (inside : InSession n s) (fits : 6000 * (n + 1) < 2 ^ 64)
    (unhindered : Bool) (h : List Event) :
    Unresumed s (.attempt unhindered :: h) ↔ Unresumed (step s (.attempt unhindered)) h := by
  rw [step_attempt inside fits, Unresumed, Unresumed, resumedAfterSeal_attempt, resumed_attempt]
  cases unhindered with
  | false => simp
  | true =>
      have ticked : 3000 < (tick s.clock).toNat := by
        rw [toNat_tick inside.clock fits]
        omega
      refine ⟨fun apart => ?_, fun both => ?_⟩
      · obtain ⟨neither, _⟩ := apart
        exact ⟨fun resumed => neither (Or.inr resumed),
          fun _ resumed => neither (Or.inl ⟨rfl, resumed⟩)⟩
      · obtain ⟨alone, unresumed⟩ := both
        have unresumed := unresumed ticked
        exact ⟨fun either => either.elim (fun sealed => unresumed sealed.2) alone,
          fun _ => unresumed⟩

theorem everyInOrder_iff_unresumed (inside : InSession n s) {h : List Event} (fits : Fits n h) :
    EveryInOrder s h ↔ Unresumed s h := by
  induction h generalizing n s with
  | nil => exact iff_of_true (everyInOrder_nil s) (unresumed_nil s)
  | cons e h ih =>
      obtain ⟨here, later⟩ := fits
      cases e with
      | start =>
          rw [everyInOrder_start]
          rcases inside.recorded with low | ⟨recorded, _⟩
          · rw [ih (inSession_start low) later, unresumed_start_of_low low]
          · have high : 3000 < s.now.toNat := Nat.lt_of_lt_of_le (by decide) recorded
            rw [everyInOrder_restarted (s := step s .start) rfl high, unresumed_start_of_high high]
      | attempt b =>
          rw [everyInOrder_attempt, and_iff_right (provide_inOrder inside here),
            ih (inSession_attempt inside here b) later, unresumed_attempt inside here]

/-- The clock keeps up with the chain exactly as long as no process goes on with what an
earlier one has sealed. -/
theorem everyInOrder_iff (recorded : UInt64) (h : List Event) (fits : Fits 0 h) :
    EveryInOrder (kept recorded) h ↔
      ¬ Attempted h ∨ recorded.toNat ≤ 3000 ∧ ¬ ResumedAfterSeal h := by
  by_cases low : recorded.toNat ≤ 3000
  · rw [everyInOrder_iff_unresumed (inSession_kept low) fits]
    refine ⟨fun unresumed => Or.inr ⟨low, unresumed.1⟩, fun either => ?_⟩
    rcases either with idle | ⟨_, alone⟩
    · exact ⟨mt attempted_of_resumedAfterSeal idle, fun _ => mt attempted_of_resumed idle⟩
    · exact ⟨alone, fun high => absurd low (Nat.not_le.mpr high)⟩
  · rw [everyInOrder_restarted (s := kept recorded) rfl (Nat.not_le.mp low)]
    exact ⟨Or.inl, fun either => either.elim id fun both => absurd both.1 low⟩

theorem one_session_everyInOrder :
    EveryInOrder (kept 0) [.start, .attempt false, .attempt true, .attempt true, .start] :=
  (everyInOrder_iff 0 [.start, .attempt false, .attempt true, .attempt true, .start]
    ⟨by decide, by decide, by decide, by decide, by decide, trivial⟩).mpr
      (Or.inr ⟨by decide, by simp⟩)

/-- The same first tick again over a block sealed before the restart, and over one
that BABE has sealed at wall-clock time. -/
theorem resumed_session_tooEarly :
    ¬ EveryInOrder (kept 0) [.start, .attempt true, .start, .attempt true] ∧
      ¬ EveryInOrder (kept 1750000002000) [.start, .attempt true] := by
  refine ⟨fun ordered => ?_, fun ordered => ?_⟩
  · have second := ordered { now := 6000, timestamp := 6000 } (by decide)
    rw [Provided.InOrder] at second
    exact absurd second (by decide)
  · have first := ordered { now := 1750000002000, timestamp := 6000 } (by decide)
    rw [Provided.InOrder] at first
    exact absurd first (by decide)

/-- The pallet refuses the first tick over a recorded timestamp, whatever the slot. -/
theorem setTimestamp_restarted (currentSlot : UInt64) {now : UInt64} (recorded : 3000 < now.toNat)
    (fits : now.toNat + 3000 < 2 ^ 64) :
    setTimestamp currentSlot now (tick 0) = .error .timestampTooEarly := by
  have early : now ≠ 0 ∧ tick 0 < now + Time.minimumPeriod := by
    constructor
    · intro unset
      rw [unset] at recorded
      cases recorded
    · have sum : (now + Time.minimumPeriod).toNat = now.toNat + 3000 := by
        rw [UInt64.toNat_add]
        exact Nat.mod_eq_of_lt fits
      have first : (tick 0).toNat = 6000 := rfl
      rw [UInt64.lt_iff_toNat_lt, sum, first]
      omega
  rw [setTimestamp, if_pos early]
  rfl

inductive Input
  | start
  | request (r : Request)

/-- The parent is the best block, as in instant sealing. -/
def Input.OnBest : Input → Prop
  | start => True
  | request r => r.parent = 0

def nodeState (s : SealState) : NodeState :=
  { clock := s.clock, now := (s.blocks.head?.map ChainState.now).getD 0 }

section Node
variable (B : BabeCrate) (targetGasPrice : UInt64)

def nodeStep (s : SealState) : Input → SealState
  | .start => { s with clock := 0 }
  | .request r => sealBlock B targetGasPrice s r

def requested (s : SealState) : Input → Option Provided
  | .start => none
  | .request r =>
      (check B targetGasPrice s r).map fun c =>
        { now := (nodeState s).now, timestamp := c.timestamp }

theorem nodeState_now {s : SealState} {r : Request} {parent : ChainState} (best : r.parent = 0)
    (prepared : r.parentState s = some parent) : (nodeState s).now = parent.now := by
  rw [Request.parentState] at prepared
  split at prepared
  · cases prepared
  · rw [best, ← List.head?_eq_getElem?] at prepared
    rw [nodeState, prepared, Option.map_some, Option.getD_some]

theorem nodeState_sealBlock {s : SealState} {r : Request} {parent : ChainState}
    (best : r.parent = 0) (prepared : r.parentState s = some parent) :
    ∃ unhindered, nodeState (sealBlock B targetGasPrice s r) =
      step (nodeState s) (.attempt unhindered) := by
  simp only [sealBlock, prepared, check_of_parentState prepared]
  cases set : setTimestamp parent.currentSlot parent.now (tick s.clock) with
  | error e => exact ⟨false, rfl⟩
  | ok moment =>
      obtain ⟨rfl, _⟩ := setTimestamp_eq_ok set
      have accepted : ¬ (provide (nodeState s)).TooEarly := by
        rw [Provided.TooEarly, provide, nodeState_now best prepared]
        exact not_early_of_setTimestamp set
      refine ⟨r.imported, ?_⟩
      cases imported : r.imported with
      | true =>
          rw [step_sealed accepted]
          simp only [if_true, nodeState, List.head?_cons, Option.map_some, Option.getD_some]
      | false =>
          rw [step_hindered]
          simp only [Bool.false_eq_true, if_false, nodeState]

theorem nodeStep_simulated (s : SealState) (i : Input) (best : i.OnBest) :
    nodeState (nodeStep B targetGasPrice s i) = nodeState s ∧
        requested B targetGasPrice s i = none ∨
      ∃ e, nodeState (nodeStep B targetGasPrice s i) = step (nodeState s) e ∧
        requested B targetGasPrice s i = provided (nodeState s) e := by
  cases i with
  | start => exact Or.inr ⟨.start, rfl, rfl⟩
  | request r =>
      cases prepared : r.parentState s with
      | none =>
          left
          simp only [nodeStep, requested, sealBlock_of_unprepared prepared,
            check_of_unprepared prepared, Option.map_none, and_self]
      | some parent =>
          obtain ⟨unhindered, moved⟩ := nodeState_sealBlock B targetGasPrice best prepared
          refine Or.inr ⟨.attempt unhindered, moved, ?_⟩
          rw [requested, check_of_parentState prepared]
          rfl

/-- The node with its restarts goes through one of the histories. -/
theorem nodeRun_simulated (s : SealState) (inputs : List Input)
    (best : ∀ i ∈ inputs, i.OnBest) :
    ∃ h, nodeState (Machine.run (nodeStep B targetGasPrice) s inputs) =
        Machine.run step (nodeState s) h ∧
      (Machine.outputs (nodeStep B targetGasPrice) (requested B targetGasPrice) s inputs).filterMap
          id =
        (Machine.outputs step provided (nodeState s) h).filterMap id :=
  Machine.exists_run_of_simulated (nodeStep_simulated B targetGasPrice) s inputs best

end Node
end MockTimestamp
end Solochain
