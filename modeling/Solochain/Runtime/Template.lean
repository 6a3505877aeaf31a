import Solochain.Library.Rollback

/-!
The template pallet: one stored number, which signed calls set and increment.

As in the source, the pallet is generic in the account ids and in the origins
that other pallets add. Its calls run in blocks after genesis, where events are
deposited, and without a storage layer around them: what they wrote before they fail
would stay.
-/
namespace Solochain.Template

inductive RawOrigin (AccountId : Type)
  | root
  | signed (who : AccountId)
  | none

inductive Origin (AccountId Custom : Type)
  | system (raw : RawOrigin AccountId)
  | custom (origin : Custom)

inductive Error
  | noneValue
  | storageOverflow
  deriving DecidableEq

inductive DispatchError
  | badOrigin
  | module (error : Error)
  deriving DecidableEq

inductive Event (AccountId : Type)
  | somethingStored (something : UInt32) (who : AccountId)
  deriving DecidableEq

structure State (AccountId : Type) where
  something : Option UInt32
  events : List (Event AccountId)
  deriving DecidableEq

inductive Call
  | doSomething (something : UInt32)
  | causeError
  deriving DecidableEq

variable {AccountId Custom : Type}

/-- Dispatchable code; the writes before an error stay. -/
abbrev Dispatch (AccountId : Type) := ExceptT DispatchError (StateM (State AccountId))

def ensureSigned : Origin AccountId Custom → Dispatch AccountId AccountId
  | .system (.signed who) => pure who
  | _ => throw .badOrigin

def put (something : UInt32) : Dispatch AccountId Unit :=
  modify fun s => { s with something := some something }

def depositEvent (event : Event AccountId) : Dispatch AccountId Unit :=
  modify fun s => { s with events := s.events ++ [event] }

def u32Max : UInt32 := 0xffffffff

def checkedAdd (a b : UInt32) : Option UInt32 :=
  if a.toNat + b.toNat < UInt32.size then some (a + b) else none

def okOr {α : Type} (value : Option α) (error : DispatchError) : Dispatch AccountId α :=
  match value with
  | some a => pure a
  | none => throw error

def doSomething (origin : Origin AccountId Custom) (something : UInt32) :
    Dispatch AccountId Unit := do
  let who ← ensureSigned origin
  put something
  depositEvent (.somethingStored something who)

def causeError (origin : Origin AccountId Custom) : Dispatch AccountId Unit := do
  let _who ← ensureSigned origin
  match (← get).something with
  | none => throw (.module .noneValue)
  | some old =>
      let new ← okOr (checkedAdd old 1) (.module .storageOverflow)
      put new

abbrev Extrinsic (AccountId Custom : Type) := Origin AccountId Custom × Call

def dispatch : Rollback.Attempt (State AccountId) (Extrinsic AccountId Custom) DispatchError
  | (origin, .doSomething something) => doSomething origin something
  | (origin, .causeError) => causeError origin

def genesis : State AccountId := ⟨none, []⟩

def run (s : State AccountId) (xs : List (Extrinsic AccountId Custom)) : State AccountId :=
  Machine.run (Rollback.keepStep dispatch) s xs

def Origin.IsSigned (origin : Origin AccountId Custom) : Prop :=
  ∃ who, origin = .system (.signed who)

/-- What a call does in each of the situations it can meet. -/
inductive Outcome (s : State AccountId) :
    Extrinsic AccountId Custom → Except DispatchError Unit × State AccountId → Prop
  | unsigned (origin call) (h : ¬ origin.IsSigned) :
      Outcome s (origin, call) (.error .badOrigin, s)
  | stored (who something) :
      Outcome s (.system (.signed who), .doSomething something)
        (.ok (), ⟨some something, s.events ++ [.somethingStored something who]⟩)
  | unset (who) (h : s.something = none) :
      Outcome s (.system (.signed who), .causeError) (.error (.module .noneValue), s)
  | overflow (who) (h : s.something = some u32Max) :
      Outcome s (.system (.signed who), .causeError) (.error (.module .storageOverflow), s)
  | incremented (who old new) (h : s.something = some old) (next : new.toNat = old.toNat + 1) :
      Outcome s (.system (.signed who), .causeError) (.ok (), ⟨some new, s.events⟩)

theorem dispatch_unsigned {origin : Origin AccountId Custom} (h : ¬ origin.IsSigned)
    (call : Call) (s : State AccountId) :
    dispatch (origin, call) s = (.error .badOrigin, s) := by
  cases origin with
  | system raw =>
      cases raw with
      | signed who => exact absurd ⟨who, rfl⟩ h
      | root | none => cases call <;> rfl
  | custom other => cases call <;> rfl

theorem dispatch_causeError (who : AccountId) (s : State AccountId) :
    dispatch ((.system (.signed who), .causeError) : Extrinsic AccountId Custom) s =
      match s.something with
      | none => (.error (.module .noneValue), s)
      | some old =>
          match checkedAdd old 1 with
          | none => (.error (.module .storageOverflow), s)
          | some new => (.ok (), ⟨some new, s.events⟩) := by
  obtain ⟨something, events⟩ := s
  cases something with
  | none => rfl
  | some old =>
      change (okOr (checkedAdd old 1) (.module .storageOverflow) >>= put : Dispatch AccountId Unit)
        ⟨some old, events⟩ = match checkedAdd old 1 with
          | none => (.error (.module .storageOverflow), ⟨some old, events⟩)
          | some new => (.ok (), ⟨some new, events⟩)
      cases checkedAdd old 1 <;> rfl

theorem checkedAdd_one_eq_none {old : UInt32} (h : checkedAdd old 1 = none) : old = u32Max := by
  have bound := old.toNat_lt_size
  rw [checkedAdd] at h
  split at h
  · cases h
  · rename_i full
    change ¬ old.toNat + 1 < 4294967296 at full
    change old.toNat < 4294967296 at bound
    apply UInt32.toNat_inj.mp
    change old.toNat = 4294967295
    omega

theorem checkedAdd_one_eq_some {old new : UInt32} (h : checkedAdd old 1 = some new) :
    new.toNat = old.toNat + 1 := by
  rw [checkedAdd] at h
  split at h
  · rename_i room
    rw [← Option.some.inj h, UInt32.toNat_add]
    exact Nat.mod_eq_of_lt room
  · cases h

theorem dispatch_outcome (x : Extrinsic AccountId Custom) (s : State AccountId) :
    Outcome s x (dispatch x s) := by
  obtain ⟨origin, call⟩ := x
  by_cases signed : origin.IsSigned
  · obtain ⟨who, rfl⟩ := signed
    cases call with
    | doSomething something => exact .stored who something
    | causeError =>
        rw [dispatch_causeError]
        cases value : s.something with
        | none => exact .unset who value
        | some old =>
            cases sum : checkedAdd old 1 with
            | none =>
                simp only [sum]
                exact .overflow who (checkedAdd_one_eq_none sum ▸ value)
            | some new =>
                simp only [sum]
                exact .incremented who old new value (checkedAdd_one_eq_some sum)
  · rw [dispatch_unsigned signed]
    exact .unsigned origin call signed

/-- A call as it was dispatched, with its result. -/
structure Dispatched (AccountId Custom : Type) where
  origin : Origin AccountId Custom
  call : Call
  result : Except DispatchError Unit

def history (s : State AccountId) (xs : List (Extrinsic AccountId Custom)) :
    List (Dispatched AccountId Custom) :=
  Machine.outputs (Rollback.keepStep dispatch)
    (fun s x => ⟨x.1, x.2, (dispatch x s).1⟩) s xs

/-- The reference model: the last value stored, and how often it has been
incremented since. Failed calls do not count. -/
def note (last : Option (UInt32 × Nat)) (d : Dispatched AccountId Custom) :
    Option (UInt32 × Nat) :=
  match d.call, d.result with
  | .doSomething something, .ok _ => some (something, 0)
  | .causeError, .ok _ => last.map fun (something, increments) => (something, increments + 1)
  | _, .error _ => last

def lastStored (h : List (Dispatched AccountId Custom)) : Option (UInt32 × Nat) :=
  h.foldl note none

/-- The event that a successful call owes. -/
def owedEvent (d : Dispatched AccountId Custom) : Option (Event AccountId) :=
  match d.origin, d.call, d.result with
  | .system (.signed who), .doSomething something, .ok _ => some (.somethingStored something who)
  | _, _, _ => none

structure Agrees (s : State AccountId) (h : List (Dispatched AccountId Custom)) : Prop where
  value : s.something.map UInt32.toNat = (lastStored h).map fun last => last.1.toNat + last.2
  trace : s.events = h.filterMap owedEvent

theorem note_failed (last : Option (UInt32 × Nat)) (origin : Origin AccountId Custom)
    (call : Call) (e : DispatchError) : note last ⟨origin, call, .error e⟩ = last := by
  cases call <;> rfl

theorem owedEvent_failed (origin : Origin AccountId Custom) (call : Call) (e : DispatchError) :
    owedEvent ⟨origin, call, .error e⟩ = none := by
  rw [owedEvent]
  split
  · rename_i contra
    cases contra
  · rfl

theorem lastStored_concat (h : List (Dispatched AccountId Custom))
    (d : Dispatched AccountId Custom) : lastStored (h ++ [d]) = note (lastStored h) d := by
  rw [lastStored, List.foldl_concat, lastStored]

theorem agrees_step (s : State AccountId) (h : List (Dispatched AccountId Custom))
    (x : Extrinsic AccountId Custom) (agrees : Agrees s h) :
    Agrees (Rollback.keepStep dispatch s x) (h ++ [⟨x.1, x.2, (dispatch x s).1⟩]) := by
  have outcome := dispatch_outcome x s
  rw [Rollback.keepStep]
  generalize dispatch x s = result at outcome
  obtain ⟨value, trace⟩ := agrees
  constructor
  · rw [lastStored_concat]
    cases outcome with
    | unsigned | unset | overflow => rwa [note_failed]
    | stored who something => rfl
    | incremented who old new holds next =>
        rw [holds, Option.map_some] at value
        cases last : lastStored h with
        | none => rw [last] at value; cases value
        | some p =>
            rw [last, Option.map_some, Option.some.injEq] at value
            change some new.toNat = some (p.1.toNat + (p.2 + 1))
            rw [next, value, Nat.add_assoc]
  · rw [List.filterMap_append, ← trace]
    cases outcome with
    | unsigned | unset | overflow =>
        rw [List.filterMap_cons_none (owedEvent_failed ..)]
        exact (List.append_nil _).symm
    | stored who something => rfl
    | incremented => exact (List.append_nil _).symm

theorem agrees_run (xs : List (Extrinsic AccountId Custom)) :
    Agrees (run genesis xs) (history genesis xs) := by
  have start : Agrees (genesis : State AccountId) ([] : List (Dispatched AccountId Custom)) :=
    ⟨rfl, rfl⟩
  exact Machine.run_outputs_of_preserved agrees_step start xs

def Stores (x : Extrinsic AccountId Custom) : Prop :=
  x.1.IsSigned ∧ ∃ something, x.2 = .doSomething something

theorem something_step (s : State AccountId) (x : Extrinsic AccountId Custom) :
    (Rollback.keepStep dispatch s x).something = none ↔ s.something = none ∧ ¬ Stores x := by
  have outcome := dispatch_outcome x s
  rw [Rollback.keepStep]
  generalize dispatch x s = result at outcome
  cases outcome with
  | unsigned origin call unsigned =>
      exact (and_iff_left fun stores : Stores _ => unsigned stores.1).symm
  | stored who something =>
      exact iff_of_false (Option.some_ne_none _) fun h => h.2 ⟨⟨who, rfl⟩, something, rfl⟩
  | unset who | overflow who =>
      refine (and_iff_left fun stores => ?_).symm
      obtain ⟨_, _, other⟩ := stores
      cases other
  | incremented who old new holds =>
      rw [holds]
      exact iff_of_false (Option.some_ne_none _) fun h => Option.some_ne_none _ h.1

theorem something_run (s : State AccountId) (xs : List (Extrinsic AccountId Custom)) :
    (run s xs).something = none ↔ s.something = none ∧ ∀ x ∈ xs, ¬ Stores x := by
  induction xs generalizing s with
  | nil => simp [run, Machine.run]
  | cons x xs ih =>
      rw [run, Machine.run_cons, ← run, ih, something_step, List.forall_mem_cons, and_assoc]

/-- When a call fails, and that it then leaves no trace. -/
structure RejectsExactly (s : State AccountId) (x : Extrinsic AccountId Custom) : Prop where
  fails : (∃ e, (dispatch x s).1 = .error e) ↔
    ¬ x.1.IsSigned ∨ x.2 = .causeError ∧ (s.something = none ∨ s.something = some u32Max)
  badOrigin : (dispatch x s).1 = .error .badOrigin ↔ ¬ x.1.IsSigned
  noneValue : (dispatch x s).1 = .error (.module .noneValue) ↔
    x.1.IsSigned ∧ x.2 = .causeError ∧ s.something = none
  storageOverflow : (dispatch x s).1 = .error (.module .storageOverflow) ↔
    x.1.IsSigned ∧ x.2 = .causeError ∧ s.something = some u32Max
  atomic : ∀ e, (dispatch x s).1 = .error e → (dispatch x s).2 = s

theorem next_ne_u32Max {old new : UInt32} (h : new.toNat = old.toNat + 1) : old ≠ u32Max := by
  rintro rfl
  have bound := new.toNat_lt_size
  rw [h] at bound
  exact absurd bound (by decide)

theorem rejectsExactly (s : State AccountId) (x : Extrinsic AccountId Custom) :
    RejectsExactly s x := by
  have outcome := dispatch_outcome x s
  generalize run : dispatch x s = result at outcome
  cases outcome with
  | unsigned origin call unsigned => constructor <;> simp [run, unsigned]
  | stored who something => constructor <;> simp [run, Origin.IsSigned]
  | unset who value => constructor <;> simp [run, Origin.IsSigned, value]
  | overflow who value => constructor <;> simp [run, Origin.IsSigned, value]
  | incremented who old new value next =>
      constructor <;> simp [run, Origin.IsSigned, value, next_ne_u32Max next]

/-- A storage layer around each call would change nothing. -/
theorem run_rollbackStep (s : State AccountId) (xs : List (Extrinsic AccountId Custom)) :
    Machine.run (Rollback.rollbackStep dispatch) s xs = run s xs := by
  refine (Rollback.run_keepStep_eq dispatch s xs ?_).symm
  induction xs generalizing s with
  | nil => exact True.intro
  | cons x xs ih =>
      refine ⟨?_, ih _⟩
      rintro ⟨⟨e, failed⟩, trace⟩
      exact trace ((rejectsExactly s x).atomic e failed)

/-- Over every run the pallet is its reference model, and every call, in whatever
state the run meets it, fails exactly where it should and then changes nothing. -/
theorem run_matches_reference (xs : List (Extrinsic AccountId Custom)) :
    ((run (genesis : State AccountId) xs).something = none ↔ ∀ x ∈ xs, ¬ Stores x) ∧
      (run (genesis : State AccountId) xs).something.map UInt32.toNat =
        (lastStored (history genesis xs)).map (fun last => last.1.toNat + last.2) ∧
      (∀ last ∈ lastStored (history genesis xs), last.1.toNat + last.2 ≤ u32Max.toNat) ∧
      (run genesis xs).events = (history genesis xs).filterMap owedEvent ∧
      ∀ (s : State AccountId) (x : Extrinsic AccountId Custom), RejectsExactly s x := by
  obtain ⟨value, trace⟩ := agrees_run xs
  refine ⟨?_, value, ?_, trace, rejectsExactly⟩
  · rw [something_run]
    exact and_iff_right rfl
  · intro last held
    rw [Option.mem_def.mp held, Option.map_some, Option.map_eq_some_iff] at value
    obtain ⟨something, _, same⟩ := value
    rw [← same]
    exact Nat.le_of_lt_succ something.toNat_lt_size

example : run genesis [((.system (.signed 1), .doSomething 42) : Extrinsic Nat Empty)] =
    ⟨some 42, [.somethingStored 42 1]⟩ := rfl

end Solochain.Template
