import Solochain.Runtime.Call

/-!
Self-contained extrinsics: the five methods the runtime implements on its call,
and the pipeline of fp_self_contained that runs them.

The methods of pallet_ethereum and the checks of ordinary extrinsics are fields
of `Checks`. The runtime's own methods pick the Ethereum call out of the outer
call and otherwise answer `None`; the last one matches on `transact` itself.
-/
namespace Solochain

/-- Code of other crates. `Storage` is the state the checks read. -/
structure Checks (Args Tx DispatchInfo Storage Validity Err Signature : Type) where
  isSelfContained : EthereumCall Args Tx → Bool
  checkSelfContained : EthereumCall Args Tx → Option (Except Err H160)
  validateSelfContained :
    EthereumCall Args Tx → H160 → DispatchInfo → Nat → Storage → Option (Except Err Validity)
  preDispatchSelfContained :
    EthereumCall Args Tx → H160 → DispatchInfo → Nat → Storage → Option (Except Err Unit)
  checkSignature : Signature → RuntimeCall Args Tx → Except Err AccountId
  validateExtra : Option AccountId → RuntimeCall Args Tx → DispatchInfo → Nat → Storage →
    Except Err Validity
  preDispatchExtra : Option AccountId → RuntimeCall Args Tx → DispatchInfo → Nat → Storage →
    Except Err Unit

variable {Args Tx DispatchInfo Storage Validity Err Signature : Type}

def EthereumCall.isTransact : EthereumCall Args Tx → Bool
  | .transact _ => true
  | .other _ => false

structure Checks.Lawful
    (M : Checks Args Tx DispatchInfo Storage Validity Err Signature) : Prop where
  isSelfContained_eq : ∀ c, M.isSelfContained c = c.isTransact
  check_isSome : ∀ c, (M.checkSelfContained c).isSome = c.isTransact
  validate_isSome : ∀ c info di len st,
    (M.validateSelfContained c info di len st).isSome = c.isTransact
  preDispatch_isSome : ∀ c info di len st,
    (M.preDispatchSelfContained c info di len st).isSome = c.isTransact

structure Dispatch (Args Tx : Type) where
  call : RuntimeCall Args Tx
  origin : RuntimeOrigin

namespace RuntimeCall
variable (M : Checks Args Tx DispatchInfo Storage Validity Err Signature)

def isSelfContained : RuntimeCall Args Tx → Bool
  | .ethereum call => M.isSelfContained call
  | _ => false

def checkSelfContained : RuntimeCall Args Tx → Option (Except Err H160)
  | .ethereum call => M.checkSelfContained call
  | _ => none

def validateSelfContained (self : RuntimeCall Args Tx) (info : H160)
    (dispatchInfo : DispatchInfo) (len : Nat) (st : Storage) : Option (Except Err Validity) :=
  match self with
  | .ethereum call => M.validateSelfContained call info dispatchInfo len st
  | _ => none

def preDispatchSelfContained (self : RuntimeCall Args Tx) (info : H160)
    (dispatchInfo : DispatchInfo) (len : Nat) (st : Storage) : Option (Except Err Unit) :=
  match self with
  | .ethereum call => M.preDispatchSelfContained call info dispatchInfo len st
  | _ => none

def applySelfContained (self : RuntimeCall Args Tx) (info : H160) : Option (Dispatch Args Tx) :=
  match self with
  | .ethereum (.transact transaction) =>
      some ⟨.ethereum (.transact transaction), .ethereumTransaction info⟩
  | _ => none

/-- The top-level call is `transact`, whatever calls are nested elsewhere. -/
def isTransact : RuntimeCall Args Tx → Bool
  | .ethereum call => call.isTransact
  | _ => false

variable {M}

theorem isSelfContained_eq_isTransact (hM : M.Lawful) (call : RuntimeCall Args Tx) :
    call.isSelfContained M = call.isTransact := by
  cases call with
  | ethereum call => exact hM.isSelfContained_eq call
  | _ => rfl

theorem check_isSome_eq_isTransact (hM : M.Lawful) (call : RuntimeCall Args Tx) :
    (call.checkSelfContained M).isSome = call.isTransact := by
  cases call with
  | ethereum call => exact hM.check_isSome call
  | _ => rfl

theorem validate_isSome_eq_isTransact (hM : M.Lawful) (call : RuntimeCall Args Tx) (info : H160)
    (di : DispatchInfo) (len : Nat) (st : Storage) :
    (call.validateSelfContained M info di len st).isSome = call.isTransact := by
  cases call with
  | ethereum call => exact hM.validate_isSome call info di len st
  | _ => rfl

theorem preDispatch_isSome_eq_isTransact (hM : M.Lawful) (call : RuntimeCall Args Tx)
    (info : H160) (di : DispatchInfo) (len : Nat) (st : Storage) :
    (call.preDispatchSelfContained M info di len st).isSome = call.isTransact := by
  cases call with
  | ethereum call => exact hM.preDispatch_isSome call info di len st
  | _ => rfl

theorem apply_eq_some_iff (call : RuntimeCall Args Tx) (info : H160) (d : Dispatch Args Tx) :
    call.applySelfContained info = some d ↔
      call.isTransact = true ∧ d = ⟨call, .ethereumTransaction info⟩ := by
  cases call with
  | ethereum call => cases call <;> simp [applySelfContained, isTransact, EthereumCall.isTransact,
      eq_comm]
  | _ => simp [applySelfContained, isTransact]

theorem exists_transaction_of_isTransact {call : RuntimeCall Args Tx}
    (h : call.isTransact = true) : ∃ transaction, call = .ethereum (.transact transaction) := by
  cases call with
  | ethereum call =>
      cases call with
      | transact transaction => exact ⟨transaction, rfl⟩
      | other args => cases h
  | _ => cases h

theorem apply_isSome_eq_isTransact (call : RuntimeCall Args Tx) (info : H160) :
    (call.applySelfContained info).isSome = call.isTransact := by
  cases call with
  | ethereum call => cases call <;> rfl
  | _ => rfl

end RuntimeCall

structure UncheckedExtrinsic (Args Tx Signature : Type) where
  signature : Option Signature
  function : RuntimeCall Args Tx

inductive CheckedSignature
  | signed (who : AccountId)
  | unsigned
  | selfContained (info : H160)

structure CheckedExtrinsic (Args Tx : Type) where
  signed : CheckedSignature
  function : RuntimeCall Args Tx

/-- Why the pipeline turns an extrinsic away. The real one reports `BadProof` for
the first two. -/
inductive Rejection (Err : Type)
  | signatureOnSelfContained
  | stepReturnedNone
  | invalid (e : Err)

def unwrapStep {R : Type} : Option (Except Err R) → Except (Rejection Err) R
  | some (.ok r) => .ok r
  | some (.error e) => .error (.invalid e)
  | none => .error .stepReturnedNone

def ordinary {R : Type} : Except Err R → Except (Rejection Err) R
  | .ok r => .ok r
  | .error e => .error (.invalid e)

namespace Pipeline
variable (M : Checks Args Tx DispatchInfo Storage Validity Err Signature)

def check (xt : UncheckedExtrinsic Args Tx Signature) :
    Except (Rejection Err) (CheckedExtrinsic Args Tx) :=
  if xt.function.isSelfContained M then
    match xt.signature with
    | some _ => .error .signatureOnSelfContained
    | none => do
        let info ← unwrapStep (xt.function.checkSelfContained M)
        .ok ⟨.selfContained info, xt.function⟩
  else
    match xt.signature with
    | some signature => do
        let who ← ordinary (M.checkSignature signature xt.function)
        .ok ⟨.signed who, xt.function⟩
    | none => .ok ⟨.unsigned, xt.function⟩

def validate (xt : CheckedExtrinsic Args Tx) (di : DispatchInfo) (len : Nat) (st : Storage) :
    Except (Rejection Err) Validity :=
  match xt.signed with
  | .selfContained info => unwrapStep (xt.function.validateSelfContained M info di len st)
  | .signed who => ordinary (M.validateExtra (some who) xt.function di len st)
  | .unsigned => ordinary (M.validateExtra none xt.function di len st)

def apply (xt : CheckedExtrinsic Args Tx) (di : DispatchInfo) (len : Nat) (st : Storage) :
    Except (Rejection Err) (Dispatch Args Tx) :=
  match xt.signed with
  | .selfContained info => do
      unwrapStep (xt.function.preDispatchSelfContained M info di len st)
      match xt.function.applySelfContained info with
      | some d => .ok d
      | none => .error .stepReturnedNone
  | .signed who => do
      ordinary (M.preDispatchExtra (some who) xt.function di len st)
      .ok ⟨xt.function, .signed who⟩
  | .unsigned => do
      ordinary (M.preDispatchExtra none xt.function di len st)
      .ok ⟨xt.function, .none⟩

variable {M}

theorem unwrapStep_eq_ok {R : Type} {r : Option (Except Err R)} {v : R}
    (h : unwrapStep r = .ok v) : r = some (.ok v) := by
  cases r with
  | none => cases h
  | some step =>
      cases step with
      | error e => cases h
      | ok r =>
          cases h
          rfl

theorem check_eq_ok {xt : UncheckedExtrinsic Args Tx Signature} {checked : CheckedExtrinsic Args Tx}
    (h : check M xt = .ok checked) :
    checked.function = xt.function ∧
      match checked.signed with
      | .selfContained info =>
          xt.function.isSelfContained M = true ∧ xt.signature = none ∧
            xt.function.checkSelfContained M = some (.ok info)
      | _ => xt.function.isSelfContained M = false := by
  simp only [check] at h
  cases own : xt.function.isSelfContained M with
  | true =>
      simp only [own, if_true] at h
      cases signature : xt.signature with
      | some s => simp [signature] at h
      | none =>
          rw [signature] at h
          obtain ⟨info, step, passed⟩ := bind_eq_ok h
          cases passed
          exact ⟨rfl, rfl, rfl, unwrapStep_eq_ok step⟩
  | false =>
      simp only [own, Bool.false_eq_true, if_false] at h
      cases signature : xt.signature with
      | none =>
          rw [signature] at h
          cases h
          exact ⟨rfl, rfl⟩
      | some s =>
          rw [signature] at h
          obtain ⟨who, _, passed⟩ := bind_eq_ok h
          cases passed
          exact ⟨rfl, rfl⟩

theorem unwrapStep_ne_stepReturnedNone {R : Type} {r : Option (Except Err R)}
    (h : r.isSome = true) : unwrapStep r ≠ .error .stepReturnedNone := by
  obtain ⟨v, rfl⟩ := Option.isSome_iff_exists.mp h
  cases v <;> simp [unwrapStep]

theorem ordinary_ne_stepReturnedNone {R : Type} (r : Except Err R) :
    ordinary r ≠ .error .stepReturnedNone := by
  cases r <;> simp [ordinary]

theorem bind_ne_stepReturnedNone {R S : Type} {r : Except (Rejection Err) R}
    {f : R → Except (Rejection Err) S} (hr : r ≠ .error .stepReturnedNone)
    (hf : ∀ v, f v ≠ .error .stepReturnedNone) : r >>= f ≠ .error .stepReturnedNone := by
  cases r with
  | ok v => exact hf v
  | error e =>
      intro same
      exact hr (congrArg Except.error (Except.error.inj same))

theorem isTransact_of_checked (hM : M.Lawful) {xt : UncheckedExtrinsic Args Tx Signature}
    {checked : CheckedExtrinsic Args Tx} {info : H160} (h : check M xt = .ok checked)
    (own : checked.signed = .selfContained info) : checked.function.isTransact = true := by
  obtain ⟨same, known⟩ := check_eq_ok h
  simp only [own] at known
  rw [same, ← RuntimeCall.isSelfContained_eq_isTransact hM]
  exact known.1

theorem check_ne_stepReturnedNone (hM : M.Lawful) (xt : UncheckedExtrinsic Args Tx Signature) :
    check M xt ≠ .error .stepReturnedNone := by
  rw [check]
  split
  · rename_i own
    cases xt.signature with
    | some s => simp
    | none =>
        apply bind_ne_stepReturnedNone
        · apply unwrapStep_ne_stepReturnedNone
          rw [RuntimeCall.check_isSome_eq_isTransact hM,
            ← RuntimeCall.isSelfContained_eq_isTransact hM]
          exact own
        · simp
  · cases xt.signature with
    | none => simp
    | some s =>
        apply bind_ne_stepReturnedNone (ordinary_ne_stepReturnedNone _)
        simp

theorem validate_ne_stepReturnedNone (hM : M.Lawful) {xt : UncheckedExtrinsic Args Tx Signature}
    {checked : CheckedExtrinsic Args Tx} (h : check M xt = .ok checked)
    (di : DispatchInfo) (len : Nat) (st : Storage) :
    validate M checked di len st ≠ .error .stepReturnedNone := by
  rw [validate]
  cases own : checked.signed with
  | selfContained info =>
      apply unwrapStep_ne_stepReturnedNone
      rw [RuntimeCall.validate_isSome_eq_isTransact hM]
      exact isTransact_of_checked hM h own
  | signed who => exact ordinary_ne_stepReturnedNone _
  | unsigned => exact ordinary_ne_stepReturnedNone _

theorem apply_ne_stepReturnedNone (hM : M.Lawful) {xt : UncheckedExtrinsic Args Tx Signature}
    {checked : CheckedExtrinsic Args Tx} (h : check M xt = .ok checked)
    (di : DispatchInfo) (len : Nat) (st : Storage) :
    apply M checked di len st ≠ .error .stepReturnedNone := by
  rw [apply]
  cases own : checked.signed with
  | selfContained info =>
      have transact := isTransact_of_checked hM h own
      apply bind_ne_stepReturnedNone
      · apply unwrapStep_ne_stepReturnedNone
        rw [RuntimeCall.preDispatch_isSome_eq_isTransact hM]
        exact transact
      · intro _
        rw [(RuntimeCall.apply_eq_some_iff checked.function info _).mpr ⟨transact, rfl⟩]
        simp
  | signed who =>
      apply bind_ne_stepReturnedNone (ordinary_ne_stepReturnedNone _)
      simp
  | unsigned =>
      apply bind_ne_stepReturnedNone (ordinary_ne_stepReturnedNone _)
      simp

/-- Only the self-contained branch dispatches from an Ethereum origin. -/
theorem apply_eq_ok_ethereum {checked : CheckedExtrinsic Args Tx} {di : DispatchInfo} {len : Nat}
    {st : Storage} {call : RuntimeCall Args Tx} {a : H160}
    (h : apply M checked di len st = .ok ⟨call, .ethereumTransaction a⟩) :
    checked.signed = .selfContained a ∧ checked.function.isTransact = true ∧
      call = checked.function := by
  rw [apply] at h
  cases own : checked.signed with
  | selfContained info =>
      rw [own] at h
      obtain ⟨_, _, applied⟩ := bind_eq_ok h
      cases dispatched : checked.function.applySelfContained info with
      | none => simp [dispatched] at applied
      | some d =>
          obtain ⟨transact, rfl⟩ := (RuntimeCall.apply_eq_some_iff _ _ _).mp dispatched
          rw [dispatched] at applied
          cases applied
          exact ⟨rfl, transact, rfl⟩
  | signed who =>
      rw [own] at h
      obtain ⟨_, _, applied⟩ := bind_eq_ok h
      cases applied
  | unsigned =>
      rw [own] at h
      obtain ⟨_, _, applied⟩ := bind_eq_ok h
      cases applied

end Pipeline

/-- The five methods answer on the same calls, so the pipeline never loses a call
between its steps, and an Ethereum origin always names the signer that the check
recovered from that very transaction. -/
theorem selfContained_methods_agree
    (M : Checks Args Tx DispatchInfo Storage Validity Err Signature) (hM : M.Lawful) :
    (∀ (call : RuntimeCall Args Tx) (info : H160) (di : DispatchInfo) (len : Nat) (st : Storage),
      (call.checkSelfContained M).isSome = call.isSelfContained M ∧
      (call.validateSelfContained M info di len st).isSome = call.isSelfContained M ∧
      (call.preDispatchSelfContained M info di len st).isSome = call.isSelfContained M ∧
      (call.applySelfContained info).isSome = call.isSelfContained M) ∧
    (∀ (xt : UncheckedExtrinsic Args Tx Signature),
      Pipeline.check M xt ≠ .error .stepReturnedNone ∧
      ∀ checked, Pipeline.check M xt = .ok checked → ∀ di len st,
        Pipeline.validate M checked di len st ≠ .error .stepReturnedNone ∧
        Pipeline.apply M checked di len st ≠ .error .stepReturnedNone) ∧
    (∀ (xt : UncheckedExtrinsic Args Tx Signature) (checked : CheckedExtrinsic Args Tx)
      (di : DispatchInfo) (len : Nat) (st : Storage) (call : RuntimeCall Args Tx) (a : H160),
      Pipeline.check M xt = .ok checked →
      Pipeline.apply M checked di len st = .ok ⟨call, .ethereumTransaction a⟩ →
      xt.signature = none ∧ call = xt.function ∧
        (∃ transaction, xt.function = .ethereum (.transact transaction)) ∧
        xt.function.checkSelfContained M = some (.ok a)) := by
  refine ⟨?_, ?_, ?_⟩
  · intro call info di len st
    rw [RuntimeCall.isSelfContained_eq_isTransact hM]
    exact ⟨RuntimeCall.check_isSome_eq_isTransact hM call,
      RuntimeCall.validate_isSome_eq_isTransact hM call info di len st,
      RuntimeCall.preDispatch_isSome_eq_isTransact hM call info di len st,
      RuntimeCall.apply_isSome_eq_isTransact call info⟩
  · intro xt
    refine ⟨Pipeline.check_ne_stepReturnedNone hM xt, ?_⟩
    intro checked passed di len st
    exact ⟨Pipeline.validate_ne_stepReturnedNone hM passed di len st,
      Pipeline.apply_ne_stepReturnedNone hM passed di len st⟩
  · intro xt checked di len st call a passed applied
    obtain ⟨own, transact, rfl⟩ := Pipeline.apply_eq_ok_ethereum applied
    obtain ⟨same, known⟩ := Pipeline.check_eq_ok passed
    simp only [own] at known
    obtain ⟨_, unsigned, signer⟩ := known
    rw [same] at transact ⊢
    exact ⟨unsigned, rfl, RuntimeCall.exists_transaction_of_isTransact transact, signer⟩

/-- Transactions named by the number of their signer; number 0 has a bad signature. -/
def sampleChecks : Checks Nat Nat Unit Unit Unit Nat Nat where
  isSelfContained := EthereumCall.isTransact
  checkSelfContained
    | .transact transaction =>
        some (if transaction = 0 then .error 0 else .ok (FixedBytes.ofNat 20 transaction))
    | .other _ => none
  validateSelfContained c _ _ _ _ := if c.isTransact then some (.ok ()) else none
  preDispatchSelfContained c _ _ _ _ := if c.isTransact then some (.ok ()) else none
  checkSignature signature _ := .ok (FixedBytes.ofNat 32 signature)
  validateExtra _ _ _ _ _ := .ok ()
  preDispatchExtra _ _ _ _ _ := .ok ()

theorem sampleChecks_lawful : sampleChecks.Lawful where
  isSelfContained_eq _ := rfl
  check_isSome c := by cases c <;> rfl
  validate_isSome c _ _ _ _ := by cases c <;> rfl
  preDispatch_isSome c _ _ _ _ := by cases c <;> rfl

theorem selfContained_methods_agree_sample :
    (RuntimeCall.checkSelfContained sampleChecks
        (.sudo (.dispatch 0 (.ethereum (.transact 5))))).isSome = false ∧
      RuntimeCall.checkSelfContained sampleChecks (.ethereum (.transact 5)) =
        some (.ok (FixedBytes.ofNat 20 5)) :=
  ⟨((selfContained_methods_agree sampleChecks sampleChecks_lawful).1
      (.sudo (.dispatch 0 (.ethereum (.transact 5)))) (FixedBytes.ofNat 20 5) () 0 ()).1,
    ((selfContained_methods_agree sampleChecks sampleChecks_lawful).2.2
      ⟨none, .ethereum (.transact 5)⟩
      ⟨.selfContained (FixedBytes.ofNat 20 5), .ethereum (.transact 5)⟩ () 0 ()
      (.ethereum (.transact 5)) (FixedBytes.ofNat 20 5) rfl rfl).2.2.2⟩

end Solochain
