import Solochain.Library.Rollback
import Solochain.Runtime.Limits
import Solochain.Runtime.Types

/-!
The pending block that the Ethereum RPC asks the runtime for, against the block
the block builder would make of the same extrinsics.

`pendingBlock` and the order of `signedExtra` are the runtime's own. Executive,
the pre-dispatch of each extension and the finalisation of pallet_ethereum are
code of other crates: they enter as the fields of `Frame`, and what the runtime
relies on is stated in `Frame.Lawful`.
-/
namespace Solochain
open Rollback

inductive SignedExtension
  | checkNonZeroSender
  | checkSpecVersion
  | checkTxVersion
  | checkGenesis
  | checkEra
  | checkNonce
  | checkWeight
  | chargeTransactionPayment
  | checkMetadataHash
  deriving DecidableEq

def signedExtra : List SignedExtension :=
  [.checkNonZeroSender, .checkSpecVersion, .checkTxVersion, .checkGenesis, .checkEra,
    .checkNonce, .checkWeight, .chargeTransactionPayment, .checkMetadataHash]

def beforeNonce : List SignedExtension := signedExtra.takeWhile (· ≠ .checkNonce)

def upToNonce : List SignedExtension := beforeNonce ++ [.checkNonce]

def afterNonce : List SignedExtension := (signedExtra.dropWhile (· ≠ .checkNonce)).tail

theorem signedExtra_eq_append : signedExtra = upToNonce ++ afterNonce := by decide

theorem beforeNonce_readers :
    ∀ e ∈ beforeNonce, e ≠ .checkNonce ∧ e ≠ .checkWeight ∧ e ≠ .chargeTransactionPayment := by
  decide

theorem ne_checkNonce_of_mem_afterNonce : ∀ e ∈ afterNonce, e ≠ .checkNonce := by decide

structure EthereumBlock (Tx : Type) where
  transactions : List Tx
  deriving DecidableEq

/-- What the runtime API calls in other crates. `signer` is `none` for inherents,
unsigned and self-contained extrinsics, which do not pass `signedExtra`. -/
structure Frame (State Xt Err Account Header Tx Status : Type) where
  initializeBlock : Header → State → State
  signer : Xt → Option Account
  preDispatch : SignedExtension → Stage State Xt Err
  preDispatchUnsigned : Attempt State Xt Err
  dispatch : Xt → State → State
  accountNonce : State → Account → Nat
  blockNumber : State → Nat
  pending : State → List (Tx × Status)
  onFinalize : Nat → State → State
  currentBlock : State → Option (EthereumBlock Tx)
  currentTransactionStatuses : State → Option (List Status)

variable {State Xt Err Account Header Tx Status : Type}

/-- Only three members of the tuple write storage, only `CheckNonce` writes a
nonce, and pallet_ethereum stores the pending transactions and statuses in their
order. -/
structure Frame.Lawful (F : Frame State Xt Err Account Header Tx Status) : Prop where
  readOnly : ∀ e, e ≠ .checkNonce → e ≠ .checkWeight → e ≠ .chargeTransactionPayment →
    ReadOnly (F.preDispatch e)
  checkNonce_bumps : ∀ x a s s', F.signer x = some a →
    F.preDispatch .checkNonce x s = .ok s' → F.accountNonce s' a ≠ F.accountNonce s a
  keepsNonce : ∀ e x a s s', e ≠ .checkNonce →
    F.preDispatch e x s = .ok s' → F.accountNonce s' a = F.accountNonce s a
  onFinalize_block : ∀ n s,
    F.currentBlock (F.onFinalize n s) = some ⟨(F.pending s).map Prod.fst⟩
  onFinalize_statuses : ∀ n s,
    F.currentTransactionStatuses (F.onFinalize n s) = some ((F.pending s).map Prod.snd)

namespace Frame
variable (F : Frame State Xt Err Account Header Tx Status)

def preDispatchAll (es : List SignedExtension) : Attempt State Xt Err :=
  runStages (es.map F.preDispatch)

def checkApply (x : Xt) (s : State) : Except Err Unit × State :=
  match F.signer x with
  | some _ => F.preDispatchAll signedExtra x s
  | none => F.preDispatchUnsigned x s

/-- `Executive::apply_extrinsic`: a dispatch that fails is still applied, only a
pre-dispatch that fails rejects the extrinsic. -/
def applyExtrinsic : Attempt State Xt Err := fun x s =>
  match (F.checkApply x s).1 with
  | .ok _ => (.ok (), F.dispatch x (F.checkApply x s).2)
  | .error e => (.error e, (F.checkApply x s).2)

def initializePendingBlock (header : Header) (s : State) : State :=
  F.initializeBlock header s

def pendingBlock (xts : List Xt) (s : State) :
    Option (EthereumBlock Tx) × Option (List Status) :=
  -- `let _ = Executive::apply_extrinsic(ext)`: the outcome is dropped, the state kept
  let applied := xts.foldl (fun s ext => (F.applyExtrinsic ext s).2) s
  let finalized := F.onFinalize (F.blockNumber applied + 1) applied
  (F.currentBlock finalized, F.currentTransactionStatuses finalized)

/-- The block builder opens a storage transaction for each extrinsic and commits
it only when the extrinsic is applied. -/
def blockBuilder (xts : List Xt) (s : State) : State :=
  Machine.run (rollbackStep F.applyExtrinsic) s xts

def PendingMatchesBuilder (s : State) (xts : List Xt) : Prop :=
  (F.pendingBlock xts s).1.map EthereumBlock.transactions =
      some ((F.pending (F.blockBuilder xts s)).map Prod.fst) ∧
    (F.pendingBlock xts s).2 = some ((F.pending (F.blockBuilder xts s)).map Prod.snd)

/-- The extrinsic passes `CheckNonce` and a later member of the tuple rejects it;
one that is not signed is rejected after its pre-dispatch changed the state. -/
def RejectedLate (s : State) (x : Xt) : Prop :=
  match F.signer x with
  | some _ =>
      (∃ u, (F.preDispatchAll upToNonce x s).1 = .ok u) ∧
        ∃ e, (F.preDispatchAll afterNonce x (F.preDispatchAll upToNonce x s).2).1 = .error e
  | none => LeavesTrace F.preDispatchUnsigned s x

def NoLateRejection : State → List Xt → Prop
  | _, [] => True
  | s, x :: xts =>
      ¬ F.RejectedLate s x ∧ NoLateRejection (rollbackStep F.applyExtrinsic s x) xts

theorem leavesTrace_applyExtrinsic_iff_checkApply (s : State) (x : Xt) :
    LeavesTrace F.applyExtrinsic s x ↔ LeavesTrace F.checkApply s x := by
  rw [LeavesTrace, LeavesTrace, applyExtrinsic]
  cases h : (F.checkApply x s).1 <;> simp

theorem preDispatchAll_append (es es' : List SignedExtension) (x : Xt) (s : State) :
    F.preDispatchAll (es ++ es') x s =
      match (F.preDispatchAll es x s).1 with
      | .ok _ => F.preDispatchAll es' x (F.preDispatchAll es x s).2
      | .error e => (.error e, (F.preDispatchAll es x s).2) := by
  rw [preDispatchAll, List.map_append]
  exact runStages_append _ _ x s

variable {F}

theorem preDispatchAll_beforeNonce (hF : F.Lawful) (x : Xt) (s : State) :
    (F.preDispatchAll beforeNonce x s).2 = s := by
  apply runStages_of_readOnly
  intro m hm
  obtain ⟨e, he, rfl⟩ := List.mem_map.mp hm
  obtain ⟨notNonce, notWeight, notPayment⟩ := beforeNonce_readers e he
  exact hF.readOnly e notNonce notWeight notPayment

/-- Up to `CheckNonce` the tuple has either stored nothing or changed the
signer's nonce. -/
theorem preDispatchAll_upToNonce (hF : F.Lawful) (x : Xt) (a : Account)
    (signed : F.signer x = some a) (s : State) :
    match (F.preDispatchAll upToNonce x s).1 with
    | .ok _ => F.accountNonce (F.preDispatchAll upToNonce x s).2 a ≠ F.accountNonce s a
    | .error _ => (F.preDispatchAll upToNonce x s).2 = s := by
  rw [upToNonce, preDispatchAll_append, preDispatchAll_beforeNonce hF]
  cases (F.preDispatchAll beforeNonce x s).1 with
  | error e => rfl
  | ok u =>
      simp only [preDispatchAll, List.map_cons, List.map_nil, runStages]
      cases bump : F.preDispatch .checkNonce x s with
      | error e => rfl
      | ok s' => exact hF.checkNonce_bumps x a s s' signed bump

theorem preDispatchAll_afterNonce (hF : F.Lawful) (x : Xt) (a : Account) (s : State) :
    F.accountNonce (F.preDispatchAll afterNonce x s).2 a = F.accountNonce s a := by
  apply runStages_of_unchanged (fun s => F.accountNonce s a)
  intro m hm s s' ok
  obtain ⟨e, he, rfl⟩ := List.mem_map.mp hm
  exact hF.keepsNonce e x a s s' (ne_checkNonce_of_mem_afterNonce e he) ok

/-- A rejection leaves a trace exactly when it is late: before `CheckNonce`
nothing is stored, and after it the bumped nonce stays. -/
theorem leavesTrace_iff_rejectedLate (hF : F.Lawful) (s : State) (x : Xt) :
    LeavesTrace F.applyExtrinsic s x ↔ F.RejectedLate s x := by
  rw [leavesTrace_applyExtrinsic_iff_checkApply]
  rw [RejectedLate]
  cases signed : F.signer x with
  | none => simp only [LeavesTrace, checkApply, signed]
  | some a =>
      have early := preDispatchAll_upToNonce hF x a signed s
      simp only [LeavesTrace, checkApply, signed, signedExtra_eq_append, preDispatchAll_append]
      cases h : (F.preDispatchAll upToNonce x s).1 with
      | error e =>
          simp only [h] at early
          simp [early]
      | ok u =>
          simp only [h] at early
          have kept := preDispatchAll_afterNonce hF x a (F.preDispatchAll upToNonce x s).2
          constructor
          · rintro ⟨rejected, _⟩
            exact ⟨⟨u, rfl⟩, rejected⟩
          · rintro ⟨_, rejected⟩
            refine ⟨rejected, ?_⟩
            intro same
            rw [same] at kept
            exact early kept.symm

theorem noLateRejection_iff_traceless (hF : F.Lawful) (s : State) (xts : List Xt) :
    F.NoLateRejection s xts ↔ Traceless F.applyExtrinsic s xts := by
  induction xts generalizing s with
  | nil => rfl
  | cons x xts ih =>
      simp only [NoLateRejection, Traceless, leavesTrace_iff_rejectedLate hF, ih]

theorem pendingBlock_eq_pending_of_kept (hF : F.Lawful) (xts : List Xt) (s : State) :
    F.pendingBlock xts s =
      (some ⟨(F.pending (Machine.run (keepStep F.applyExtrinsic) s xts)).map Prod.fst⟩,
        some ((F.pending (Machine.run (keepStep F.applyExtrinsic) s xts)).map Prod.snd)) := by
  simp only [pendingBlock, hF.onFinalize_block, hF.onFinalize_statuses]
  rfl

end Frame

/-! A chain with accounts, one resource meter and the pending Ethereum
transactions, on which both folds can be run. -/

structure SampleState where
  nonce : Nat → Nat
  balance : Nat → Balance
  consumedWeight : Nat
  extrinsicsLen : Nat
  pending : List (Nat × Bool)
  block : Option (EthereumBlock Nat)
  statuses : Option (List Bool)

structure SampleExtrinsic where
  signer : Option Nat
  nonce : Nat
  weight : Nat
  len : Nat
  transaction : Nat

/-- `IdentityFee` for weight and length. -/
def SampleExtrinsic.fee (x : SampleExtrinsic) : Balance := x.weight + x.len

inductive InvalidTransaction
  | future
  | payment
  | exhaustsResources
  deriving DecidableEq

namespace SampleState

def bumpNonce (s : SampleState) (a : Nat) : SampleState :=
  { s with nonce := fun b => if b = a then s.nonce b + 1 else s.nonce b }

def withdraw (s : SampleState) (a : Nat) (fee : Balance) : SampleState :=
  { s with balance := fun b => if b = a then s.balance b - fee else s.balance b }

def checkWeight (x : SampleExtrinsic) (s : SampleState) : Except InvalidTransaction SampleState :=
  if s.consumedWeight + x.weight ≤ normalMaxTotal.refTime then
    .ok { s with
      consumedWeight := s.consumedWeight + x.weight
      extrinsicsLen := s.extrinsicsLen + x.len }
  else .error .exhaustsResources

def preDispatch : SignedExtension → Stage SampleState SampleExtrinsic InvalidTransaction
  | .checkNonce, x, s =>
      let a := x.signer.getD 0
      if x.nonce = s.nonce a then .ok (s.bumpNonce a) else .error .future
  | .checkWeight, x, s => checkWeight x s
  | .chargeTransactionPayment, x, s =>
      let a := x.signer.getD 0
      if x.fee + existentialDeposit ≤ s.balance a then .ok (s.withdraw a x.fee)
      else .error .payment
  | _, _, s => .ok s

end SampleState

def sampleFrame :
    Frame SampleState SampleExtrinsic InvalidTransaction Nat Unit Nat Bool where
  initializeBlock _ s := { s with consumedWeight := 0, extrinsicsLen := 0, pending := [] }
  signer := SampleExtrinsic.signer
  preDispatch := SampleState.preDispatch
  preDispatchUnsigned := runStages [SampleState.checkWeight]
  dispatch x s :=
    match x.signer with
    | some _ => s
    | none => { s with pending := s.pending ++ [(x.transaction, true)] }
  accountNonce := SampleState.nonce
  blockNumber _ := 0
  pending := SampleState.pending
  onFinalize _ s :=
    { s with
      block := some ⟨s.pending.map Prod.fst⟩
      statuses := some (s.pending.map Prod.snd) }
  currentBlock := SampleState.block
  currentTransactionStatuses := SampleState.statuses

theorem sampleFrame_lawful : sampleFrame.Lawful where
  readOnly := by
    intro e notNonce notWeight notPayment x s s' ok
    cases e <;> simp_all [sampleFrame, SampleState.preDispatch]
  checkNonce_bumps := by
    intro x a s s' signed ok
    have signer : x.signer = some a := signed
    simp only [sampleFrame, SampleState.preDispatch, signer, Option.getD_some] at ok
    split at ok
    · cases ok
      simp [sampleFrame, SampleState.bumpNonce]
    · cases ok
  keepsNonce := by
    intro e x a s s' notNonce ok
    cases e <;>
      simp only [sampleFrame, SampleState.preDispatch, SampleState.checkWeight] at ok ⊢ <;>
      first
        | (cases ok; rfl)
        | (split at ok <;> cases ok; rfl)
        | exact absurd rfl notNonce
  onFinalize_block _ _ := rfl
  onFinalize_statuses _ _ := rfl

def sampleGenesis : SampleState :=
  { nonce := fun _ => 0
    balance := fun a => if a = 1 then Currency.dollars else Currency.millicents / 100
    consumedWeight := 0
    extrinsicsLen := 0
    pending := []
    block := none
    statuses := none }

def signedBatch (signer nonce : Nat) : SampleExtrinsic :=
  { signer := some signer, nonce := nonce, weight := 1_000_000_000_000, len := 150,
    transaction := 0 }

def transactOf (transaction : Nat) : SampleExtrinsic :=
  { signer := none, nonce := 0, weight := 1_000_000_000_000, len := 250,
    transaction := transaction }

end Solochain
