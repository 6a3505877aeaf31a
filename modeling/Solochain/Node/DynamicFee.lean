import Solochain.Library.Machine
import Solochain.Node.InherentData

/-!
The gas price target that blocks note, over runs of authored blocks.

How far a block moves the price towards a noted target is code of another crate:
`step` is the price after a block that notes the target.
-/
namespace Solochain
namespace DynamicFee

/-- `create_inherent`: the target a block notes, made of its inherent data. -/
def notedTarget (providers : List InherentDataProvider) : Option Nat :=
  (InherentData.create providers).toOption.bind InherentData.targetGasPrice

section Price
variable {β : Type} (step : Nat → Nat → Nat) (providers : β → List InherentDataProvider)

def finalize (price : Nat) (block : β) : Nat :=
  match notedTarget (providers block) with
  | some target => step target price
  | none => price

def minGasPrice (price : Nat) (blocks : List β) : Nat :=
  Machine.run (finalize step providers) price blocks

variable {step providers}

theorem minGasPrice_of_noted {target : Nat}
    (noted : ∀ block, notedTarget (providers block) = some target)
    (price : Nat) (blocks : List β) :
    minGasPrice step providers price blocks = (step target)^[blocks.length] price := by
  apply Machine.run_eq_iterate
  intro price block
  rw [finalize, noted]

theorem minGasPrice_of_unnoted (unnoted : ∀ block, notedTarget (providers block) = none)
    (price : Nat) (blocks : List β) : minGasPrice step providers price blocks = price := by
  have same : ∀ price block, finalize step providers price block = id price := by
    intro price block
    rw [finalize, unnoted]
    rfl
  exact (Machine.run_eq_iterate same price blocks).trans
    (congrFun (Function.iterate_id blocks.length) price)

end Price

/-- What an authored block depends on: the wall-clock time and the storage proof for
its parent. -/
structure AuthoredBlock where
  now : UInt64
  proof : Option Bytes
  deriving DecidableEq

def AuthoredBlock.inherents (b : AuthoredBlock) : List InherentDataProvider :=
  Node.authoringInherents b.now b.proof

theorem notedTarget_pending (now targetGasPrice : UInt64) :
    notedTarget (Node.pendingInherents now targetGasPrice) = some targetGasPrice.toNat := by
  rw [notedTarget, Node.create_pendingInherents]
  rfl

theorem notedTarget_import (now targetGasPrice : UInt64) :
    notedTarget (Node.importInherents now targetGasPrice) = some targetGasPrice.toNat := by
  rw [notedTarget, Node.create_importInherents]
  rfl

theorem notedTarget_authoring (b : AuthoredBlock) : notedTarget b.inherents = none := by
  rw [notedTarget, AuthoredBlock.inherents, Node.create_authoringInherents]
  cases b.proof <;> rfl

/-- Blocks made as the pending block is would move the price at every step. -/
theorem minGasPrice_pending (step : Nat → Nat → Nat) (targetGasPrice : UInt64) (price : Nat)
    (times : List UInt64) :
    minGasPrice step (fun now => Node.pendingInherents now targetGasPrice) price times =
      (step targetGasPrice.toNat)^[times.length] price :=
  minGasPrice_of_noted (fun now => notedTarget_pending now targetGasPrice) price times

theorem minGasPrice_authoring (step : Nat → Nat → Nat) (price : Nat)
    (blocks : List AuthoredBlock) :
    minGasPrice step AuthoredBlock.inherents price blocks = price :=
  minGasPrice_of_unnoted notedTarget_authoring price blocks

/-- A run of authored blocks follows the target of the node, as its pending blocks do. -/
structure FollowsTarget (step : Nat → Nat → Nat) (targetGasPrice : UInt64) (price : Nat)
    (blocks : List AuthoredBlock) : Prop where
  notes : ∀ b ∈ blocks, notedTarget b.inherents = some targetGasPrice.toNat
  asPending : ∀ b ∈ blocks,
    notedTarget b.inherents = notedTarget (Node.pendingInherents b.now targetGasPrice)
  price : minGasPrice step AuthoredBlock.inherents price blocks =
    (step targetGasPrice.toNat)^[blocks.length] price

theorem followsTarget_iff (step : Nat → Nat → Nat) (targetGasPrice : UInt64) (price : Nat)
    (blocks : List AuthoredBlock) :
    FollowsTarget step targetGasPrice price blocks ↔ blocks = [] := by
  constructor
  · intro follows
    cases blocks with
    | nil => rfl
    | cons b blocks =>
        have noted := follows.notes b List.mem_cons_self
        rw [notedTarget_authoring] at noted
        cases noted
  · rintro rfl
    exact { notes := by simp, asPending := by simp, price := rfl }

def boundedStep (target price : Nat) : Nat :=
  let bound := price / 1024 + 1
  min (price + bound) (max (price - bound) target)

theorem authored_block_keeps_price :
    ¬ FollowsTarget boundedStep 1 1_000_000_000
      [{ now := 1_700_000_000_000, proof := none }] := by
  intro follows
  exact absurd follows.price (by decide)

end DynamicFee
end Solochain
