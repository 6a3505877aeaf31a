import Solochain.Library.FixedBytes

/-!
The types and constants that the runtime and the node share.
-/
namespace Solochain

abbrev H160 := FixedBytes 20

abbrev H256 := FixedBytes 32

/-- The public key of a `MultiSignature` signer. -/
abbrev AccountId := FixedBytes 32

abbrev PublicKey := FixedBytes 32

/-- A `u128`. -/
abbrev Balance := Nat

def u128Max : Balance := 2 ^ 128 - 1

/-- The consensus engines of the chain. -/
inductive Engine
  | babe
  | grandpa
  deriving DecidableEq

inductive Panic
  | remainderByZero
  | indexOutOfBounds
  | timestampTooEarly
  | slotMismatch
  deriving DecidableEq

theorem bind_eq_ok {ε α β : Type} {x : Except ε α} {f : α → Except ε β} {b : β}
    (h : x >>= f = .ok b) : ∃ a, x = .ok a ∧ f a = .ok b := by
  cases x with
  | error e => cases h
  | ok a => exact ⟨a, rfl, h⟩

namespace Currency

def millicents : Balance := 10_000_000_000_000

def cents : Balance := 1_000 * millicents

def dollars : Balance := 100 * cents

end Currency

def existentialDeposit : Balance := 1000

namespace Time

def millisecsPerBlock : UInt64 := 6000

def slotDuration : UInt64 := millisecsPerBlock

def minimumPeriod : UInt64 := slotDuration / 2

end Time
end Solochain
