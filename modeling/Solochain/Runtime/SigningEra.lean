import Mathlib.Data.Nat.Log
import Solochain.Library.Window
import Solochain.Runtime.Types

/-!
The mortal era of the transactions that the runtime signs off chain.

`Era` and `CheckEra` belong to other crates. The era is built from the block
before the current one, and its birth block is computed again, from the number of
the block in hand, at signing and at each later check.
-/
namespace Solochain

def checkedNextPowerOfTwo (bits n : Nat) : Option Nat :=
  let power := 2 ^ Nat.clog 2 n
  if power < 2 ^ bits then some power else none

structure MortalEra where
  period : Nat
  phase : Nat
  four_le : 4 ≤ period
  deriving DecidableEq

namespace MortalEra

def birth (era : MortalEra) (current : Nat) : Nat :=
  (max current era.phase - era.phase) / era.period * era.period + era.phase

/-- `Era::mortal`. -/
def mortal (period current : Nat) : MortalEra :=
  let period := max 4 (min ((checkedNextPowerOfTwo 64 period).getD (1 <<< 16)) (1 <<< 16))
  let phase := current % period
  let quantizeFactor := max (period >>> 12) 1
  let quantizedPhase := phase / quantizeFactor * quantizeFactor
  ⟨period, quantizedPhase, Nat.le_max_left 4 _⟩

theorem birth_eq_start (era : MortalEra) (current : Nat) :
    era.birth current = Window.start era.period era.phase current := rfl

theorem period_pos (era : MortalEra) : 0 < era.period :=
  Nat.lt_of_lt_of_le (by decide) era.four_le

theorem birth_eq_iff (era : MortalEra) {n m : Nat} (phase : era.phase ≤ n) (later : n ≤ m) :
    era.birth m = era.birth n ↔ m < era.birth n + era.period := by
  simp only [birth_eq_start]
  exact Window.start_eq_iff era.period_pos phase later

theorem lt_birth_add (era : MortalEra) {n : Nat} (phase : era.phase ≤ n) :
    n < era.birth n + era.period := by
  rw [birth_eq_start]
  exact Window.lt_start_add era.period_pos phase

theorem phase_le (period current : Nat) : (mortal period current).phase ≤ current :=
  Window.quantizedPhase_le _ _ _

theorem birth_succ_le (period current : Nat) :
    (mortal period current).birth (current + 1) ≤ current := by
  refine Window.start_succ_le ?_ (Nat.le_max_right _ 1) current
  have clamped := (mortal period current).four_le
  have shifted := Nat.shiftRight_eq_div_pow (mortal period current).period 12
  change max ((mortal period current).period >>> 12) 1 < (mortal period current).period
  omega

end MortalEra

/-- The hashes of the last `blockHashCount` blocks before `current` are kept. -/
def blockHashAt (blockHashCount : Nat) (hashes : Nat → H256) (current n : Nat) : Option H256 :=
  if n < current ∧ current ≤ n + blockHashCount then some (hashes n) else none

/-- What `CheckEra` signs, and what it verifies against, at the block `current`. -/
def checkEra (blockHashCount : Nat) (hashes : Nat → H256) (current : Nat) (era : MortalEra) :
    Option H256 :=
  blockHashAt blockHashCount hashes current (era.birth current)

structure SignedExtra where
  era : MortalEra
  nonce : Nat
  tip : Balance
  metadataHash : Bool
  deriving DecidableEq

def signingPeriod (blockHashCount : Nat) : Nat :=
  ((checkedNextPowerOfTwo 32 blockHashCount).map (· / 2)).getD 2

def signingEra (blockHashCount blockNumber : Nat) : MortalEra :=
  MortalEra.mortal (signingPeriod blockHashCount) (blockNumber - 1)

/-- `sign` signs the call with its extra data and what `CheckEra` adds to the payload. -/
def createTransaction {Call Signature : Type} (sign : Call → SignedExtra → H256 → Option Signature)
    (blockHashCount : Nat) (hashes : Nat → H256) (blockNumber : Nat)
    (call : Call) (account : AccountId) (nonce : Nat) :
    Option (Call × AccountId × Signature × SignedExtra) := do
  let tip := 0
  let era := signingEra blockHashCount blockNumber
  let extra : SignedExtra := { era := era, nonce := nonce, tip := tip, metadataHash := false }
  let birthHash ← checkEra blockHashCount hashes blockNumber era
  let signature ← sign call extra birthHash
  some (call, account, signature, extra)

theorem checkedNextPowerOfTwo_pow {bits k : Nat} (h : k < bits) :
    checkedNextPowerOfTwo bits (2 ^ k) = some (2 ^ k) := by
  rw [checkedNextPowerOfTwo, Nat.clog_pow 2 k (by decide)]
  exact if_pos (Nat.pow_lt_pow_right (by decide) h)

/-- Half of the next power of two is below the count; so is the two of the overflow. -/
theorem signingPeriod_lt {c : Nat} (h : 4 ≤ c) :
    ∃ k < 64, signingPeriod c = 2 ^ k ∧ 2 ^ k < c := by
  rw [signingPeriod, checkedNextPowerOfTwo]
  split
  · rename_i fits
    have exponent : Nat.clog 2 c < 32 := (Nat.pow_lt_pow_iff_right (by decide)).mp fits
    have below : 2 ^ (Nat.clog 2 c).pred < c :=
      Nat.pow_pred_clog_lt_self (by decide) (Nat.lt_of_lt_of_le (by decide) h)
    have positive : 0 < Nat.clog 2 c := Nat.clog_pos (by decide) (Nat.le_trans (by decide) h)
    refine ⟨(Nat.clog 2 c).pred, ?_, ?_, below⟩
    · exact (Nat.pred_le _).trans_lt (exponent.trans (by decide))
    · rw [Option.map_some, Option.getD_some, ← Nat.succ_pred_eq_of_pos positive, Nat.pow_succ,
        Nat.mul_div_cancel _ (by decide), Nat.pred_succ]
  · exact ⟨1, by decide, rfl, Nat.lt_of_lt_of_le (by decide) h⟩

theorem period_le {c : Nat} (h : 4 ≤ c) (blockNumber : Nat) :
    (signingEra c blockNumber).period ≤ c := by
  obtain ⟨k, bound, period, below⟩ := signingPeriod_lt h
  rw [signingEra, period]
  simp only [MortalEra.mortal, checkedNextPowerOfTwo_pow bound, Option.getD_some]
  exact Nat.max_le.mpr ⟨h, (Nat.min_le_left _ _).trans below.le⟩

theorem checkEra_eq_some {c current : Nat} {hashes : Nat → H256} {era : MortalEra}
    (before : era.birth current < current) (kept : current ≤ era.birth current + c) :
    checkEra c hashes current era = some (hashes (era.birth current)) := by
  rw [checkEra, blockHashAt, if_pos ⟨before, kept⟩]

theorem signingEra_birth_le (c : Nat) {n : Nat} (h : 1 ≤ n) :
    (signingEra c n).birth n ≤ n - 1 := by
  have succ := MortalEra.birth_succ_le (signingPeriod c) (n - 1)
  rwa [Nat.sub_add_cancel h] at succ

theorem signingEra_phase_le (c n : Nat) : (signingEra c n).phase ≤ n :=
  (MortalEra.phase_le _ _).trans (Nat.sub_le n 1)

theorem createTransaction_eq {Call Signature : Type}
    (sign : Call → SignedExtra → H256 → Option Signature) {c : Nat} {hashes : Nat → H256}
    {n : Nat} {hash : H256} (checked : checkEra c hashes n (signingEra c n) = some hash)
    (call : Call) (account : AccountId) (nonce : Nat) :
    createTransaction sign c hashes n call account nonce =
      (sign call ⟨signingEra c n, nonce, 0, false⟩ hash).map fun signature =>
        (call, account, signature, ⟨signingEra c n, nonce, 0, false⟩) := by
  rw [createTransaction, checked]
  simp only [Option.bind_eq_bind, Option.bind_some]
  cases sign call ⟨signingEra c n, nonce, 0, false⟩ hash <;> rfl

/-- The transaction that is signed at the block `n` is alive at a later block `m` of the same
chain exactly while `m` is below the end of its era, and the check then finds the hash that
was signed. -/
theorem createTransaction_alive {Call Signature : Type}
    (sign : Call → SignedExtra → H256 → Option Signature) (c : Nat) (hc : 4 ≤ c)
    (n : Nat) (hn : 1 ≤ n) (m : Nat) (later : n ≤ m) (hashes : Nat → H256)
    (call : Call) (account : AccountId) (nonce : Nat) :
    let era := signingEra c n
    createTransaction sign c hashes n call account nonce =
        (sign call ⟨era, nonce, 0, false⟩ (hashes (era.birth n))).map (fun signature =>
          (call, account, signature, ⟨era, nonce, 0, false⟩)) ∧
      (era.birth m = era.birth n ↔ m < era.birth n + era.period) ∧
      (m < era.birth n + era.period →
        era.birth m ≤ n - 1 ∧ m ≤ era.birth m + c ∧
          checkEra c hashes m era = some (hashes (era.birth n))) ∧
      checkEra c hashes n era = some (hashes (era.birth n)) := by
  intro era
  have phase := signingEra_phase_le c n
  have born : era.birth n ≤ n - 1 := signingEra_birth_le c hn
  have short : era.period ≤ c := period_le hc n
  have alive := era.birth_eq_iff phase later
  have now := era.lt_birth_add phase
  have signed : checkEra c hashes n era = some (hashes (era.birth n)) :=
    checkEra_eq_some (by omega) (by omega)
  refine ⟨createTransaction_eq sign signed call account nonce, alive, fun below => ?_, signed⟩
  have same := alive.mpr below
  have kept : m ≤ era.birth m + c := by omega
  refine ⟨same ▸ born, kept, ?_⟩
  rw [← same]
  exact checkEra_eq_some (by omega) kept

/-- The runtime keeps 2400 hashes, so a transaction of the block 10 lives until 2056. -/
theorem createTransaction_alive_sample :
    checkEra 2400 (FixedBytes.ofNat 32) 2056 (signingEra 2400 10) = some (.ofNat 32 9) :=
  ((createTransaction_alive (fun _ _ _ => some ()) 2400 (by decide) 10 (by decide) 2056
    (by decide) (FixedBytes.ofNat 32) () (.ofNat 32 0) 0).2.2.1 (by decide)).2.2

end Solochain
