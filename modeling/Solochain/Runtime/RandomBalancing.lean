import Mathlib.Data.Int.CardIntervalMod
import Solochain.Runtime.Types

/-!
The random number of balancing iterations of the election miner.

The seed comes from the host of the off-chain worker.
-/
namespace Solochain
namespace OffchainRandomBalancing

structure BalancingConfig where
  iterations : Nat
  tolerance : Nat
  deriving DecidableEq

def minerMaxIterations : Nat := 10

/-- `u32::decode`; the seed is longer than a word, so that no zeros are read behind it. -/
def decodeWord (seed : FixedBytes 32) : Nat :=
  FixedBytes.fromLittleEndian (seed.bytes.take 4)

def iterations (max : Nat) (seed : FixedBytes 32) : Nat :=
  match max with
  | 0 => 0
  | max => decodeWord seed % min (max + 1) (2 ^ 32 - 1)

def get (seed : FixedBytes 32) : Option BalancingConfig :=
  some { iterations := iterations minerMaxIterations seed, tolerance := 0 }

theorem length_wordSeed (word : Nat) (tail : FixedBytes 28) :
    (FixedBytes.littleEndian 4 word ++ tail.bytes).length = 32 := by
  rw [List.length_append, FixedBytes.length_littleEndian, tail.length_eq]

/-- The seed that starts with a word. -/
def wordSeed (word : Nat) (tail : FixedBytes 28) : FixedBytes 32 :=
  ⟨FixedBytes.littleEndian 4 word ++ tail.bytes, length_wordSeed word tail⟩

theorem decodeWord_wordSeed {word : Nat} (h : word < 2 ^ 32) (tail : FixedBytes 28) :
    decodeWord (wordSeed word tail) = word := by
  have first : (FixedBytes.littleEndian 4 word ++ tail.bytes).take 4 =
      FixedBytes.littleEndian 4 word :=
    List.take_left' (FixedBytes.length_littleEndian 4 word)
  rw [decodeWord, wordSeed, first]
  exact FixedBytes.fromLittleEndian_littleEndian 4 word h

theorem exists_wordSeed (seed : FixedBytes 32) :
    ∃ word < 2 ^ 32, ∃ tail, seed = wordSeed word tail := by
  have four : (seed.bytes.take 4).length = 4 := by
    rw [List.length_take, seed.length_eq]
    rfl
  have rest : (seed.bytes.drop 4).length = 28 := by
    rw [List.length_drop, seed.length_eq]
  refine ⟨decodeWord seed, ?_, ⟨seed.bytes.drop 4, rest⟩, ?_⟩
  · have bound := FixedBytes.fromLittleEndian_lt (seed.bytes.take 4)
    rwa [four] at bound
  · apply FixedBytes.ext_bytes
    have word := FixedBytes.littleEndian_fromLittleEndian (seed.bytes.take 4)
    rw [four] at word
    calc seed.bytes = seed.bytes.take 4 ++ seed.bytes.drop 4 := (List.take_append_drop 4 _).symm
      _ = FixedBytes.littleEndian 4 (decodeWord seed) ++ seed.bytes.drop 4 := by
          rw [decodeWord, word]

theorem iterations_of_pos {max : Nat} (pos : 0 < max) (small : max + 1 < 2 ^ 32)
    (seed : FixedBytes 32) : iterations max seed = decodeWord seed % (max + 1) := by
  obtain ⟨max, rfl⟩ := Nat.exists_eq_add_of_lt pos
  rw [iterations]
  · rw [Nat.min_eq_left (Nat.le_sub_one_of_lt small)]
  · omega

theorem minerMaxIterations_small : minerMaxIterations + 1 < 2 ^ 32 := by decide

theorem get_wordSeed {word : Nat} (h : word < 2 ^ 32) (tail : FixedBytes 28) :
    get (wordSeed word tail) = some ⟨word % 11, 0⟩ := by
  rw [get, iterations_of_pos (by decide) minerMaxIterations_small, decodeWord_wordSeed h]
  rfl

theorem word_classes : 2 ^ 32 / 11 = 390_451_572 ∧ 2 ^ 32 % 11 = 4 := by decide

/-- A seed counts by its first word alone, and behind any tail the words are spread over the
numbers of iterations as evenly as they can be. -/
theorem get_uniform :
    (∀ seed, ∃ word < 2 ^ 32, ∃ tail, seed = wordSeed word tail ∧
      get seed = some ⟨word % 11, 0⟩) ∧
    ∀ (tail : FixedBytes 28) (r : Fin 11),
      ((Finset.range (2 ^ 32)).filter fun word =>
        get (wordSeed word tail) = some ⟨r, 0⟩).card = 390_451_572 + if r < 4 then 1 else 0 := by
  constructor
  · intro seed
    obtain ⟨word, bound, tail, rfl⟩ := exists_wordSeed seed
    exact ⟨word, bound, tail, rfl, get_wordSeed bound tail⟩
  · intro tail r
    have classes : ∀ word ∈ Finset.range (2 ^ 32),
        (get (wordSeed word tail) = some ⟨r, 0⟩ ↔ word ≡ r [MOD 11]) := by
      intro word listed
      rw [get_wordSeed (Finset.mem_range.mp listed), Option.some_inj, BalancingConfig.mk.injEq,
        and_iff_left rfl, Nat.ModEq, Nat.mod_eq_of_lt r.isLt]
    rw [Finset.filter_congr classes, ← Nat.count_eq_card_filter_range,
      Nat.count_modEq_card _ (by decide), Nat.mod_eq_of_lt r.isLt, word_classes.1, word_classes.2]
    rfl

end OffchainRandomBalancing
end Solochain
