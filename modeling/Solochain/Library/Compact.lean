import Solochain.Library.Codec

/-!
SCALE's compact numbers below `2 ^ 32`, and byte vectors behind a compact length.

The two lowest bits of the first byte tell how many bytes the number takes. A
longer form than the number needs is not accepted.
-/

def readLittleEndian (k : Nat) (bytes : Bytes) : Option (Nat × Bytes) :=
  if k ≤ bytes.length then
    some (FixedBytes.fromLittleEndian (bytes.take k), bytes.drop k)
  else none

theorem readLittleEndian_append {k v : Nat} (h : v < 256 ^ k) (rest : Bytes) :
    readLittleEndian k (FixedBytes.littleEndian k v ++ rest) = some (v, rest) := by
  have length := FixedBytes.length_littleEndian k v
  have long : k ≤ (FixedBytes.littleEndian k v ++ rest).length := by
    rw [List.length_append, length]
    exact Nat.le_add_right k _
  rw [readLittleEndian, if_pos long, List.take_left' length, List.drop_left' length,
    FixedBytes.fromLittleEndian_littleEndian k v h]

namespace Compact

def encode (n : Nat) : Bytes :=
  if n < 2 ^ 6 then FixedBytes.littleEndian 1 (4 * n)
  else if n < 2 ^ 14 then FixedBytes.littleEndian 2 (4 * n + 1)
  else if n < 2 ^ 30 then FixedBytes.littleEndian 4 (4 * n + 2)
  else 3 :: FixedBytes.littleEndian 4 n

/-- The number without its two mode bits, if it needs as many bytes as it takes. -/
def readShifted (k least : Nat) (bytes : Bytes) : Option (Nat × Bytes) := do
  let (v, rest) ← readLittleEndian k bytes
  if least ≤ v / 4 then some (v / 4, rest) else none

def read : Bytes → Option (Nat × Bytes)
  | [] => none
  | b :: bytes =>
      match b.toNat % 4 with
      | 0 => some (b.toNat / 4, bytes)
      | 1 => readShifted 2 (2 ^ 6) (b :: bytes)
      | 2 => readShifted 4 (2 ^ 14) (b :: bytes)
      | _ => do
          let (v, rest) ← readLittleEndian 4 bytes
          if b.toNat / 4 = 0 ∧ 2 ^ 30 ≤ v then some (v, rest) else none

def size (n : Nat) : Nat :=
  if n < 2 ^ 6 then 1 else if n < 2 ^ 14 then 2 else if n < 2 ^ 30 then 4 else 5

theorem length_encode (n : Nat) : (encode n).length = size n := by
  rw [encode, size]
  split
  · rfl
  · split
    · rfl
    · split <;> rfl

theorem one_le_size (n : Nat) : 1 ≤ size n := by
  rw [size]
  split
  · exact Nat.le_refl 1
  · split
    · decide
    · split <;> decide

theorem size_le_five (n : Nat) : size n ≤ 5 := by
  rw [size]
  split
  · decide
  · split
    · decide
    · split <;> decide

theorem size_le_two_iff (n : Nat) : size n ≤ 2 ↔ n < 2 ^ 14 := by
  rw [size]
  split
  · omega
  · split
    · omega
    · split <;> omega

theorem mode_head (v : Nat) : (UInt8.ofNat v).toNat % 4 = v % 4 := by
  rw [UInt8.toNat_ofNat']
  omega

theorem read_one {n : Nat} (h : n < 2 ^ 6) (rest : Bytes) :
    read (FixedBytes.littleEndian 1 (4 * n) ++ rest) = some (n, rest) := by
  have head : (UInt8.ofNat (4 * n)).toNat = 4 * n := by
    rw [UInt8.toNat_ofNat']
    omega
  change read (UInt8.ofNat (4 * n) :: rest) = _
  rw [read, head, Nat.mul_mod_right]
  simp only [Nat.mul_div_cancel_left n (show 0 < 4 by decide)]

theorem readShifted_append {k least n m : Nat} (mode : m < 4) (h : 4 * n + m < 256 ^ k)
    (large : least ≤ n) (rest : Bytes) :
    readShifted k least (FixedBytes.littleEndian k (4 * n + m) ++ rest) = some (n, rest) := by
  have value : (4 * n + m) / 4 = n := by omega
  rw [readShifted, readLittleEndian_append h]
  simp only [Option.bind_eq_bind, Option.bind_some, value, if_pos large]

theorem read_two {n : Nat} (h : n < 2 ^ 14) (large : 2 ^ 6 ≤ n) (rest : Bytes) :
    read (FixedBytes.littleEndian 2 (4 * n + 1) ++ rest) = some (n, rest) := by
  have mode : (UInt8.ofNat (4 * n + 1)).toNat % 4 = 1 := by
    rw [mode_head]
    omega
  have whole := readShifted_append (k := 2) (m := 1) (by decide) (by omega) large rest
  change read (UInt8.ofNat (4 * n + 1) :: _) = _
  rw [read, mode]
  exact whole

theorem read_four {n : Nat} (h : n < 2 ^ 30) (large : 2 ^ 14 ≤ n) (rest : Bytes) :
    read (FixedBytes.littleEndian 4 (4 * n + 2) ++ rest) = some (n, rest) := by
  have mode : (UInt8.ofNat (4 * n + 2)).toNat % 4 = 2 := by
    rw [mode_head]
    omega
  have whole := readShifted_append (k := 4) (m := 2) (by decide) (by omega) large rest
  change read (UInt8.ofNat (4 * n + 2) :: _) = _
  rw [read, mode]
  exact whole

theorem read_five {n : Nat} (h : n < 2 ^ 32) (large : 2 ^ 30 ≤ n) (rest : Bytes) :
    read (3 :: FixedBytes.littleEndian 4 n ++ rest) = some (n, rest) := by
  have whole := readLittleEndian_append (show n < 256 ^ 4 by omega) rest
  change (do
    let (v, rest) ← readLittleEndian 4 (FixedBytes.littleEndian 4 n ++ rest)
    if 0 = 0 ∧ 2 ^ 30 ≤ v then some (v, rest) else none) = _
  simp only [whole, Option.bind_eq_bind, Option.bind_some, true_and, if_pos large]

theorem read_encode {n : Nat} (h : n < 2 ^ 32) (rest : Bytes) :
    read (encode n ++ rest) = some (n, rest) := by
  rw [encode]
  split
  · rename_i one
    exact read_one one rest
  · split
    · rename_i one two
      exact read_two two (Nat.not_lt.mp one) rest
    · split
      · rename_i two four
        exact read_four four (Nat.not_lt.mp two) rest
      · rename_i four
        exact read_five h (Nat.not_lt.mp four) rest

end Compact

/-- A `Vec<u8>` of a length that the prefix can count. -/
structure ByteVec where
  bytes : Bytes
  length_lt : bytes.length < 2 ^ 32

namespace Codec
variable {α β : Type}

def refine (c : Codec α) (forth : α → Option β) (back : β → α)
    (inverse : ∀ b, forth (back b) = some b) : Codec β where
  encode b := c.encode (back b)
  read bytes := do
    let (a, rest) ← c.read bytes
    let b ← forth a
    some (b, rest)
  read_encode := by
    intro b rest
    simp only [c.read_encode, inverse, Option.bind_eq_bind, Option.bind_some]

def byteVec : Codec ByteVec where
  encode v := Compact.encode v.bytes.length ++ v.bytes
  read bytes :=
    match Compact.read bytes with
    | none => none
    | some (n, rest) =>
        if h : n ≤ rest.length ∧ n < 2 ^ 32 then
          some (⟨rest.take n, by
            rw [List.length_take]
            omega⟩, rest.drop n)
        else none
  read_encode := by
    intro v rest
    rw [List.append_assoc, Compact.read_encode v.length_lt]
    have fits : v.bytes.length ≤ (v.bytes ++ rest).length ∧ v.bytes.length < 2 ^ 32 := by
      rw [List.length_append]
      exact ⟨Nat.le_add_right _ _, v.length_lt⟩
    simp only [dif_pos fits, List.take_left, List.drop_left]

end Codec
