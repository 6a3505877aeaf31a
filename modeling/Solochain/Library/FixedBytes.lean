import Mathlib.Algebra.Order.Ring.Nat
import Mathlib.Data.List.Induction

/-!
Byte strings that carry their length in their type.
-/

abbrev Bytes := List UInt8

structure FixedBytes (n : Nat) where
  bytes : Bytes
  length_eq : bytes.length = n
  deriving DecidableEq

namespace FixedBytes
variable {n : Nat}

theorem ext_bytes {a b : FixedBytes n} (h : a.bytes = b.bytes) : a = b := by
  cases a
  cases b
  cases h
  rfl

theorem bytes_ne {a b : FixedBytes n} (h : a ≠ b) : a.bytes ≠ b.bytes :=
  fun same => h (ext_bytes same)

def bigEndian : Nat → Nat → Bytes
  | 0, _ => []
  | n + 1, v => bigEndian n (v / 256) ++ [UInt8.ofNat v]

theorem length_bigEndian (n v : Nat) : (bigEndian n v).length = n := by
  induction n generalizing v with
  | zero => rfl
  | succ n ih => simp [bigEndian, ih]

def ofNat (n v : Nat) : FixedBytes n := ⟨bigEndian n v, length_bigEndian n v⟩

def fromBigEndian (bs : Bytes) : Nat := bs.foldl (fun v b => v * 256 + b.toNat) 0

theorem fromBigEndian_concat (bs : Bytes) (b : UInt8) :
    fromBigEndian (bs ++ [b]) = fromBigEndian bs * 256 + b.toNat := by
  rw [fromBigEndian, List.foldl_append]
  rfl

theorem fromBigEndian_bigEndian (n v : Nat) (h : v < 256 ^ n) :
    fromBigEndian (bigEndian n v) = v := by
  induction n generalizing v with
  | zero => exact (Nat.lt_one_iff.mp h).symm
  | succ n ih =>
      have smaller : v / 256 < 256 ^ n := Nat.div_lt_of_lt_mul (by rwa [Nat.pow_succ'] at h)
      rw [bigEndian, fromBigEndian_concat, ih _ smaller, UInt8.toNat_ofNat']
      exact Nat.div_add_mod' v 256

theorem bigEndian_fromBigEndian (bs : Bytes) : bigEndian bs.length (fromBigEndian bs) = bs := by
  induction bs using List.reverseRecOn with
  | nil => rfl
  | append_singleton bs b ih =>
      have last : UInt8.ofNat (fromBigEndian bs * 256 + b.toNat) = b := by
        apply UInt8.toNat_inj.mp
        rw [UInt8.toNat_ofNat', Nat.mul_add_mod', Nat.mod_eq_of_lt b.toNat_lt]
      have rest : (fromBigEndian bs * 256 + b.toNat) / 256 = fromBigEndian bs := by
        rw [Nat.mul_comm, Nat.mul_add_div (by decide), Nat.div_eq_of_lt b.toNat_lt, Nat.add_zero]
      rw [List.length_append, List.length_singleton, bigEndian, fromBigEndian_concat, last, rest,
        ih]

theorem fromBigEndian_inj {as bs : Bytes} (length : as.length = bs.length) :
    fromBigEndian as = fromBigEndian bs ↔ as = bs := by
  constructor
  · intro same
    rw [← bigEndian_fromBigEndian as, ← bigEndian_fromBigEndian bs, length, same]
  · exact congrArg fromBigEndian

/-- Zeros in front do not count. -/
theorem fromBigEndian_replicate_append (k : Nat) (bs : Bytes) :
    fromBigEndian (List.replicate k 0 ++ bs) = fromBigEndian bs := by
  induction k with
  | zero => rfl
  | succ k ih =>
      rw [List.replicate_succ, List.cons_append, ← ih]
      rfl

def toNatBE (a : FixedBytes n) : Nat := fromBigEndian a.bytes

theorem toNatBE_inj {a b : FixedBytes n} : a.toNatBE = b.toNatBE ↔ a = b := by
  rw [toNatBE, toNatBE, fromBigEndian_inj (a.length_eq.trans b.length_eq.symm)]
  exact ⟨ext_bytes, congrArg bytes⟩

def littleEndian : Nat → Nat → Bytes
  | 0, _ => []
  | n + 1, v => UInt8.ofNat v :: littleEndian n (v / 256)

def fromLittleEndian : Bytes → Nat
  | [] => 0
  | b :: bs => b.toNat + 256 * fromLittleEndian bs

theorem length_littleEndian (n v : Nat) : (littleEndian n v).length = n := by
  induction n generalizing v with
  | zero => rfl
  | succ n ih => rw [littleEndian, List.length_cons, ih]

theorem fromLittleEndian_littleEndian (n v : Nat) (h : v < 256 ^ n) :
    fromLittleEndian (littleEndian n v) = v := by
  induction n generalizing v with
  | zero => exact (Nat.lt_one_iff.mp h).symm
  | succ n ih =>
      have smaller : v / 256 < 256 ^ n := Nat.div_lt_of_lt_mul (by rwa [Nat.pow_succ'] at h)
      rw [littleEndian, fromLittleEndian, ih _ smaller, UInt8.toNat_ofNat']
      exact Nat.mod_add_div v 256

theorem littleEndian_fromLittleEndian (bs : Bytes) :
    littleEndian bs.length (fromLittleEndian bs) = bs := by
  induction bs with
  | nil => rfl
  | cons b bs ih =>
      have low : UInt8.ofNat (b.toNat + 256 * fromLittleEndian bs) = b := by
        rw [← UInt8.toNat_inj, UInt8.toNat_ofNat']
        have := b.toNat_lt
        omega
      have high : (b.toNat + 256 * fromLittleEndian bs) / 256 = fromLittleEndian bs := by
        have := b.toNat_lt
        omega
      rw [fromLittleEndian, List.length_cons, littleEndian, low, high, ih]

theorem fromLittleEndian_lt (bs : Bytes) : fromLittleEndian bs < 256 ^ bs.length := by
  induction bs with
  | nil => exact Nat.one_pos
  | cons b bs ih =>
      have digit := b.toNat_lt
      rw [fromLittleEndian, List.length_cons, Nat.pow_succ']
      omega

def ofNatLE (n v : Nat) : FixedBytes n := ⟨littleEndian n v, length_littleEndian n v⟩

def toNatLE (a : FixedBytes n) : Nat := fromLittleEndian a.bytes

theorem toNatLE_ofNatLE {v : Nat} (h : v < 256 ^ n) : (ofNatLE n v).toNatLE = v :=
  fromLittleEndian_littleEndian n v h

theorem ofNatLE_toNatLE (a : FixedBytes n) : ofNatLE n a.toNatLE = a := by
  have bytes := littleEndian_fromLittleEndian a.bytes
  rw [a.length_eq] at bytes
  exact ext_bytes bytes

theorem toNatLE_lt (a : FixedBytes n) : a.toNatLE < 256 ^ n := by
  have bound := fromLittleEndian_lt a.bytes
  rwa [a.length_eq] at bound

/-- `count` bytes from `start` on, for a slice that lies inside the string. -/
def slice (a : FixedBytes n) (start count : Nat) (h : start + count ≤ n) : FixedBytes count :=
  ⟨(a.bytes.drop start).take count, by
    rw [List.length_take, List.length_drop, a.length_eq]
    omega⟩

theorem slice_eq_slice_iff (a : FixedBytes n) {start start' count : Nat} (h : start + count ≤ n)
    (h' : start' + count ≤ n) :
    a.slice start count h = a.slice start' count h' ↔
      ∀ j < count, a.bytes[start + j]? = a.bytes[start' + j]? := by
  have byte (k j : Nat) (inside : j < count) :
      ((a.bytes.drop k).take count)[j]? = a.bytes[k + j]? := by
    rw [List.getElem?_take_of_lt inside, List.getElem?_drop]
  constructor
  · intro same j inside
    have bytes := congrArg FixedBytes.bytes same
    rw [← byte start j inside, ← byte start' j inside]
    exact congrArg (fun bs : Bytes => bs[j]?) bytes
  · intro same
    apply ext_bytes
    apply List.ext_getElem?
    intro j
    by_cases inside : j < count
    · rw [slice, slice, byte start j inside, byte start' j inside, same j inside]
    · rw [slice, slice, List.getElem?_take_eq_none (Nat.le_of_not_lt inside),
        List.getElem?_take_eq_none (Nat.le_of_not_lt inside)]

end FixedBytes
